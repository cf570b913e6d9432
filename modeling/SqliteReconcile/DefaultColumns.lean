import SqliteReconcile.LiteralValues
import SqliteReconcile.Outcomes

/-!
# Defaults added to an INSERT

The column list and the rows of an INSERT grow together by the nondeterministic defaults that
the list omits. SQLite compares column names without case.
-/
namespace SqliteReconcile.DefaultColumns
open Outcomes ReplayPreparation LiteralValues Identifiers

/-- An INSERT as SQLite takes it: the column list, `none` for all columns, and the rows. DEFAULT
VALUES is one empty row for the empty list. -/
structure ColumnRows where
  list : Option (List Identifier)
  rows : List (List Expression)

/-- SQLite does not read a reserved word as a name, unless it is quoted. -/
def readName (reserved : String → Bool) (identifier : Identifier) : Option String :=
  if !identifier.quoted && reserved identifier.name then none else some identifier.name

/-- The list names columns of the table, and every row has a value for each entry. -/
def Prepares (reserved : String → Bool) (declared : List TableInfoRow) (insert : ColumnRows) :
    Prop :=
  match insert.list with
  | none => ∀ row ∈ insert.rows, row.length = declared.length
  | some list =>
    (∀ entry ∈ list, ∃ name, readName reserved entry = some name ∧
      ∃ column ∈ declared, foldCase column.name = foldCase name) ∧
    ∀ row ∈ insert.rows, row.length = list.length

/-- The names that the values of a row belong to. -/
def ColumnRows.names (insert : ColumnRows) (declared : List TableInfoRow) : List String :=
  match insert.list with
  | none => declared.map TableInfoRow.name
  | some list => list.map Identifier.name

/-- The list gives a column a value. -/
def Supplies (insert : ColumnRows) (declared : List TableInfoRow) (column : String) : Prop :=
  ∃ name ∈ insert.names declared, foldCase name = foldCase column

instance (insert : ColumnRows) (declared : List TableInfoRow) (column : String) :
    Decidable (Supplies insert declared column) :=
  inferInstanceAs (Decidable (∃ name ∈ insert.names declared, foldCase name = foldCase column))

/-- The value of a column in a row: the leftmost entry of the list that names it decides. -/
def valueAt {α : Type} (names : List String) (row : List α) (column : String) : Option α :=
  ((names.zip row).find? fun entry => foldCase entry.1 = foldCase column).map Prod.snd

section

variable {α : Type} {names otherNames : List String} {row otherRow : List α} {column : String}

lemma find?_zip_isSome (hlength : row.length = names.length)
    (h : ∃ name ∈ names, foldCase name = foldCase column) :
    ((names.zip row).find? fun entry => foldCase entry.1 = foldCase column).isSome := by
  obtain ⟨name, hname, hfold⟩ := h
  obtain ⟨i, hi, rfl⟩ := List.getElem_of_mem hname
  rw [List.find?_isSome]
  have hzip : i < (names.zip row).length := by
    simp only [List.length_zip]
    omega
  exact ⟨(names.zip row)[i], List.getElem_mem hzip, by simpa using hfold⟩

lemma valueAt_append_left (hlength : row.length = names.length)
    (h : ∃ name ∈ names, foldCase name = foldCase column) :
    valueAt (names ++ otherNames) (row ++ otherRow) column = valueAt names row column := by
  have hfound := find?_zip_isSome hlength h
  unfold valueAt
  rw [List.zip_append hlength.symm, List.find?_append, Option.or_of_isSome hfound]

lemma valueAt_append_right (hlength : row.length = names.length)
    (h : ¬ ∃ name ∈ names, foldCase name = foldCase column) :
    valueAt (names ++ otherNames) (row ++ otherRow) column =
      valueAt otherNames otherRow column := by
  have hnone : (names.zip row).find? (fun entry => foldCase entry.1 = foldCase column) =
      none := by
    rw [List.find?_eq_none]
    intro entry hentry hfold
    exact h ⟨entry.1, (List.of_mem_zip hentry).1, by simpa using hfold⟩
  unfold valueAt
  rw [List.zip_append hlength.symm, List.find?_append, hnone, Option.none_or]

lemma valueAt_map {columns : List TableInfoRow} (f : TableInfoRow → α)
    (hdistinct : (columns.map fun column => foldCase column.name).Nodup)
    {column : TableInfoRow} (h : column ∈ columns) :
    valueAt (columns.map TableInfoRow.name) (columns.map f) column.name = some (f column) := by
  induction columns with
  | nil => simp at h
  | cons first columns ih =>
    obtain ⟨hfirst, hrest⟩ := List.nodup_cons.mp hdistinct
    unfold valueAt at ih ⊢
    simp only [List.map_cons, List.zip_cons_cons, List.find?_cons]
    rcases List.mem_cons.mp h with rfl | hmem
    · simp
    · have hne : ¬ foldCase first.name = foldCase column.name := by
        intro heq
        exact hfirst (List.mem_map.mpr ⟨column, hmem, heq.symm⟩)
      simp only [hne, decide_false]
      exact ih hrest hmem

end

/-- A statement of the user. -/
inductive Submitted
  | values (table : String) (list : Option (List Identifier)) (rows : List Row)
    (clauses : List Expression)
  | defaultValues (table : String) (clauses : List Expression)

namespace Submitted

def table : Submitted → String
  | values table .. => table
  | defaultValues table _ => table

/-- What sqlglot parses, DEFAULT VALUES in the form `VALUES ()`. -/
def parsed : Submitted → Insert
  | values table none rows clauses => ⟨.table table, .values rows, clauses⟩
  | values table (some list) rows clauses => ⟨.schema (some table) list, .values rows, clauses⟩
  | defaultValues table clauses => ⟨.table table, .values [.tuple []], clauses⟩

def original : Submitted → ColumnRows
  | values _ list rows _ => ⟨list, rows.map Row.expressions⟩
  | defaultValues .. => ⟨some [], [[]]⟩

end Submitted

def columnRows (insert : Insert) : ColumnRows where
  list :=
    match insert.this with
    | .schema _ list => some list
    | .table _ | .other => none
  rows :=
    match insert.expression with
    | .values rows => rows.map Row.expressions
    | .other _ => []

def defaultValue {Real : Type} (conn : Connection Real) (row : ℕ) (column : TableInfoRow) :
    Option (Value Real) :=
  conn.evaluate (.default row column.name) (column.defaultSql.getD [])

section

variable {Real : Type} (readReal : List Char → Option Real) (reserved : String → Bool)
  (libraries : Libraries Real) (conn : Connection Real)

def treeRows : Tree → ColumnRows
  | .insert insert => columnRows insert
  | .other _ => ⟨none, []⟩

/-- What is executed for a statement. A statement with a default that cannot be evaluated is
blocked and stays as it is. -/
def rewritten : Submitted → Except Failure ColumnRows
  | .values table list rows clauses =>
    (rewriteInsertDefaults libraries conn
      (.insert (Submitted.values table list rows clauses).parsed)).map fun rewrite =>
        treeRows rewrite.tree
  | .defaultValues table clauses => do
    match ← prepareDefaultValues libraries conn
      (.insert (Submitted.defaultValues table clauses).parsed) with
    | some (.rewritten tree _) => .ok (treeRows tree)
    | some .original => .ok (Submitted.defaultValues table clauses).original
    | some (.blocked _) | none => .error .sqliteError

/-- A statement that SQLite prepares; no evaluation of a default fails. -/
structure Insertion where
  submitted : Submitted
  distinct : ((conn.tableInfo submitted.table).map fun column => foldCase column.name).Nodup
  prepares : Prepares reserved (conn.tableInfo submitted.table) submitted.original
  evaluates : rewritten libraries conn submitted ≠ .error .sqliteError

/-- A statement whose preparation raised nothing. -/
structure Materialized extends Insertion reserved libraries conn where
  executed : ColumnRows
  rewritten_eq : rewritten libraries conn submitted = .ok executed

/-- The preparation takes the default for nondeterministic. -/
def takenForNondeterministic (defaultSql : Option (List Char)) : Bool :=
  match defaultIsNondeterministic libraries defaultSql with
  | .ok found => found
  | .error _ => false

/-- sqlglot finds the tokens of the default. -/
def Tokenizes (defaultSql : Option (List Char)) : Prop :=
  defaultIsNondeterministic libraries defaultSql ≠ .error .tokenError

/-- The columns that the preparation adds to a list that has the given names. -/
def addedColumns (table : String) (explicitColumns : List String) : List TableInfoRow :=
  (conn.tableInfo table).filter fun column =>
    !explicitColumns.contains column.name && takenForNondeterministic libraries column.defaultSql

def defaultPair (column : TableInfoRow) : String × List Char :=
  (column.name, column.defaultSql.getD [])

def defaultLiteral (row : ℕ) (column : TableInfoRow) : Expression :=
  literalOf libraries ((defaultValue conn row column).getD .null)

lemma defaultIsNondeterministic_error {defaultSql : Option (List Char)} {failure : Failure}
    (h : defaultIsNondeterministic libraries defaultSql = .error failure) :
    failure = .tokenError := by
  unfold defaultIsNondeterministic at h
  split at h
  · cases h
  · split at h <;> cases h
    rfl

lemma defaultIsNondeterministic_of_tokenizes {defaultSql : Option (List Char)}
    (h : Tokenizes libraries defaultSql) :
    defaultIsNondeterministic libraries defaultSql =
      .ok (takenForNondeterministic libraries defaultSql) := by
  unfold takenForNondeterministic
  cases hfound : defaultIsNondeterministic libraries defaultSql with
  | ok found => rfl
  | error failure =>
    rw [defaultIsNondeterministic_error libraries hfound] at hfound
    exact absurd hfound h

lemma defaultColumnsAmong_eq {explicitColumns : List String} {columns : List TableInfoRow}
    (h : ∀ column ∈ columns, column.name ∉ explicitColumns →
      Tokenizes libraries column.defaultSql) :
    defaultColumnsAmong libraries explicitColumns columns =
      .ok ((columns.filter fun column => !explicitColumns.contains column.name &&
        takenForNondeterministic libraries column.defaultSql).map defaultPair) := by
  induction columns with
  | nil => rfl
  | cons column columns ih =>
    have hfound : isNondeterministicDefault libraries explicitColumns column =
        .ok (!explicitColumns.contains column.name &&
          takenForNondeterministic libraries column.defaultSql) := by
      unfold isNondeterministicDefault
      split_ifs with hexplicit
      · rw [hexplicit]
        rfl
      · rw [defaultIsNondeterministic_of_tokenizes libraries
          (h column List.mem_cons_self (by simpa using hexplicit)),
          Bool.eq_false_of_not_eq_true hexplicit]
        rfl
    rw [defaultColumnsAmong, ih fun other hother => h other (List.mem_cons_of_mem _ hother),
      hfound, List.filter_cons]
    cases !explicitColumns.contains column.name &&
      takenForNondeterministic libraries column.defaultSql <;> rfl

lemma tokenizes_of_ok {explicitColumns : List String} {columns : List TableInfoRow}
    {defaults : List (String × List Char)}
    (h : defaultColumnsAmong libraries explicitColumns columns = .ok defaults) :
    ∀ column ∈ columns, column.name ∉ explicitColumns →
      Tokenizes libraries column.defaultSql := by
  induction columns generalizing defaults with
  | nil => simp
  | cons first columns ih =>
    obtain ⟨found, hfound, h⟩ := bind_eq_ok.mp h
    obtain ⟨others, hothers, -⟩ := bind_eq_ok.mp h
    intro column hcolumn hname
    rcases List.mem_cons.mp hcolumn with rfl | hmem
    · intro htoken
      rw [isNondeterministicDefault, if_neg (by simpa using hname), htoken] at hfound
      cases hfound
    · exact ih hothers column hmem hname

lemma defaultColumnsAmong_error {explicitColumns : List String} {columns : List TableInfoRow}
    {failure : Failure}
    (h : defaultColumnsAmong libraries explicitColumns columns = .error failure) :
    failure = .tokenError := by
  induction columns with
  | nil => cases h
  | cons column columns ih =>
    rw [defaultColumnsAmong] at h
    cases hfound : isNondeterministicDefault libraries explicitColumns column with
    | ok found =>
      rw [hfound] at h
      cases hrest : defaultColumnsAmong libraries explicitColumns columns with
      | ok others =>
        rw [hrest] at h
        cases h
      | error other =>
        rw [hrest] at h
        obtain rfl : other = failure := by simpa using h
        exact ih hrest
    | error other =>
      rw [hfound] at h
      obtain rfl : other = failure := by simpa using h
      unfold isNondeterministicDefault at hfound
      split_ifs at hfound
      exact defaultIsNondeterministic_error libraries hfound

/-- The defaults that the preparation looks at have tokens. -/
def DefaultsTokenize (table : String) (explicitColumns : List String) : Prop :=
  ∀ column ∈ conn.tableInfo table, column.name ∉ explicitColumns →
    Tokenizes libraries column.defaultSql

lemma nondeterministicDefaultColumns_eq {table : String} {explicitColumns : List String}
    (h : DefaultsTokenize libraries conn table explicitColumns) :
    nondeterministicDefaultColumns libraries conn table explicitColumns =
      .ok ((addedColumns libraries conn table explicitColumns).map defaultPair) :=
  defaultColumnsAmong_eq libraries h

/-- The loop raises exactly when it looks at a default without tokens. -/
lemma nondeterministicDefaultColumns_error {table : String} {explicitColumns : List String} :
    nondeterministicDefaultColumns libraries conn table explicitColumns = .error .tokenError ↔
      ¬ DefaultsTokenize libraries conn table explicitColumns := by
  constructor
  · intro h htokenize
    rw [nondeterministicDefaultColumns_eq libraries conn htokenize] at h
    cases h
  · intro hnot
    cases hresult : nondeterministicDefaultColumns libraries conn table explicitColumns with
    | error failure => rw [defaultColumnsAmong_error libraries hresult]
    | ok defaults => exact absurd (tokenizes_of_ok libraries hresult) hnot

lemma nondeterministicDefaultColumns_ok {table : String} {explicitColumns : List String}
    {defaults : List (String × List Char)}
    (h : nondeterministicDefaultColumns libraries conn table explicitColumns = .ok defaults) :
    defaults = (addedColumns libraries conn table explicitColumns).map defaultPair := by
  by_cases htokenize : DefaultsTokenize libraries conn table explicitColumns
  · rw [nondeterministicDefaultColumns_eq libraries conn htokenize] at h
    exact (Except.ok.inj h).symm
  · rw [(nondeterministicDefaultColumns_error libraries conn).mpr htokenize] at h
    cases h

lemma evaluateDefaults_eq_some {row : ℕ} {columns : List TableInfoRow} {added : List Expression}
    (h : evaluateDefaults libraries conn row (columns.map defaultPair) = some added) :
    (∀ column ∈ columns, (defaultValue conn row column).isSome) ∧
      added = columns.map (defaultLiteral libraries conn row) := by
  induction columns generalizing added with
  | nil =>
    simp only [List.map_nil, evaluateDefaults, Option.some.injEq] at h
    simp [← h]
  | cons column columns ih =>
    simp only [List.map_cons, defaultPair, evaluateDefaults] at h
    change (do
      let value ← defaultValue conn row column
      let others ← evaluateDefaults libraries conn row (columns.map defaultPair)
      return literalOf libraries value :: others) = some added at h
    cases hvalue : defaultValue conn row column with
    | none => simp [hvalue] at h
    | some value =>
      cases hothers : evaluateDefaults libraries conn row (columns.map defaultPair) with
      | none => simp [hvalue, hothers] at h
      | some others =>
        have hadded : literalOf libraries value :: others = added := by
          simpa [hvalue, hothers] using h
        obtain ⟨hsome, rfl⟩ := ih hothers
        constructor
        · intro c hc
          rcases List.mem_cons.mp hc with rfl | hc
          · simp [hvalue]
          · exact hsome c hc
        · simp [← hadded, defaultLiteral, hvalue]

lemma appendValuesDefaults_eq_some {index : ℕ} {columns : List TableInfoRow} {rows result : List Row}
    (h : appendValuesDefaults libraries conn index (columns.map defaultPair) rows = some result) :
    (∀ i < rows.length, ∀ column ∈ columns, (defaultValue conn (index + i) column).isSome) ∧
      result.map Row.expressions = (rows.map Row.expressions).mapIdx fun i row =>
        row ++ columns.map (defaultLiteral libraries conn (index + i)) := by
  induction rows generalizing index result with
  | nil =>
    simp only [appendValuesDefaults, Option.some.injEq] at h
    simp [← h]
  | cons row rows ih =>
    simp only [appendValuesDefaults] at h
    cases hadded : evaluateDefaults libraries conn index (columns.map defaultPair) with
    | none => simp [hadded] at h
    | some added =>
      cases hothers : appendValuesDefaults libraries conn (index + 1) (columns.map defaultPair)
        rows with
      | none => simp [hadded, hothers] at h
      | some others =>
        have hresult : .tuple (row.expressions ++ added) :: others = result := by
          simpa [hadded, hothers] using h
        obtain ⟨hsome, rfl⟩ := evaluateDefaults_eq_some libraries conn hadded
        obtain ⟨hsomes, hrows⟩ := ih hothers
        constructor
        · intro i hi
          cases i with
          | zero => exact hsome
          | succ i =>
            have hstep := hsomes i (by simpa using hi)
            rwa [show index + 1 + i = index + (i + 1) by omega] at hstep
        · rw [← hresult]
          simp only [List.map_cons, Row.expressions, List.mapIdx_cons, Nat.add_zero, hrows]
          congr 1
          apply List.mapIdx_eq_mapIdx_iff.mpr
          intro i hi
          rw [show index + 1 + i = index + (i + 1) by omega]

lemma rewriteInsertDefaults_values (this : Target) {table : String} {rows : List Row}
    {clauses : List Expression} {rewrite : DefaultsRewrite} {added : List TableInfoRow}
    (htable : tableNameFromTarget this = some table)
    (hadded : addedColumns libraries conn table (explicitInsertColumns conn this) = added)
    (h : rewriteInsertDefaults libraries conn (.insert ⟨this, .values rows, clauses⟩) =
      .ok rewrite) :
    ∃ result, rewrite.tree = .insert
        ⟨appendTargetColumns libraries this (added.map TableInfoRow.name), .values result,
          clauses⟩ ∧
      result.map Row.expressions = (rows.map Row.expressions).mapIdx (fun i row =>
        row ++ added.map (defaultLiteral libraries conn i)) ∧
      ∀ i < rows.length, ∀ column ∈ added, (defaultValue conn i column).isSome := by
  simp only [rewriteInsertDefaults, htable] at h
  obtain ⟨defaults, hdefaults, h⟩ := bind_eq_ok.mp h
  rw [nondeterministicDefaultColumns_ok libraries conn hdefaults, hadded] at h
  cases added with
  | nil =>
    obtain rfl : ⟨true, .insert ⟨this, .values rows, clauses⟩, false⟩ = rewrite :=
      Except.ok.inj h
    refine ⟨rows, rfl, ?_, by simp⟩
    apply List.ext_getElem?
    intro i
    simp [Function.comp_def]
  | cons column columns =>
    rw [if_neg (by simp)] at h
    cases hresult : appendValuesDefaults libraries conn 0 ((column :: columns).map defaultPair)
      rows with
    | none =>
      rw [hresult] at h
      cases h
    | some result =>
      rw [hresult] at h
      obtain ⟨hsome, hrows⟩ := appendValuesDefaults_eq_some libraries conn hresult
      simp only [Nat.zero_add] at hsome hrows
      refine ⟨result, ?_, hrows, hsome⟩
      rw [← Except.ok.inj h, List.map_map]
      rfl

lemma prepareDefaultValues_rewritten {table : String} {clauses : List Expression} {tree : Tree}
    {resolution : Option ConflictSyntax.SQLiteConflictResolution} {added : List TableInfoRow}
    (hadded : addedColumns libraries conn table [] = added)
    (h : prepareDefaultValues libraries conn
      (.insert ⟨.table table, .values [.tuple []], clauses⟩) =
        .ok (some (.rewritten tree resolution))) :
    ∃ result, tree = .insert
        ⟨.schema (some table) (added.map fun column => toIdentifier libraries column.name),
          .values result, clauses⟩ ∧
      result.map Row.expressions = [added.map (defaultLiteral libraries conn 0)] ∧
      ∀ column ∈ added, (defaultValue conn 0 column).isSome := by
  simp only [prepareDefaultValues, tableNameFromTarget] at h
  obtain ⟨defaults, hdefaults, h⟩ := bind_eq_ok.mp h
  rw [nondeterministicDefaultColumns_ok libraries conn hdefaults, hadded] at h
  cases added with
  | nil => simp at h
  | cons column columns =>
    rw [if_neg (by simp)] at h
    cases hresult : appendValuesDefaults libraries conn 0 ((column :: columns).map defaultPair)
      [.tuple []] with
    | none =>
      rw [hresult] at h
      exact absurd h (by simp)
    | some result =>
      rw [hresult] at h
      simp only [Except.ok.injEq, Option.some.injEq, Prepared.rewritten.injEq] at h
      obtain ⟨hsome, hrows⟩ := appendValuesDefaults_eq_some libraries conn hresult
      simp only [Nat.zero_add] at hsome hrows
      refine ⟨result, ?_, hrows, hsome 0 (by simp)⟩
      rw [← h.1]
      simp [appendTargetColumns, defaultPair]

lemma prepareDefaultValues_original {table : String} {clauses : List Expression}
    (h : prepareDefaultValues libraries conn
      (.insert ⟨.table table, .values [.tuple []], clauses⟩) = .ok (some .original)) :
    addedColumns libraries conn table [] = [] := by
  simp only [prepareDefaultValues, tableNameFromTarget] at h
  obtain ⟨defaults, hdefaults, h⟩ := bind_eq_ok.mp h
  rw [nondeterministicDefaultColumns_ok libraries conn hdefaults] at h
  cases hadded : addedColumns libraries conn table [] with
  | nil => rfl
  | cons column columns =>
    rw [hadded, if_neg (by simp)] at h
    split at h <;> simp at h

namespace Submitted

def explicitNames (conn : Connection Real) : Submitted → List String
  | values table list rows clauses =>
    explicitInsertColumns conn (values table list rows clauses).parsed.this
  | defaultValues .. => []

end Submitted

lemma addedColumns_all (table : String) :
    addedColumns libraries conn table ((conn.tableInfo table).map TableInfoRow.name) = [] := by
  refine List.filter_eq_nil_iff.mpr ?_
  intro column hcolumn
  have hcontains : ((conn.tableInfo table).map TableInfoRow.name).contains column.name = true :=
    List.contains_iff_mem.mpr (List.mem_map_of_mem hcolumn)
  rw [hcontains]
  simp

lemma added_nil_of_list (submitted : Submitted) {added : List TableInfoRow}
    (hadded : addedColumns libraries conn submitted.table (submitted.explicitNames conn) = added)
    (h : submitted.original.list = none) : added = [] := by
  cases submitted with
  | values table list rows clauses =>
    obtain rfl : list = none := h
    rw [← hadded]
    exact addedColumns_all libraries conn table
  | defaultValues table clauses => exact absurd h (by simp [Submitted.original])

lemma append_parsed (table : String) (list : Option (List Identifier)) (rows result : List Row)
    (clauses others : List Expression) {added : List TableInfoRow}
    (hnone : list = none → added = []) :
    let insert : Insert := ⟨appendTargetColumns libraries
      (Submitted.values table list rows clauses).parsed.this (added.map TableInfoRow.name),
      .values result, others⟩
    tableNameFromTarget insert.this = some table ∧
      columnRows insert = ⟨list.map (· ++ added.map fun column =>
        toIdentifier libraries column.name), result.map Row.expressions⟩ := by
  intro insert
  cases list with
  | none =>
    have hinsert : insert.this = .table table := by
      simp only [insert, hnone rfl]
      rfl
    exact ⟨by rw [hinsert]; rfl, by simp only [columnRows, hinsert]; rfl⟩
  | some list =>
    have hinsert : insert.this = .schema (some table)
        (list ++ added.map fun column => toIdentifier libraries column.name) := by
      change appendTargetColumns libraries (.schema (some table) list) _ = _
      cases added with
      | nil => simp [appendTargetColumns]
      | cons column columns => simp [appendTargetColumns]
    exact ⟨by rw [hinsert]; rfl, by simp only [columnRows, hinsert]; rfl⟩

lemma rewritten_eq_ok {submitted : Submitted} {executed : ColumnRows}
    {added : List TableInfoRow}
    (hadded : addedColumns libraries conn submitted.table (submitted.explicitNames conn) = added)
    (h : rewritten libraries conn submitted = .ok executed) :
    executed.list = submitted.original.list.map
        (· ++ added.map fun column => toIdentifier libraries column.name) ∧
      executed.rows = submitted.original.rows.mapIdx (fun i row =>
        row ++ added.map (defaultLiteral libraries conn i)) ∧
      ∀ i < submitted.original.rows.length, ∀ column ∈ added,
        (defaultValue conn i column).isSome := by
  have hnone := added_nil_of_list libraries conn _ hadded
  cases submitted with
  | values table list rows clauses =>
    obtain ⟨rewrite, hrewrite, rfl⟩ := map_eq_ok.mp h
    have hlength : (Submitted.values table list rows clauses).original.rows.length =
        rows.length := List.length_map _
    have htable : tableNameFromTarget (Submitted.values table list rows clauses).parsed.this =
        some table := by cases list <;> rfl
    have hinsert : (Submitted.values table list rows clauses).parsed =
        ⟨(Submitted.values table list rows clauses).parsed.this, .values rows, clauses⟩ := by
      cases list <;> rfl
    rw [hinsert] at hrewrite
    obtain ⟨result, htree, hrows, hsome⟩ :=
      rewriteInsertDefaults_values libraries conn _ htable hadded hrewrite
    have hcolumns := (append_parsed libraries table list rows result clauses clauses hnone).2
    rw [htree, treeRows, hcolumns]
    exact ⟨rfl, hrows, by simpa only [hlength] using hsome⟩
  | defaultValues table clauses =>
    change addedColumns libraries conn table [] = added at hadded
    obtain ⟨prepared, hprepared, h⟩ := bind_eq_ok.mp h
    change prepareDefaultValues libraries conn
      (.insert ⟨.table table, .values [.tuple []], clauses⟩) = .ok prepared at hprepared
    split at h
    · rename_i tree resolution
      obtain ⟨result, rfl, hrows, hsome⟩ :=
        prepareDefaultValues_rewritten libraries conn hadded hprepared
      obtain rfl := Except.ok.inj h
      refine ⟨by simp [treeRows, columnRows, Submitted.original], ?_, ?_⟩
      · simpa [treeRows, columnRows, Submitted.original] using hrows
      · intro i hi column hcolumn
        have hzero : i = 0 := by simpa [Submitted.original] using hi
        rw [hzero]
        exact hsome column hcolumn
    · have hnil : added = [] := by
        rw [← hadded]
        exact prepareDefaultValues_original libraries conn hprepared
      obtain rfl := Except.ok.inj h
      simp [Submitted.original, hnil]
    · cases h
    · cases h

lemma rewriteInsertDefaults_tokenError (insert : Insert) {table : String}
    (htable : tableNameFromTarget insert.this = some table) :
    rewriteInsertDefaults libraries conn (.insert insert) = .error .tokenError ↔
      ¬ DefaultsTokenize libraries conn table (explicitInsertColumns conn insert.this) := by
  rw [← nondeterministicDefaultColumns_error libraries conn]
  simp only [rewriteInsertDefaults, htable]
  cases nondeterministicDefaultColumns libraries conn table
    (explicitInsertColumns conn insert.this) with
  | error failure => simp
  | ok defaults =>
    refine iff_of_false ?_ (by simp)
    rw [ok_bind]
    split_ifs
    · simp
    · split
      · simp
      · split <;> simp

lemma prepareDefaultValues_tokenError (table : String) (clauses : List Expression) :
    prepareDefaultValues libraries conn
        (.insert ⟨.table table, .values [.tuple []], clauses⟩) = .error .tokenError ↔
      ¬ DefaultsTokenize libraries conn table [] := by
  rw [← nondeterministicDefaultColumns_error libraries conn]
  simp only [prepareDefaultValues, tableNameFromTarget]
  cases nondeterministicDefaultColumns libraries conn table [] with
  | error failure => simp
  | ok defaults =>
    refine iff_of_false ?_ (by simp)
    rw [ok_bind]
    split_ifs
    · simp
    · split <;> simp

lemma rewritten_tokenError (submitted : Submitted) :
    rewritten libraries conn submitted = .error .tokenError ↔
      ¬ DefaultsTokenize libraries conn submitted.table (submitted.explicitNames conn) := by
  cases submitted with
  | values table list rows clauses =>
    have htable : tableNameFromTarget (Submitted.values table list rows clauses).parsed.this =
        some table := by cases list <;> rfl
    refine Iff.trans ?_ (rewriteInsertDefaults_tokenError libraries conn
      (Submitted.values table list rows clauses).parsed htable)
    simp only [rewritten]
    cases rewriteInsertDefaults libraries conn
      (.insert (Submitted.values table list rows clauses).parsed) <;> simp
  | defaultValues table clauses =>
    refine Iff.trans ?_ (prepareDefaultValues_tokenError libraries conn table clauses)
    unfold rewritten
    simp only [Submitted.parsed]
    cases prepareDefaultValues libraries conn
      (.insert ⟨.table table, .values [.tuple []], clauses⟩) with
    | error failure => simp
    | ok prepared =>
      refine iff_of_false ?_ (by simp)
      rw [ok_bind]
      split <;> simp

section

variable {libraries} {reserved : String → Bool} {declared columns : List TableInfoRow}
  {original executed : ColumnRows}

lemma names_grown (hnone : original.list = none → columns = [])
    (hlist : executed.list = original.list.map
      (· ++ columns.map fun column => toIdentifier libraries column.name)) :
    executed.names declared = original.names declared ++ columns.map TableInfoRow.name := by
  cases horiginal : original.list with
  | none =>
    have hexecuted : executed.list = none := by simpa [horiginal] using hlist
    simp [ColumnRows.names, horiginal, hexecuted, hnone horiginal]
  | some list =>
    have hexecuted : executed.list =
        some (list ++ columns.map fun column => toIdentifier libraries column.name) := by
      simpa [horiginal] using hlist
    simp [ColumnRows.names, horiginal, hexecuted, toIdentifier, Function.comp_def]

lemma length_of_prepares (hprepares : Prepares reserved declared original)
    {row : List Expression} (h : row ∈ original.rows) :
    row.length = (original.names declared).length := by
  unfold Prepares at hprepares
  cases hlist : original.list with
  | none =>
    rw [hlist] at hprepares
    simpa [ColumnRows.names, hlist] using hprepares row h
  | some list =>
    rw [hlist] at hprepares
    simpa [ColumnRows.names, hlist] using hprepares.2 row h

lemma prepares_grown_iff (hprepares : Prepares reserved declared original)
    (hnone : original.list = none → columns = [])
    (hlist : executed.list = original.list.map
      (· ++ columns.map fun column => toIdentifier libraries column.name))
    (hrows : ∀ row' ∈ executed.rows, ∃ row ∈ original.rows,
      row'.length = row.length + columns.length)
    (hcolumns : ∀ column ∈ columns, column ∈ declared) :
    Prepares reserved declared executed ↔ ∀ column ∈ columns,
      libraries.safeIdentifier column.name = true → reserved column.name = false := by
  unfold Prepares at hprepares
  cases horiginal : original.list with
  | none =>
    have hexecuted : executed.list = none := by simpa [horiginal] using hlist
    have hnil := hnone horiginal
    rw [horiginal] at hprepares
    refine iff_of_true ?_ (by simp [hnil])
    simp only [Prepares, hexecuted]
    intro row' hrow'
    obtain ⟨row, hrow, hlength⟩ := hrows row' hrow'
    have hcount := hprepares row hrow
    simp only [hnil, List.length_nil, Nat.add_zero] at hlength
    omega
  | some list =>
    have hexecuted : executed.list =
        some (list ++ columns.map fun column => toIdentifier libraries column.name) := by
      simpa [horiginal] using hlist
    rw [horiginal] at hprepares
    obtain ⟨hentries, hlengths⟩ := hprepares
    simp only [Prepares, hexecuted]
    constructor
    · rintro ⟨hread, -⟩ column hcolumn hsafe
      have hmem : toIdentifier libraries column.name ∈
          list ++ columns.map fun column => toIdentifier libraries column.name := by
        simp only [List.mem_append, List.mem_map]
        exact Or.inr ⟨column, hcolumn, rfl⟩
      obtain ⟨name, hname, -⟩ := hread _ hmem
      by_contra hreserved
      simp [readName, toIdentifier, hsafe, hreserved] at hname
    · intro hreadable
      constructor
      · intro entry hentry
        rcases List.mem_append.mp hentry with hentry | hentry
        · exact hentries entry hentry
        · obtain ⟨column, hcolumn, rfl⟩ := List.mem_map.mp hentry
          refine ⟨column.name, ?_, column, hcolumns column hcolumn, rfl⟩
          have hread := hreadable column hcolumn
          cases hsafe : libraries.safeIdentifier column.name with
          | false => simp [readName, toIdentifier, hsafe]
          | true => simp [readName, toIdentifier, hread hsafe]
      · intro row' hrow'
        obtain ⟨row, hrow, hlength⟩ := hrows row' hrow'
        have hcount := hlengths row hrow
        simp only [List.length_append, List.length_map]
        omega

end

variable {reserved libraries conn}

section

variable (nondeterministic : List Char → Bool)

namespace Insertion

variable (insert : Insertion reserved libraries conn)

def declared : List TableInfoRow := conn.tableInfo insert.submitted.table

def omitted : List TableInfoRow :=
  insert.declared.filter fun column =>
    column.defaultSql.any nondeterministic &&
      !decide (Supplies insert.submitted.original insert.declared column.name)

/-- Every default that the preparation looks at has tokens. -/
def Tokenized : Prop :=
  DefaultsTokenize libraries conn insert.submitted.table (insert.submitted.explicitNames conn)

/-- Every default taken for nondeterministic that the list supplies is spelled there as
declared. -/
def Spelled : Prop :=
  ∀ column ∈ insert.declared, takenForNondeterministic libraries column.defaultSql = true →
    Supplies insert.submitted.original insert.declared column.name →
    column.name ∈ explicitInsertColumns conn insert.submitted.parsed.this

/-- The defaults of omitted columns are taken for what they are. -/
def Recognised : Prop :=
  ∀ column ∈ insert.declared,
    ¬ Supplies insert.submitted.original insert.declared column.name →
    takenForNondeterministic libraries column.defaultSql = column.defaultSql.any nondeterministic

/-- No added column is named by a reserved word that is left unquoted. -/
def Readable : Prop :=
  ∀ column ∈ insert.omitted nondeterministic, libraries.safeIdentifier column.name = true →
    reserved column.name = false

/-- The literal of every evaluated default denotes it. -/
def DefaultsReadBack : Prop :=
  ∀ index < insert.submitted.original.rows.length, ∀ column ∈ insert.omitted nondeterministic,
    ∀ value, defaultValue conn index column = some value → ReadsBack readReal libraries value

end Insertion

namespace Materialized

variable (insert : Materialized reserved libraries conn)

/-- The list and the rows grow together, by the omitted defaults. -/
structure Aligned : Prop where
  list : insert.executed.list.map (List.map Identifier.name) =
    insert.submitted.original.list.map fun list =>
      list.map Identifier.name ++ (insert.omitted nondeterministic).map TableInfoRow.name
  rows : ∃ values : ℕ → TableInfoRow → Value Real,
    insert.executed.rows = insert.submitted.original.rows.mapIdx fun index row =>
      row ++ (insert.omitted nondeterministic).map fun column =>
        literalOf libraries (values index column)
  prepares : Prepares reserved insert.declared insert.executed
  keeps : ∀ (index : ℕ) row row', insert.submitted.original.rows[index]? = some row →
    insert.executed.rows[index]? = some row' →
    ∀ column, Supplies insert.submitted.original insert.declared column →
      valueAt (insert.executed.names insert.declared) row' column =
        valueAt (insert.submitted.original.names insert.declared) row column
  receives : ∀ (index : ℕ) row', insert.executed.rows[index]? = some row' →
    ∀ column ∈ insert.omitted nondeterministic, ∃ value,
      defaultValue conn index column = some value ∧
        (valueAt (insert.executed.names insert.declared) row' column.name).bind
          (readLiteral readReal) = some value

def added : List TableInfoRow :=
  addedColumns libraries conn insert.submitted.table (insert.submitted.explicitNames conn)

lemma executed_list : insert.executed.list = insert.submitted.original.list.map
    (· ++ insert.added.map fun column => toIdentifier libraries column.name) :=
  (rewritten_eq_ok libraries conn rfl insert.rewritten_eq).1

lemma executed_rows : insert.executed.rows = insert.submitted.original.rows.mapIdx fun i row =>
    row ++ insert.added.map (defaultLiteral libraries conn i) :=
  (rewritten_eq_ok libraries conn rfl insert.rewritten_eq).2.1

lemma defaultValue_isSome {i : ℕ} (hi : i < insert.submitted.original.rows.length)
    {column : TableInfoRow} (hcolumn : column ∈ insert.added) :
    (defaultValue conn i column).isSome :=
  (rewritten_eq_ok libraries conn rfl insert.rewritten_eq).2.2 i hi column hcolumn

/-- What the preparation takes as supplied is supplied. -/
lemma supplies_of_explicit {column : TableInfoRow} (hcolumn : column ∈ insert.declared)
    (h : column.name ∈ insert.submitted.explicitNames conn) :
    Supplies insert.submitted.original insert.declared column.name := by
  cases hsubmitted : insert.submitted with
  | values table list rows clauses =>
    rw [hsubmitted] at h
    cases list with
    | none =>
      refine ⟨column.name, ?_, rfl⟩
      exact List.mem_map_of_mem hcolumn
    | some list =>
      have hmem : column.name ∈ list.map Identifier.name := (List.mem_filter.mp h).1
      exact ⟨column.name, hmem, rfl⟩
  | defaultValues table clauses =>
    rw [hsubmitted] at h
    exact absurd h (by simp [Submitted.explicitNames])

lemma mem_added {column : TableInfoRow} : column ∈ insert.added ↔
    column ∈ insert.declared ∧ column.name ∉ insert.submitted.explicitNames conn ∧
      takenForNondeterministic libraries column.defaultSql = true := by
  simp [added, addedColumns, Insertion.declared]

lemma mem_omitted {column : TableInfoRow} : column ∈ insert.omitted nondeterministic ↔
    column ∈ insert.declared ∧ column.defaultSql.any nondeterministic = true ∧
      ¬ Supplies insert.submitted.original insert.declared column.name := by
  simp [Insertion.omitted]

/-- No two columns of the table have one name. -/
lemma eq_of_foldCase {first second : TableInfoRow} (hfirst : first ∈ insert.declared)
    (hsecond : second ∈ insert.declared) (h : foldCase first.name = foldCase second.name) :
    first = second :=
  List.inj_on_of_nodup_map insert.distinct hfirst hsecond h

/-- The preparation adds the omitted columns when the supplied ones are spelled as declared and
the defaults of the others are taken for what they are. -/
lemma added_eq_omitted_iff : insert.added = insert.omitted nondeterministic ↔
    insert.Spelled ∧ insert.Recognised nondeterministic := by
  have hexplicit : ∀ column : TableInfoRow, Supplies insert.submitted.original insert.declared
      column.name → (column.name ∈ insert.submitted.explicitNames conn ↔
        column.name ∈ explicitInsertColumns conn insert.submitted.parsed.this) := by
    intro column hsupplies
    cases hsubmitted : insert.submitted with
    | values table list rows clauses => exact Iff.rfl
    | defaultValues table clauses =>
      rw [hsubmitted] at hsupplies
      obtain ⟨name, hname, -⟩ := hsupplies
      exact absurd hname (by simp [ColumnRows.names, Submitted.original])
  constructor
  · intro heq
    have hmem : ∀ column, column ∈ insert.added ↔ column ∈ insert.omitted nondeterministic := by
      rw [heq]
      exact fun _ => Iff.rfl
    refine ⟨fun column hcolumn hdefault hsupplies => ?_, fun column hcolumn homits => ?_⟩
    · by_contra hspelled
      have hadded : column ∈ insert.added := insert.mem_added.mpr
        ⟨hcolumn, fun h => hspelled ((hexplicit column hsupplies).mp h), hdefault⟩
      exact ((insert.mem_omitted nondeterministic).mp ((hmem column).mp hadded)).2.2 hsupplies
    · have hiff := hmem column
      have hname : column.name ∉ insert.submitted.explicitNames conn :=
        fun h => homits (insert.supplies_of_explicit hcolumn h)
      rw [insert.mem_added, insert.mem_omitted] at hiff
      simp only [hcolumn, hname, homits, true_and, not_false_eq_true, and_true] at hiff
      exact Bool.eq_iff_iff.mpr hiff
  · rintro ⟨hspelled, hrecognised⟩
    apply List.filter_congr
    intro column hcolumn
    have hcolumn' : column ∈ insert.declared := hcolumn
    by_cases hsupplies : Supplies insert.submitted.original insert.declared column.name
    · cases hdefault : takenForNondeterministic libraries column.defaultSql with
      | false => simp [hsupplies]
      | true =>
        have hmem := (hexplicit column hsupplies).mpr
          (hspelled column hcolumn' hdefault hsupplies)
        simp [hmem, hsupplies]
    · have hname : column.name ∉ insert.submitted.explicitNames conn :=
        fun h => hsupplies (insert.supplies_of_explicit hcolumn' h)
      simp [hname, hsupplies, hrecognised column hcolumn' hsupplies]

lemma omitted_nil_of_list (h : insert.submitted.original.list = none) :
    insert.omitted nondeterministic = [] := by
  refine List.filter_eq_nil_iff.mpr ?_
  intro column hcolumn
  have hsupplies : Supplies insert.submitted.original insert.declared column.name := by
    refine ⟨column.name, ?_, rfl⟩
    simp only [ColumnRows.names, h]
    exact List.mem_map_of_mem hcolumn
  simp [hsupplies]

lemma mem_of_names {first second : List TableInfoRow}
    (hfirst : ∀ column ∈ first, column ∈ insert.declared)
    (hnames : first.map TableInfoRow.name = second.map TableInfoRow.name) {column : TableInfoRow}
    (hcolumn : column ∈ insert.declared) (hmem : column ∈ second) : column ∈ first := by
  obtain ⟨other, hother, hname⟩ := List.mem_map.mp
    (hnames.symm ▸ List.mem_map_of_mem (f := TableInfoRow.name) hmem)
  have heq : other = column := insert.eq_of_foldCase (hfirst other hother) hcolumn (by rw [hname])
  exact heq ▸ hother

lemma added_eq_of_names (h : insert.added.map TableInfoRow.name =
    (insert.omitted nondeterministic).map TableInfoRow.name) :
    insert.added = insert.omitted nondeterministic := by
  apply List.filter_congr
  intro column hcolumn
  have hcolumn' : column ∈ insert.declared := hcolumn
  have hiff : column ∈ insert.added ↔ column ∈ insert.omitted nondeterministic :=
    ⟨insert.mem_of_names (fun _ hmem => ((insert.mem_omitted nondeterministic).mp hmem).1) h.symm
        hcolumn,
      insert.mem_of_names (fun _ hmem => (insert.mem_added.mp hmem).1) h hcolumn⟩
  rw [insert.mem_added, insert.mem_omitted] at hiff
  simp only [hcolumn', true_and] at hiff
  rw [Bool.eq_iff_iff]
  simp only [Bool.and_eq_true, Bool.not_eq_true', decide_eq_false_iff_not, List.contains_eq_mem]
  tauto

lemma list_iff : (insert.executed.list.map (List.map Identifier.name) =
    insert.submitted.original.list.map fun list =>
      list.map Identifier.name ++ (insert.omitted nondeterministic).map TableInfoRow.name) ↔
    insert.added = insert.omitted nondeterministic := by
  have hnames : insert.executed.list.map (List.map Identifier.name) =
      insert.submitted.original.list.map fun list =>
        list.map Identifier.name ++ insert.added.map TableInfoRow.name := by
    rw [insert.executed_list, Option.map_map]
    congr 1
    funext list
    simp [toIdentifier, Function.comp_def]
  rw [hnames]
  constructor
  · intro h
    cases hlist : insert.submitted.original.list with
    | none =>
      rw [insert.omitted_nil_of_list nondeterministic hlist]
      exact added_nil_of_list libraries conn insert.submitted rfl hlist
    | some list =>
      have happend : list.map Identifier.name ++ insert.added.map TableInfoRow.name =
          list.map Identifier.name ++ (insert.omitted nondeterministic).map TableInfoRow.name := by
        simpa [hlist] using h
      exact insert.added_eq_of_names nondeterministic (List.append_cancel_left happend)
  · intro h
    rw [h]

lemma executed_names (h : insert.added = insert.omitted nondeterministic) :
    insert.executed.names insert.declared =
      insert.submitted.original.names insert.declared ++
        (insert.omitted nondeterministic).map TableInfoRow.name :=
  names_grown (insert.omitted_nil_of_list nondeterministic) (h ▸ insert.executed_list)

lemma length_row {row : List Expression} (h : row ∈ insert.submitted.original.rows) :
    row.length = (insert.submitted.original.names insert.declared).length :=
  length_of_prepares insert.prepares h

lemma executed_row {index : ℕ} {row' : List Expression}
    (h : insert.executed.rows[index]? = some row') :
    ∃ row, insert.submitted.original.rows[index]? = some row ∧
      row' = row ++ insert.added.map (defaultLiteral libraries conn index) := by
  rw [insert.executed_rows, List.getElem?_mapIdx] at h
  obtain ⟨row, hrow, rfl⟩ := Option.map_eq_some_iff.mp h
  exact ⟨row, hrow, rfl⟩

lemma mem_executed_rows {row' : List Expression} (h : row' ∈ insert.executed.rows) :
    ∃ row ∈ insert.submitted.original.rows, row'.length = row.length + insert.added.length := by
  obtain ⟨index, hindex⟩ := List.mem_iff_getElem?.mp h
  obtain ⟨row, hrow, rfl⟩ := insert.executed_row hindex
  exact ⟨row, List.mem_of_getElem? hrow, by simp⟩

/-- The statement still prepares when SQLite reads the added names. -/
lemma prepares_iff (h : insert.added = insert.omitted nondeterministic) :
    Prepares reserved insert.declared insert.executed ↔ insert.Readable nondeterministic :=
  prepares_grown_iff insert.prepares (insert.omitted_nil_of_list nondeterministic) (h ▸ insert.executed_list)
    (h ▸ fun _ hrow' => insert.mem_executed_rows hrow')
    fun _ hcolumn => ((insert.mem_omitted nondeterministic).mp hcolumn).1

lemma valueAt_omitted (h : insert.added = insert.omitted nondeterministic) {index : ℕ} {row' : List Expression}
    (hrow' : insert.executed.rows[index]? = some row') {column : TableInfoRow}
    (hcolumn : column ∈ insert.omitted nondeterministic) :
    valueAt (insert.executed.names insert.declared) row' column.name =
      some (defaultLiteral libraries conn index column) := by
  obtain ⟨row, hrow, rfl⟩ := insert.executed_row hrow'
  have hlength := insert.length_row (List.mem_of_getElem? hrow)
  have hdistinct : ((insert.omitted nondeterministic).map fun column => foldCase column.name).Nodup :=
    insert.distinct.sublist ((List.filter_sublist).map _)
  rw [insert.executed_names nondeterministic h, h,
    valueAt_append_right hlength ((insert.mem_omitted nondeterministic).mp hcolumn).2.2]
  exact valueAt_map _ hdistinct hcolumn

/-- The statement grows as it should exactly when the right columns are added, the added names
can be read, and the added literals denote the defaults. -/
lemma grows_iff :
    insert.Aligned readReal nondeterministic ↔
      (insert.Spelled ∧ insert.Recognised nondeterministic) ∧ insert.Readable nondeterministic ∧
        insert.DefaultsReadBack readReal nondeterministic := by
  constructor
  · intro haligned
    have hadded : insert.added = insert.omitted nondeterministic :=
      (insert.list_iff nondeterministic).mp haligned.list
    refine ⟨(insert.added_eq_omitted_iff nondeterministic).mp hadded,
      (insert.prepares_iff nondeterministic hadded).mp haligned.prepares, ?_⟩
    intro index hindex column hcolumn value hvalue
    obtain ⟨row', hrow'⟩ : ∃ row', insert.executed.rows[index]? = some row' := by
      rw [insert.executed_rows, List.getElem?_mapIdx, List.getElem?_eq_getElem hindex]
      exact ⟨_, rfl⟩
    obtain ⟨received, hreceived, hread⟩ := haligned.receives index row' hrow' column hcolumn
    rw [insert.valueAt_omitted nondeterministic hadded hrow' hcolumn] at hread
    obtain rfl : value = received := by
      rw [hvalue] at hreceived
      exact Option.some.inj hreceived
    simpa [ReadsBack, defaultLiteral, hvalue] using hread
  · rintro ⟨hcolumns, hreadable, hreads⟩
    have hadded : insert.added = insert.omitted nondeterministic :=
      (insert.added_eq_omitted_iff nondeterministic).mpr hcolumns
    refine
      { list := (insert.list_iff nondeterministic).mpr hadded
        rows := ⟨fun index column => (defaultValue conn index column).getD .null, ?_⟩
        prepares := (insert.prepares_iff nondeterministic hadded).mpr hreadable
        keeps := ?_
        receives := ?_ }
    · rw [insert.executed_rows, hadded]
      rfl
    · intro index row row' hrow hrow' column hsupplies
      obtain ⟨row₀, hrow₀, rfl⟩ := insert.executed_row hrow'
      obtain rfl : row = row₀ := by
        rw [hrow] at hrow₀
        exact Option.some.inj hrow₀
      rw [insert.executed_names nondeterministic hadded]
      exact valueAt_append_left (insert.length_row (List.mem_of_getElem? hrow)) hsupplies
    · intro index row' hrow' column hcolumn
      obtain ⟨row, hrow, -⟩ := insert.executed_row hrow'
      have hindex : index < insert.submitted.original.rows.length :=
        (List.getElem?_eq_some_iff.mp hrow).1
      have hsome := insert.defaultValue_isSome hindex (hadded ▸ hcolumn)
      obtain ⟨value, hvalue⟩ := Option.isSome_iff_exists.mp hsome
      refine ⟨value, hvalue, ?_⟩
      rw [insert.valueAt_omitted nondeterministic hadded hrow' hcolumn]
      have hback := hreads index hindex column hcolumn value hvalue
      simpa [ReadsBack, defaultLiteral, hvalue] using hback

end Materialized

namespace Insertion

variable (insert : Insertion reserved libraries conn)

/-- The preparation returns, and the list and the rows grow together. -/
def Aligned : Prop :=
  ∃ executed, ∃ h : rewritten libraries conn insert.submitted = .ok executed,
    Materialized.Aligned readReal nondeterministic ⟨insert, executed, h⟩

end Insertion

end

end

/-- sqlglot on the default `CURRENT_TIMESTAMP`, which is all that it parses here. -/
def timestampLibraries : Libraries Empty where
  parseOne _ := .tree (.other .currentTimestamp)
  render _ := []
  renderExpression _ := []
  safeIdentifier _ := true
  strFloat _ := []

def idColumn : TableInfoRow := ⟨"id", none⟩

def createdColumn : TableInfoRow := ⟨"created", some "CURRENT_TIMESTAMP".toList⟩

/-- `CREATE TABLE t (id, created DEFAULT CURRENT_TIMESTAMP)`. -/
def createdTable : Connection Empty where
  tableInfo _ := [idColumn, createdColumn]
  evaluate _ _ := some (.text "2026-01-01".toList)

/-- `INSERT INTO t (ID, CREATED) VALUES (1, 'x')`, which is executed as
`INSERT INTO t (ID, CREATED, created) VALUES (1, 'x', '2026-01-01')`. -/
def upperCaseInsert : Insertion (fun _ => false) timestampLibraries createdTable where
  submitted := .values "t" (some [⟨"ID", false⟩, ⟨"CREATED", false⟩])
    [.tuple [.literal ['1'] false, .literal ['x'] true]] []
  distinct := by decide +kernel
  prepares := by
    have hid : ∃ column ∈ [idColumn, createdColumn],
        foldCase column.name = foldCase "ID" :=
      ⟨idColumn, List.mem_cons_self, by decide⟩
    have hcreated : ∃ column ∈ [idColumn, createdColumn],
        foldCase column.name = foldCase "CREATED" :=
      ⟨createdColumn, List.mem_cons_of_mem _ List.mem_cons_self, by decide⟩
    constructor
    · intro entry hentry
      rcases List.mem_cons.mp hentry with rfl | hentry
      · exact ⟨"ID", rfl, hid⟩
      · obtain rfl := List.mem_singleton.mp hentry
        exact ⟨"CREATED", rfl, hcreated⟩
    · intro row hrow
      obtain rfl := List.mem_singleton.mp hrow
      rfl
  evaluates h := by cases h

end SqliteReconcile.DefaultColumns
