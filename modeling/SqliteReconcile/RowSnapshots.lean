import SqliteReconcile.RowPlaces

/-!
# The rows that statements describe

The driver runs statements on a copy of the base. A statement of a row diff describes a change of the
row that has its key and of no other one, so that statements together describe the rows they leave as
they are and the rows they write. What SQLite makes of them is another matter: it may refuse one, and
triggers and conflict clauses change more.
-/
namespace SqliteReconcile.RowMerge
open Dicts Outcomes

variable {V : Type}

def assign (assignments : List (String × V)) (row : Row V) : Row V :=
  assignments.foldl (fun row assignment => Function.update row assignment.1 assignment.2) row

/-- The row of an INSERT: a column without a value is NULL. -/
def insertedRow (databases : Databases V) (columns : List (String × V)) : Row V :=
  assign columns fun _ => databases.null

section run

variable [DecidableEq V]

def selects (databases : Databases V) (table : String) (predicates : List (Predicate V))
    (row : Row V) : Bool :=
  predicates.all (·.holds databases table row)

def Change.described (databases : Databases V) (table : String) (rows : List (Row V)) :
    Change V → List (Row V)
  | .insert columns => rows ++ [insertedRow databases columns]
  | .update assignments predicates => rows.map fun row =>
    if selects databases table predicates row then assign assignments row else row
  | .delete predicates => rows.filter fun row => !selects databases table predicates row

def Statement.described (databases : Databases V) (snapshot : Snapshot V) (statement : Statement V) :
    Snapshot V :=
  Function.update snapshot statement.table
    (statement.change.described databases statement.table (snapshot statement.table))

def describedRows (databases : Databases V) (statements : List (Statement V))
    (snapshot : Snapshot V) : Snapshot V :=
  statements.foldl (Statement.described databases) snapshot

/-- What SQLite does with a statement: the rows afterwards, and whether it takes the statement. -/
abbrev Execute (V : Type) := Snapshot V → Statement V → Snapshot V × Bool

/-- The sqlite3 shell goes on after a statement that fails, and says so in the end. -/
def runShell (execute : Execute V) : List (Statement V) → Snapshot V → Snapshot V × Bool
  | [], snapshot => (snapshot, true)
  | statement :: rest, snapshot =>
    let (reached, taken) := execute snapshot statement
    let (final, succeeded) := runShell execute rest reached
    (final, taken && succeeded)

/-- A statement that SQLite takes changes the rows that it describes and nothing else: no trigger
runs, and no constraint has a conflict clause. -/
def Plain (databases : Databases V) (execute : Execute V) (statements : List (Statement V)) : Prop :=
  ∀ statement ∈ statements, ∀ snapshot, (execute snapshot statement).2 = true →
    (execute snapshot statement).1 = statement.described databases snapshot

def Statement.written (databases : Databases V) (statement : Statement V) : Option (Row V) :=
  match statement.change with
  | .insert columns => some (insertedRow databases columns)
  | .update assignments predicates =>
    (firstRow databases databases.base statement.table predicates).map (assign assignments)
  | .delete _ => none

def rowAt (databases : Databases V) (snapshot : Snapshot V) (table : String) (key : KeyTuple V) :
    Option (Row V) :=
  (snapshot table).find? fun row => rowKey databases table row = key

end run

/-- SQLite holds two rows equal in columns, none of which is NULL. -/
def Agree (databases : Databases V) (table : String) (columns : List (Option String))
    (first second : Row V) : Prop :=
  ∀ column ∈ columns, ∃ name, column = some name ∧ first name ≠ databases.null ∧
    second name ≠ databases.null ∧ databases.equal table name (first name) (second name) = true

def keyColumns (databases : Databases V) (table : String) : List (Option String) :=
  (databases.primaryKeys table).keys.map some

/-- The columns of the primary key and of each unique index. -/
def constraints (databases : Databases V) (table : String) : List (List (Option String)) :=
  keyColumns databases table :: (databases.uniqueIndexes table).map Prod.snd

/-- The rows of each table satisfy its PRIMARY KEY and UNIQUE constraints. -/
def Constrained (databases : Databases V) (snapshot : Snapshot V) : Prop :=
  ∀ table, (snapshot table).Pairwise fun first second =>
    ∀ columns ∈ constraints databases table, ¬ Agree databases table columns first second

/-- No row has NULL in its key. -/
def Keyed (databases : Databases V) (snapshot : Snapshot V) : Prop :=
  ∀ table, ∀ row ∈ snapshot table, ∀ column ∈ (databases.primaryKeys table).keys,
    row column ≠ databases.null

/-- How SQLite compares values, and what it declares of tables. -/
structure Supported (databases : Databases V) : Prop where
  equal_refl : ∀ table column value, value ≠ databases.null →
    databases.equal table column value value = true
  equal_symm : ∀ table column first second, databases.equal table column first second = true →
    databases.equal table column second first = true
  plainIndexes : ∀ table, ∀ index ∈ databases.uniqueIndexes table, none ∉ index.2

/-- A WHERE clause gives the key of a row. -/
def Names (databases : Databases V) (table : String) (predicates : List (Predicate V))
    (row : Row V) : Prop :=
  (∀ column ∈ (databases.primaryKeys table).keys, .eq column (row column) ∈ predicates) ∧
    ∀ predicate ∈ predicates,
      ∃ column ∈ (databases.primaryKeys table).keys, predicate = .eq column (row column)

/-- An UPDATE and a DELETE are about a row of the base, and do not assign its key. An INSERT has a key
that the base does not have. -/
def Change.Fits (databases : Databases V) (table : String) : Change V → Prop
  | .insert columns =>
    (columns.map Prod.fst).Nodup ∧
    (∀ column ∈ (databases.primaryKeys table).keys,
      insertedRow databases columns column ≠ databases.null) ∧
    ∀ row ∈ databases.base table,
      ¬ Agree databases table (keyColumns databases table) row (insertedRow databases columns)
  | .update assignments predicates =>
    (∃ row ∈ databases.base table, Names databases table predicates row) ∧
      ∀ assignment ∈ assignments, assignment.1 ∉ (databases.primaryKeys table).keys
  | .delete predicates => ∃ row ∈ databases.base table, Names databases table predicates row

structure Statement.Fits (databases : Databases V) (statement : Statement V) : Prop where
  key : ∃ key, statement.key databases = .ok key
  change : statement.change.Fits databases statement.table

/-- Statements describe how a snapshot differs from the base. -/
structure RowDiff [DecidableEq V] (databases : Databases V) (snapshot : Snapshot V)
    (statements : List (Statement V)) : Prop where
  once : OncePerKey databases statements
  fits : ∀ statement ∈ statements, statement.Fits databases
  reaches : ∀ table row,
    row ∈ snapshot table ↔ row ∈ describedRows databases statements databases.base table

variable {databases : Databases V} {table : String}

lemma columnAt_eq {column : String} {place : ℕ}
    (h : (databases.primaryKeys table).get? column = some place) :
    columnAt databases table place = column ∧
      place < (databases.primaryKeys table).keys.length := by
  have hmem := Dict.get?_eq_some_iff.mp h
  have hnodup : ((databases.primaryKeys table).entries.map Prod.snd).Nodup :=
    (databases.keyPlaces table).nodup_iff.mpr List.nodup_range
  constructor
  · rw [columnAt]
    cases hfind : (databases.primaryKeys table).entries.find? fun entry => entry.2 = place with
    | none =>
      have hnone := List.find?_eq_none.mp hfind _ hmem
      simp at hnone
    | some entry =>
      have hplace : entry.2 = place := by simpa using List.find?_some hfind
      have hsame := List.inj_on_of_nodup_map hnodup (List.mem_of_find?_eq_some hfind) hmem hplace
      rw [hsame]
      rfl
  · have hvalue := (databases.keyPlaces table).subset (List.mem_map_of_mem hmem)
    have hlength : (databases.primaryKeys table).values.length =
        (databases.primaryKeys table).keys.length := by
      simp [Dict.values, Dict.keys]
    rw [← hlength]
    exact List.mem_range.mp hvalue

lemma get?_columnAt {place : ℕ} (h : place < (databases.primaryKeys table).keys.length) :
    (databases.primaryKeys table).get? (columnAt databases table place) = some place := by
  have hlength : (databases.primaryKeys table).values.length =
      (databases.primaryKeys table).keys.length := by
    simp [Dict.values, Dict.keys]
  have hmem : place ∈ (databases.primaryKeys table).values :=
    (databases.keyPlaces table).mem_iff.mpr (List.mem_range.mpr (hlength ▸ h))
  obtain ⟨column, hcolumn⟩ := Dict.mem_values_iff.mp hmem
  rw [(columnAt_eq hcolumn).1, hcolumn]

lemma columnAt_mem {place : ℕ} (h : place < (databases.primaryKeys table).keys.length) :
    columnAt databases table place ∈ (databases.primaryKeys table).keys :=
  Dict.mem_keys_iff.mpr ⟨place, get?_columnAt h⟩

lemma rowKey_eq_iff {first second : Row V} :
    rowKey databases table first = rowKey databases table second ↔
      ∀ column ∈ (databases.primaryKeys table).keys, first column = second column := by
  rw [rowKey, rowKey, List.map_inj_left]
  constructor
  · intro h column hcolumn
    obtain ⟨place, hplace⟩ := Dict.mem_keys_iff.mp hcolumn
    obtain ⟨hat, hlt⟩ := columnAt_eq hplace
    rw [← hat]
    exact h place (List.mem_range.mpr hlt)
  · exact fun h place hplace => h _ (columnAt_mem (List.mem_range.mp hplace))

structure FilledFrom (databases : Databases V) (table : String) (row : Row V)
    (values : List (Option V)) : Prop where
  length : values.length = (databases.primaryKeys table).keys.length
  value : ∀ place value, values[place]? = some (some value) →
    value = row (columnAt databases table place)

lemma filledFrom_replicate (row : Row V) :
    FilledFrom databases table row
      (List.replicate (databases.primaryKeys table).keys.length none) where
  length := List.length_replicate
  value place value h := by
    rw [List.getElem?_replicate] at h
    split at h <;> cases h

lemma mapM_id_eq_some {values : List (Option V)} {key : List V} :
    values.mapM id = some key ↔ values = key.map some := by
  induction values generalizing key with
  | nil => cases key <;> simp
  | cons value values ih =>
    rw [List.mapM_cons]
    cases value with
    | none => cases key <;> simp
    | some value =>
      cases hrest : values.mapM id with
      | none =>
        have hnone : ∀ rest, values ≠ List.map some rest := by
          intro rest hrest'
          rw [ih.mpr hrest'] at hrest
          cases hrest
        cases key <;> simp [hnone]
      | some rest =>
        cases key with
        | nil => simp
        | cons first later =>
          have hinj := @List.map_inj_right V (Option V) rest later some fun _ _ => Option.some.inj
          simp [ih.mp hrest, hinj]

lemma FilledFrom.key {row : Row V} {values : List (Option V)} {key : KeyTuple V}
    (h : FilledFrom databases table row values) (hkey : allPlaced values = .ok key) :
    key = rowKey databases table row := by
  have hvalues : values = key.map some := by
    rw [allPlaced] at hkey
    split at hkey
    · next found hfound =>
      cases hkey
      exact mapM_id_eq_some.mp hfound
    · cases hkey
  have hlength : key.length = (databases.primaryKeys table).keys.length := by
    rw [← h.length, hvalues, List.length_map]
  refine List.ext_getElem (by simp [rowKey, hlength]) fun place hplace _ => ?_
  rw [h.value place key[place] (by simp [hvalues, hplace])]
  simp [rowKey]

lemma FilledFrom.set {row : Row V} {values : List (Option V)} {column : String} {place : ℕ}
    (h : FilledFrom databases table row values)
    (hplace : (databases.primaryKeys table).get? column = some place) :
    FilledFrom databases table row (values.set place (some (row column))) where
  length := by rw [List.length_set, h.length]
  value other value hvalue := by
    rw [List.getElem?_set] at hvalue
    split at hvalue
    · next hsame =>
      split at hvalue
      · rw [← hsame, (columnAt_eq hplace).1]
        exact (Option.some.inj (Option.some.inj hvalue)).symm
      · cases hvalue
    · exact h.value other value hvalue

lemma FilledFrom.congr {row other : Row V} {values : List (Option V)}
    (h : FilledFrom databases table row values)
    (heq : ∀ place value, values[place]? = some (some value) →
      other (columnAt databases table place) = row (columnAt databases table place)) :
    FilledFrom databases table other values where
  length := h.length
  value place value hvalue := by rw [heq place value hvalue, h.value place value hvalue]

lemma key_of_names [DecidableEq V] {predicates : List (Predicate V)} {row : Row V}
    {key : KeyTuple V} (hnames : Names databases table predicates row)
    (hkey : getPrimaryKeyValuesFromWhere databases (databases.primaryKeys table) predicates =
      .ok key) : key = rowKey databases table row := by
  have hfill : ∀ (rest : List (Predicate V)) (values filled : List (Option V)),
      (∀ predicate ∈ rest, predicate ∈ predicates) → FilledFrom databases table row values →
      rest.foldlM (placePredicate databases (databases.primaryKeys table)) values = .ok filled →
      FilledFrom databases table row filled := by
    intro rest
    induction rest with
    | nil =>
      intro values filled _ h hrun
      cases hrun
      exact h
    | cons predicate rest ih =>
      intro values filled hrest h hrun
      rw [List.foldlM_cons, bind_eq_ok] at hrun
      obtain ⟨next, hnext, hrun⟩ := hrun
      refine ih next filled (fun p hp => hrest p (List.mem_cons_of_mem _ hp)) ?_ hrun
      obtain ⟨column, -, rfl⟩ := hnames.2 predicate (hrest predicate List.mem_cons_self)
      rw [placePredicate] at hnext
      split at hnext
      · rw [placeKeyValue] at hnext
        split at hnext
        · next place hplace =>
          cases hnext
          exact h.set hplace
        · cases hnext
      · cases hnext
  rw [getPrimaryKeyValuesFromWhere, bind_eq_ok] at hkey
  obtain ⟨filled, hrun, hplaced⟩ := hkey
  exact (hfill predicates _ filled (fun _ h => h) (filledFrom_replicate row) hrun).key hplaced

lemma assign_of_not_mem {assignments : List (String × V)} {row : Row V} {column : String}
    (h : ∀ assignment ∈ assignments, assignment.1 ≠ column) :
    assign assignments row column = row column := by
  induction assignments generalizing row with
  | nil => rfl
  | cons assignment rest ih =>
    have hrest := @ih (Function.update row assignment.1 assignment.2)
      fun other hother => h other (List.mem_cons_of_mem _ hother)
    exact hrest.trans (Function.update_of_ne (h assignment List.mem_cons_self).symm _ _)

structure PlacedFrom (databases : Databases V) (table : String) (row : Row V)
    (placed : List (Option V) × Literals V) : Prop where
  key : FilledFrom databases table row placed.1
  literals : ∀ column ∉ (databases.primaryKeys table).keys,
    row column = (placed.2.lookup column).getD databases.null

lemma PlacedFrom.place {row : Row V} {placed : List (Option V) × Literals V}
    (h : PlacedFrom databases table row placed) (column : String × V) :
    PlacedFrom databases table (Function.update row column.1 column.2)
      (placeColumn (databases.primaryKeys table) placed column) := by
  obtain ⟨name, value⟩ := column
  -- a place that is filled belongs to a column of the key
  have hfilled : ∀ place value, placed.1[place]? = some (some value) →
      place < (databases.primaryKeys table).keys.length := by
    intro place value hvalue
    rw [← h.key.length]
    exact (List.getElem?_eq_some_iff.mp hvalue).1
  rw [placeColumn]
  cases hplace : (databases.primaryKeys table).get? name with
  | none =>
    have hname := Dict.get?_eq_none_iff.mp hplace
    constructor
    · refine h.key.congr fun place value hvalue => Function.update_of_ne (fun hsame => ?_) _ _
      have hmem := columnAt_mem (hfilled place value hvalue)
      rw [hsame] at hmem
      exact hname hmem
    · intro other hother
      by_cases hsame : other = name
      · subst hsame
        simp
      · rw [Function.update_of_ne hsame, h.literals other hother]
        exact congrArg (Option.getD · databases.null) (Finmap.lookup_insert_of_ne _ hsame).symm
  | some place =>
    constructor
    · -- the other places keep their columns
      have hother : FilledFrom databases table row (placed.1.set place none) := by
        refine ⟨by rw [List.length_set, h.key.length], fun other value hvalue => ?_⟩
        rw [List.getElem?_set] at hvalue
        split at hvalue
        · split at hvalue <;> cases hvalue
        · exact h.key.value other value hvalue
      have hupdated : FilledFrom databases table (Function.update row name value)
          (placed.1.set place none) := by
        refine hother.congr fun other value' hvalue => Function.update_of_ne (fun hsame => ?_) _ _
        rw [List.getElem?_set] at hvalue
        split at hvalue
        · split at hvalue <;> cases hvalue
        · next hne =>
          have hget := get?_columnAt (hfilled other value' hvalue)
          rw [hsame, hplace] at hget
          exact hne (Option.some.inj hget)
      have hset := hupdated.set hplace
      rw [Function.update_self, List.set_set] at hset
      exact hset
    · intro other hother
      have hne : other ≠ name := fun hsame =>
        hother (hsame ▸ Dict.mem_keys_iff.mpr ⟨place, hplace⟩)
      rw [Function.update_of_ne hne, h.literals other hother]

lemma placedFrom_columns (columns : List (String × V)) :
    PlacedFrom databases table (insertedRow databases columns)
      (placedColumns databases table columns) := by
  have hrun : ∀ (columns : List (String × V)) (row : Row V) (placed : List (Option V) × Literals V),
      PlacedFrom databases table row placed →
      PlacedFrom databases table (assign columns row)
        (columns.foldl (placeColumn (databases.primaryKeys table)) placed) := by
    intro columns
    induction columns with
    | nil => exact fun row placed h => h
    | cons column rest ih => exact fun row placed h => ih _ _ (h.place column)
  exact hrun columns _ _ ⟨filledFrom_replicate _, fun column _ => by simp⟩

lemma assign_eq_columnToLiteral (assignments : List (String × V)) (row : Row V) (column : String) :
    assign assignments row column = ((columnToLiteral assignments).lookup column).getD (row column) := by
  have hrun : ∀ (assignments : List (String × V)) (literals : Literals V) (current : Row V),
      (∀ column, current column = (literals.lookup column).getD (row column)) →
      assign assignments current column = ((assignments.foldl
        (fun literals assignment => literals.insert assignment.1 assignment.2) literals).lookup
          column).getD (row column) := by
    intro assignments
    induction assignments with
    | nil => exact fun literals current h => h column
    | cons assignment rest ih =>
      refine fun literals current h => ih _ _ fun other => ?_
      by_cases hsame : other = assignment.1
      · subst hsame
        simp
      · refine (Function.update_of_ne hsame _ _).trans ((h other).trans ?_)
        exact congrArg (Option.getD · (row other)) (Finmap.lookup_insert_of_ne _ hsame).symm
  exact hrun assignments ∅ row fun column => by simp

lemma Agree.symm (hs : Supported databases) {columns : List (Option String)} {first second : Row V}
    (h : Agree databases table columns first second) :
    Agree databases table columns second first := by
  intro column hcolumn
  obtain ⟨name, rfl, hfirst, hsecond, hequal⟩ := h column hcolumn
  exact ⟨name, rfl, hsecond, hfirst, hs.equal_symm _ _ _ _ hequal⟩

lemma agree_keyColumns_iff {first second : Row V} :
    Agree databases table (keyColumns databases table) first second ↔
      ∀ column ∈ (databases.primaryKeys table).keys, first column ≠ databases.null ∧
        second column ≠ databases.null ∧
        databases.equal table column (first column) (second column) = true := by
  constructor
  · intro h column hcolumn
    obtain ⟨name, hname, hvalues⟩ := h (some column) (List.mem_map_of_mem hcolumn)
    cases hname
    exact hvalues
  · intro h column hcolumn
    obtain ⟨name, hname, rfl⟩ := List.mem_map.mp hcolumn
    exact ⟨name, rfl, h name hname⟩

lemma agree_of_rowKey (hs : Supported databases) {first second : Row V}
    (hkeyed : ∀ column ∈ (databases.primaryKeys table).keys, second column ≠ databases.null)
    (hkey : rowKey databases table first = rowKey databases table second) :
    Agree databases table (keyColumns databases table) first second := by
  refine agree_keyColumns_iff.mpr fun column hcolumn => ?_
  rw [rowKey_eq_iff.mp hkey column hcolumn]
  exact ⟨hkeyed column hcolumn, hkeyed column hcolumn,
    hs.equal_refl table column _ (hkeyed column hcolumn)⟩

lemma Constrained.eq_of_agree (hs : Supported databases) {snapshot : Snapshot V}
    (h : Constrained databases snapshot) {columns : List (Option String)}
    (hcolumns : columns ∈ constraints databases table) {first second : Row V}
    (hfirst : first ∈ snapshot table) (hsecond : second ∈ snapshot table)
    (hagree : Agree databases table columns first second) : first = second := by
  by_contra hne
  have hsymm : Std.Symm fun first second : Row V =>
      ∀ columns ∈ constraints databases table, ¬ Agree databases table columns first second :=
    ⟨fun _ _ h columns hcolumns hagree => h columns hcolumns (hagree.symm hs)⟩
  exact (h table).forall hfirst hsecond hne columns hcolumns hagree

lemma Constrained.nodup_keys (hs : Supported databases) {snapshot : Snapshot V}
    (h : Constrained databases snapshot) (hkeyed : Keyed databases snapshot) :
    ((snapshot table).map (rowKey databases table)).Nodup := by
  refine List.pairwise_map.mpr ((h table).imp_of_mem fun {first second} _ hsecond hapart hkey => ?_)
  exact hapart _ List.mem_cons_self (agree_of_rowKey hs (hkeyed table second hsecond) hkey)

section statements

variable [DecidableEq V] {statement : Statement V}

lemma holds_eq_iff {row : Row V} {column : String} {value : V} :
    (Predicate.eq column value).holds databases table row = true ↔
      row column ≠ databases.null ∧ value ≠ databases.null ∧
        databases.equal table column (row column) value = true := by
  simp [Predicate.holds, and_assoc]

lemma selects_iff {predicates : List (Predicate V)} {named row : Row V}
    (hnames : Names databases table predicates named) :
    selects databases table predicates row = true ↔
      Agree databases table (keyColumns databases table) row named := by
  rw [selects, List.all_eq_true, agree_keyColumns_iff]
  constructor
  · intro h column hcolumn
    exact holds_eq_iff.mp (h _ (hnames.1 column hcolumn))
  · intro h predicate hpredicate
    obtain ⟨column, hcolumn, rfl⟩ := hnames.2 predicate hpredicate
    exact holds_eq_iff.mpr (h column hcolumn)

/-- The first row that agrees with a row is the only one. -/
lemma firstRow_eq (hs : Supported databases) {snapshot : Snapshot V}
    (hsnapshot : Constrained databases snapshot) {predicates : List (Predicate V)} {row : Row V}
    (hrow : row ∈ snapshot table)
    (hselects : ∀ other, selects databases table predicates other = true ↔
      Agree databases table (keyColumns databases table) other row)
    (hkeyed : ∀ column ∈ (databases.primaryKeys table).keys, row column ≠ databases.null) :
    firstRow databases snapshot table predicates = some row := by
  have hself : selects databases table predicates row = true :=
    (hselects row).mpr (agree_of_rowKey hs hkeyed rfl)
  cases hfind : firstRow databases snapshot table predicates with
  | none =>
    have hnone := List.find?_eq_none.mp hfind row hrow
    exact absurd hself hnone
  | some found =>
    have hfound := List.find?_some hfind
    have hmem := List.mem_of_find?_eq_some hfind
    have hagree := (hselects found).mp hfound
    rw [hsnapshot.eq_of_agree hs List.mem_cons_self hmem hrow hagree]

/-- Rows of a table with one key are one row. -/
def KeysApart (databases : Databases V) (snapshot : Snapshot V) : Prop :=
  ∀ table, ∀ first ∈ snapshot table, ∀ second ∈ snapshot table,
    rowKey databases table first = rowKey databases table second → first = second

lemma rowAt_eq_some_iff {snapshot : Snapshot V} (hapart : KeysApart databases snapshot)
    {key : KeyTuple V} {row : Row V} :
    rowAt databases snapshot table key = some row ↔
      row ∈ snapshot table ∧ rowKey databases table row = key := by
  constructor
  · intro h
    exact ⟨List.mem_of_find?_eq_some h, by simpa using List.find?_some h⟩
  · rintro ⟨hrow, rfl⟩
    cases hfind : rowAt databases snapshot table (rowKey databases table row) with
    | none =>
      have hnone := List.find?_eq_none.mp hfind row hrow
      simp at hnone
    | some found =>
      have hkey : rowKey databases table found = rowKey databases table row := by
        simpa using List.find?_some hfind
      rw [hapart table found (List.mem_of_find?_eq_some hfind) row hrow hkey]

omit [DecidableEq V] in
lemma key_of_insert {columns : List (String × V)} {key : KeyTuple V}
    (h : Statement.key databases ⟨table, .insert columns⟩ = .ok key) :
    key = rowKey databases table (insertedRow databases columns) := by
  have hread : Statement.key databases ⟨table, .insert columns⟩ =
      (getKeyValuesAndColumnToLiteralInsert (databases.primaryKeys table) columns).map Prod.fst := rfl
  rw [hread, getKeyValues_insert, map_eq_ok] at h
  obtain ⟨read, hread, rfl⟩ := h
  obtain ⟨placed, hplaced, rfl⟩ := map_eq_ok.mp hread
  exact (placedFrom_columns columns).key.key hplaced

/-- The assumptions on the base. -/
structure BaseOk (databases : Databases V) : Prop extends Supported databases where
  constrained : Constrained databases databases.base
  keyed : Keyed databases databases.base

structure Targets (databases : Databases V) (table : String) (predicates : List (Predicate V))
    (key : KeyTuple V) (row : Row V) : Prop where
  mem : row ∈ databases.base table
  names : Names databases table predicates row
  key : rowKey databases table row = key

lemma Targets.firstRow (hb : BaseOk databases) {predicates : List (Predicate V)}
    {key : KeyTuple V} {row : Row V} (h : Targets databases table predicates key row) :
    RowMerge.firstRow databases databases.base table predicates = some row :=
  firstRow_eq hb.toSupported hb.constrained h.mem (fun _ => selects_iff h.names)
    (hb.keyed table row h.mem)

lemma Targets.written (hb : BaseOk databases) {assignments : List (String × V)}
    {predicates : List (Predicate V)} {key : KeyTuple V} {row : Row V}
    (h : Targets databases table predicates key row) :
    Statement.written databases ⟨table, .update assignments predicates⟩ =
      some (assign assignments row) := by
  have hread : Statement.written databases ⟨table, .update assignments predicates⟩ =
    (RowMerge.firstRow databases databases.base table predicates).map (assign assignments) := rfl
  rw [hread, h.firstRow hb]
  rfl

lemma exists_targets_of_update {assignments : List (String × V)} {predicates : List (Predicate V)}
    (h : Statement.Fits databases ⟨table, .update assignments predicates⟩) {key : KeyTuple V}
    (hkey : Statement.key databases ⟨table, .update assignments predicates⟩ = .ok key) :
    ∃ row, Targets databases table predicates key row := by
  obtain ⟨⟨row, hrow, hnames⟩, -⟩ := h.change
  exact ⟨row, hrow, hnames, (key_of_names hnames hkey).symm⟩

lemma exists_targets_of_delete {predicates : List (Predicate V)}
    (h : Statement.Fits databases ⟨table, .delete predicates⟩) {key : KeyTuple V}
    (hkey : Statement.key databases ⟨table, .delete predicates⟩ = .ok key) :
    ∃ row, Targets databases table predicates key row := by
  obtain ⟨row, hrow, hnames⟩ := h.change
  exact ⟨row, hrow, hnames, (key_of_names hnames hkey).symm⟩

omit [DecidableEq V] in
lemma rowKey_assign {assignments : List (String × V)}
    (h : ∀ assignment ∈ assignments, assignment.1 ∉ (databases.primaryKeys table).keys)
    (row : Row V) : rowKey databases table (assign assignments row) = rowKey databases table row := by
  refine rowKey_eq_iff.mpr fun column hcolumn => assign_of_not_mem fun assignment hassignment => ?_
  exact fun hsame => h assignment hassignment (hsame ▸ hcolumn)

lemma rowKey_written (hb : BaseOk databases) (hfits : statement.Fits databases) {key : KeyTuple V}
    (hkey : statement.key databases = .ok key) {row : Row V}
    (hwritten : statement.written databases = some row) :
    rowKey databases statement.table row = key := by
  obtain ⟨table, change⟩ := statement
  cases change with
  | insert columns =>
    cases hwritten
    exact (key_of_insert hkey).symm
  | update assignments predicates =>
    obtain ⟨target, htarget⟩ := exists_targets_of_update hfits hkey
    rw [htarget.written hb] at hwritten
    cases hwritten
    exact (rowKey_assign hfits.change.2 target).trans htarget.key
  | delete predicates => cases hwritten

lemma keyed_written (hb : BaseOk databases) (hfits : statement.Fits databases) {row : Row V}
    (hwritten : statement.written databases = some row) :
    ∀ column ∈ (databases.primaryKeys statement.table).keys, row column ≠ databases.null := by
  obtain ⟨table, change⟩ := statement
  obtain ⟨key, hkey⟩ := hfits.key
  cases change with
  | insert columns =>
    cases hwritten
    exact hfits.change.2.1
  | update assignments predicates =>
    obtain ⟨target, htarget⟩ := exists_targets_of_update hfits hkey
    rw [htarget.written hb] at hwritten
    cases hwritten
    intro column hcolumn
    rw [rowKey_eq_iff.mp (rowKey_assign hfits.change.2 target) column hcolumn]
    exact hb.keyed table target htarget.mem column hcolumn
  | delete predicates => cases hwritten

def Statement.On (databases : Databases V) (table : String) (key : KeyTuple V)
    (statement : Statement V) : Prop :=
  statement.table = table ∧ statement.key databases = .ok key

/-- A snapshot to which statements have led. -/
structure Reached (databases : Databases V) (statements : List (Statement V))
    (snapshot : Snapshot V) : Prop where
  rows : ∀ table row, row ∈ snapshot table ↔
    (row ∈ databases.base table ∧
      ¬ ∃ statement ∈ statements, statement.On databases table (rowKey databases table row)) ∨
    ∃ statement ∈ statements, statement.table = table ∧ statement.written databases = some row
  distinct : ∀ table, ((snapshot table).map (rowKey databases table)).Nodup

lemma start_reached (hb : BaseOk databases) : Reached databases [] databases.base where
  rows table row := by simp
  distinct table := hb.constrained.nodup_keys hb.toSupported hb.keyed

lemma not_agree_written (hb : BaseOk databases) (hfits : statement.Fits databases) {row named : Row V}
    (hwritten : statement.written databases = some row)
    (hnamed : named ∈ databases.base statement.table)
    (hother : ¬ statement.On databases statement.table
      (rowKey databases statement.table named)) :
    ¬ Agree databases statement.table (keyColumns databases statement.table) row named := by
  obtain ⟨table, change⟩ := statement
  obtain ⟨key, hkey⟩ := hfits.key
  intro hagree
  cases change with
  | insert columns =>
    cases hwritten
    exact hfits.change.2.2 named hnamed (hagree.symm hb.toSupported)
  | update assignments predicates =>
    obtain ⟨target, htarget⟩ := exists_targets_of_update hfits hkey
    rw [htarget.written hb] at hwritten
    cases hwritten
    have hsame := rowKey_eq_iff.mp (rowKey_assign hfits.change.2 target)
    have hbase : Agree databases table (keyColumns databases table) target named := by
      refine agree_keyColumns_iff.mpr fun column hcolumn => ?_
      have hvalues := agree_keyColumns_iff.mp hagree column hcolumn
      rw [hsame column hcolumn] at hvalues
      exact hvalues
    have heq := hb.constrained.eq_of_agree hb.toSupported List.mem_cons_self htarget.mem hnamed hbase
    exact hother ⟨rfl, by rw [← heq, htarget.key, hkey]⟩
  | delete predicates => cases hwritten

section step

variable {processed : List (Statement V)} {snapshot : Snapshot V}

omit [DecidableEq V] in
lemma not_on_of_once (honce : OncePerKey databases (processed ++ [statement])) {key : KeyTuple V}
    (hkey : statement.key databases = .ok key) :
    ¬ ∃ earlier ∈ processed, earlier.On databases statement.table key := by
  rintro ⟨earlier, hearlier, htable, hearlierKey⟩
  exact (List.pairwise_append.mp honce).2.2 earlier hearlier statement
    (List.mem_singleton_self statement) htable key hearlierKey hkey

lemma Reached.selects_iff (hb : BaseOk databases) (h : Reached databases processed snapshot)
    (hfits : ∀ earlier ∈ processed, earlier.Fits databases) {predicates : List (Predicate V)}
    {key : KeyTuple V} {named row : Row V} (htarget : Targets databases table predicates key named)
    (hnew : ¬ ∃ earlier ∈ processed, earlier.On databases table key) (hrow : row ∈ snapshot table) :
    selects databases table predicates row = true ↔ row = named := by
  rw [RowMerge.selects_iff htarget.names]
  constructor
  · intro hagree
    rcases (h.rows table row).mp hrow with ⟨hbase, -⟩ | ⟨earlier, hearlier, rfl, hwritten⟩
    · exact hb.constrained.eq_of_agree hb.toSupported List.mem_cons_self hbase htarget.mem hagree
    · refine absurd hagree (not_agree_written hb (hfits earlier hearlier) hwritten htarget.mem ?_)
      rw [htarget.key]
      exact fun hon => hnew ⟨earlier, hearlier, hon⟩
  · rintro rfl
    exact agree_of_rowKey hb.toSupported (hb.keyed table row htarget.mem) rfl

lemma Reached.mem_target (h : Reached databases processed snapshot)
    {predicates : List (Predicate V)} {key : KeyTuple V} {named : Row V}
    (htarget : Targets databases table predicates key named)
    (hnew : ¬ ∃ earlier ∈ processed, earlier.On databases table key) : named ∈ snapshot table :=
  (h.rows table named).mpr (.inl ⟨htarget.mem, htarget.key ▸ hnew⟩)

lemma Reached.rows_ne (hb : BaseOk databases) (h : Reached databases processed snapshot)
    (hfits : ∀ earlier ∈ processed, earlier.Fits databases) {predicates : List (Predicate V)}
    {key : KeyTuple V} {named row : Row V}
    (htarget : Targets databases statement.table predicates key named)
    (hkey : statement.key databases = .ok key)
    (hnew : ¬ ∃ earlier ∈ processed, earlier.On databases statement.table key) :
    row ∈ snapshot statement.table ∧ row ≠ named ↔
      (row ∈ databases.base statement.table ∧ ¬ ∃ earlier ∈ processed ++ [statement],
        earlier.On databases statement.table (rowKey databases statement.table row)) ∨
      ∃ earlier ∈ processed, earlier.table = statement.table ∧
        earlier.written databases = some row := by
  rw [h.rows statement.table row]
  constructor
  · rintro ⟨⟨hbase, huntouched⟩ | hwritten, hne⟩
    · refine .inl ⟨hbase, ?_⟩
      rintro ⟨earlier, hearlier, hon⟩
      rcases List.mem_append.mp hearlier with hearlier | hlast
      · exact huntouched ⟨earlier, hearlier, hon⟩
      · rw [List.mem_singleton.mp hlast] at hon
        have hsame : key = rowKey databases statement.table row := by
          have hrow := hon.2
          rw [hkey] at hrow
          exact Except.ok.inj hrow
        have hdistinct := (start_reached hb).distinct statement.table
        exact hne (List.inj_on_of_nodup_map hdistinct hbase htarget.mem
          (hsame.symm.trans htarget.key.symm))
    · exact .inr hwritten
  · rintro (⟨hbase, huntouched⟩ | ⟨earlier, hearlier, htable, hwritten⟩)
    · refine ⟨.inl ⟨hbase, ?_⟩, ?_⟩
      · rintro ⟨earlier, hearlier, hon⟩
        exact huntouched ⟨earlier, List.mem_append_left _ hearlier, hon⟩
      · rintro rfl
        exact huntouched ⟨statement, by simp, rfl, by rw [htarget.key, hkey]⟩
    · refine ⟨.inr ⟨earlier, hearlier, htable, hwritten⟩, ?_⟩
      rintro rfl
      obtain ⟨earlierKey, hearlierKey⟩ := (hfits earlier hearlier).key
      have hrow := rowKey_written hb (hfits earlier hearlier) hearlierKey hwritten
      rw [htable, htarget.key] at hrow
      exact hnew ⟨earlier, hearlier, htable, hrow ▸ hearlierKey⟩

lemma Reached.of_table (h : Reached databases processed snapshot) {rows : List (Row V)}
    (hrows : ∀ row, row ∈ rows ↔
      (row ∈ databases.base statement.table ∧ ¬ ∃ earlier ∈ processed ++ [statement],
        earlier.On databases statement.table (rowKey databases statement.table row)) ∨
      ∃ earlier ∈ processed ++ [statement], earlier.table = statement.table ∧
        earlier.written databases = some row)
    (hdistinct : (rows.map (rowKey databases statement.table)).Nodup) :
    Reached databases (processed ++ [statement])
      (Function.update snapshot statement.table rows) where
  rows table row := by
    by_cases htable : table = statement.table
    · subst htable
      rw [Function.update_self]
      exact hrows row
    · rw [Function.update_of_ne htable, h.rows table row]
      have hon : ∀ key, ¬ statement.On databases table key := fun key hon => htable hon.1.symm
      simp [List.mem_append, or_and_right, exists_or, hon, Ne.symm htable]
  distinct table := by
    by_cases htable : table = statement.table
    · subst htable
      rw [Function.update_self]
      exact hdistinct
    · rw [Function.update_of_ne htable]
      exact h.distinct table

lemma exists_written_append {row : Row V} :
    (∃ earlier ∈ processed ++ [statement], earlier.table = statement.table ∧
        earlier.written databases = some row) ↔
      (∃ earlier ∈ processed, earlier.table = statement.table ∧
        earlier.written databases = some row) ∨ statement.written databases = some row := by
  simp [List.mem_append, or_and_right, exists_or]

lemma Reached.insert (hb : BaseOk databases) (h : Reached databases processed snapshot)
    (hfits : ∀ earlier ∈ processed, earlier.Fits databases) {columns : List (String × V)}
    (hinsert : Statement.Fits databases ⟨table, .insert columns⟩)
    (honce : OncePerKey databases (processed ++ [⟨table, .insert columns⟩])) :
    Reached databases (processed ++ [⟨table, .insert columns⟩])
      (Statement.described databases snapshot ⟨table, .insert columns⟩) := by
  obtain ⟨key, hkey⟩ := hinsert.key
  have hnew := not_on_of_once honce hkey
  have hrowKey := key_of_insert hkey
  -- no row of the base has the key
  have hfree : ∀ row ∈ databases.base table, rowKey databases table row ≠ key := by
    intro row hrow hsame
    refine hinsert.change.2.2 row hrow (agree_of_rowKey hb.toSupported hinsert.change.2.1 ?_)
    rw [hsame, hrowKey]
  refine h.of_table (fun row => ?_) ?_
  · rw [Change.described, List.mem_append, List.mem_singleton, h.rows table row, exists_written_append]
    have hwritten : Statement.written databases ⟨table, .insert columns⟩ = some row ↔
        row = insertedRow databases columns := by
      rw [eq_comm]
      exact Option.some_inj
    have huntouched : row ∈ databases.base table → ((¬ ∃ earlier ∈ processed ++
        [⟨table, .insert columns⟩], earlier.On databases table (rowKey databases table row)) ↔
        ¬ ∃ earlier ∈ processed, earlier.On databases table (rowKey databases table row)) := by
      intro hrow
      have hon : ¬ Statement.On databases table (rowKey databases table row)
          ⟨table, .insert columns⟩ := by
        rintro ⟨-, hsame⟩
        rw [hkey] at hsame
        exact hfree row hrow (Except.ok.inj hsame).symm
      simp [List.mem_append, or_and_right, exists_or, hon]
    rw [hwritten, and_congr_right huntouched, or_assoc]
  · show ((snapshot table ++ [insertedRow databases columns]).map (rowKey databases table)).Nodup
    rw [List.map_append, List.map_singleton, List.nodup_append]
    refine ⟨h.distinct table, List.nodup_singleton _, ?_⟩
    rintro other hother _ hlast rfl
    obtain ⟨row, hrow, hsame⟩ := List.mem_map.mp hother
    rw [List.mem_singleton, ← hrowKey] at hlast
    rw [hlast] at hsame
    rcases (h.rows table row).mp hrow with ⟨hbase, -⟩ | ⟨earlier, hearlier, rfl, hwritten⟩
    · exact hfree row hbase hsame
    · obtain ⟨earlierKey, hearlierKey⟩ := (hfits earlier hearlier).key
      have hwrittenKey := rowKey_written hb (hfits earlier hearlier) hearlierKey hwritten
      rw [hsame] at hwrittenKey
      exact hnew ⟨earlier, hearlier, rfl, hwrittenKey ▸ hearlierKey⟩

lemma Reached.update (hb : BaseOk databases) (h : Reached databases processed snapshot)
    (hfits : ∀ earlier ∈ processed, earlier.Fits databases) {assignments : List (String × V)}
    {predicates : List (Predicate V)}
    (hupdate : Statement.Fits databases ⟨table, .update assignments predicates⟩)
    (honce : OncePerKey databases (processed ++ [⟨table, .update assignments predicates⟩])) :
    Reached databases (processed ++ [⟨table, .update assignments predicates⟩])
      (Statement.described databases snapshot ⟨table, .update assignments predicates⟩) := by
  obtain ⟨key, hkey⟩ := hupdate.key
  have hnew := not_on_of_once honce hkey
  obtain ⟨named, htarget⟩ := exists_targets_of_update hupdate hkey
  have hselects : ∀ row ∈ snapshot table, (selects databases table predicates row = true ↔
      row = named) := fun row hrow => h.selects_iff hb hfits htarget hnew hrow
  have hwritten : Statement.written databases ⟨table, .update assignments predicates⟩ =
      some (assign assignments named) := congrArg (Option.map (assign assignments)) (htarget.firstRow hb)
  refine h.of_table (fun row => ?_) ?_
  · have hrows : row ∈ Change.described databases table (snapshot table)
        (.update assignments predicates) ↔
        (row ∈ snapshot table ∧ row ≠ named) ∨ assign assignments named = row := by
      rw [Change.described, List.mem_map]
      constructor
      · rintro ⟨other, hother, rfl⟩
        by_cases hsame : other = named
        · rw [if_pos ((hselects other hother).mpr hsame), hsame]
          exact .inr rfl
        · rw [if_neg fun hsel => hsame ((hselects other hother).mp hsel)]
          exact .inl ⟨hother, hsame⟩
      · rintro (⟨hrow, hne⟩ | rfl)
        · exact ⟨row, hrow, if_neg fun hsel => hne ((hselects row hrow).mp hsel)⟩
        · have hmem := h.mem_target htarget hnew
          exact ⟨named, hmem, if_pos ((hselects named hmem).mpr rfl)⟩
    rw [hrows, exists_written_append, hwritten, Option.some_inj, ← or_assoc]
    exact or_congr_left (@Reached.rows_ne V databases _ ⟨table, .update assignments predicates⟩
      processed snapshot hb h hfits predicates key named row htarget hkey hnew)
  · show (((snapshot table).map fun row => if selects databases table predicates row = true then
      assign assignments row else row).map (rowKey databases table)).Nodup
    rw [List.map_map]
    have hkeys : (snapshot table).map (rowKey databases table ∘ fun row =>
        if selects databases table predicates row = true then assign assignments row else row) =
        (snapshot table).map (rowKey databases table) := by
      refine List.map_congr_left fun row _ => ?_
      rw [Function.comp_apply]
      split
      · exact rowKey_assign hupdate.change.2 row
      · rfl
    rw [hkeys]
    exact h.distinct table

lemma Reached.delete (hb : BaseOk databases) (h : Reached databases processed snapshot)
    (hfits : ∀ earlier ∈ processed, earlier.Fits databases) {predicates : List (Predicate V)}
    (hdelete : Statement.Fits databases ⟨table, .delete predicates⟩)
    (honce : OncePerKey databases (processed ++ [⟨table, .delete predicates⟩])) :
    Reached databases (processed ++ [⟨table, .delete predicates⟩])
      (Statement.described databases snapshot ⟨table, .delete predicates⟩) := by
  obtain ⟨key, hkey⟩ := hdelete.key
  have hnew := not_on_of_once honce hkey
  obtain ⟨named, htarget⟩ := exists_targets_of_delete hdelete hkey
  refine h.of_table (fun row => ?_) ?_
  · have hrows : row ∈ Change.described databases table (snapshot table) (.delete predicates) ↔
        row ∈ snapshot table ∧ row ≠ named := by
      rw [Change.described, List.mem_filter]
      refine and_congr_right fun hrow => ?_
      rw [Bool.not_eq_true', ← Bool.not_eq_true]
      exact not_congr (h.selects_iff hb hfits htarget hnew hrow)
    have hnone : ¬ Statement.written databases ⟨table, .delete predicates⟩ = some row :=
      fun hwritten => by cases hwritten
    rw [hrows, exists_written_append, or_iff_left hnone]
    exact @Reached.rows_ne V databases _ ⟨table, .delete predicates⟩
      processed snapshot hb h hfits predicates key named row htarget hkey hnew
  · exact (h.distinct table).sublist (List.Sublist.map _ List.filter_sublist)

end step

/-- The rows of a run without a refused statement are those that its statements describe. -/
lemma runShell_of_taken {execute : Execute V} {statements : List (Statement V)}
    (hplain : Plain databases execute statements) {snapshot : Snapshot V}
    (htaken : (runShell execute statements snapshot).2 = true) :
    (runShell execute statements snapshot).1 = describedRows databases statements snapshot := by
  induction statements generalizing snapshot with
  | nil => rfl
  | cons statement rest ih =>
    have hboth : (execute snapshot statement).2 = true ∧
        (runShell execute rest (execute snapshot statement).1).2 = true := by
      simpa [runShell] using htaken
    have hfirst := hplain statement List.mem_cons_self snapshot hboth.1
    have hrest := ih (fun later hlater => hplain later (List.mem_cons_of_mem _ hlater)) hboth.2
    rw [hfirst] at hrest
    show (runShell execute rest (execute snapshot statement).1).1 = _
    rw [hfirst]
    exact hrest

/-- Statements that fit, one for a key, describe the rows that they leave as they are and those that
they write. -/
lemma describedRows_reached (hb : BaseOk databases) {statements : List (Statement V)}
    (hfits : ∀ statement ∈ statements, statement.Fits databases)
    (honce : OncePerKey databases statements) :
    Reached databases statements (describedRows databases statements databases.base) := by
  have hrun : ∀ (rest processed : List (Statement V)) (snapshot : Snapshot V),
      (∀ statement ∈ processed ++ rest, statement.Fits databases) →
      OncePerKey databases (processed ++ rest) → Reached databases processed snapshot →
      Reached databases (processed ++ rest) (describedRows databases rest snapshot) := by
    intro rest
    induction rest with
    | nil =>
      intro processed snapshot _ _ h
      rw [List.append_nil]
      exact h
    | cons statement rest ih =>
      intro processed snapshot hfits honce h
      have hassoc : processed ++ statement :: rest = (processed ++ [statement]) ++ rest := by simp
      rw [hassoc] at hfits honce ⊢
      have hprocessed : ∀ earlier ∈ processed, earlier.Fits databases := fun earlier hearlier =>
        hfits earlier (by simp [hearlier])
      have hstatement : statement.Fits databases := hfits statement (by simp)
      have honce' : OncePerKey databases (processed ++ [statement]) :=
        (List.pairwise_append.mp honce).1
      refine ih (processed ++ [statement]) (statement.described databases snapshot) hfits honce ?_
      obtain ⟨table, change⟩ := statement
      cases change with
      | insert columns => exact h.insert hb hprocessed hstatement honce'
      | update assignments predicates => exact h.update hb hprocessed hstatement honce'
      | delete predicates => exact h.delete hb hprocessed hstatement honce'
  exact hrun statements [] databases.base hfits honce (start_reached hb)

lemma Reached.keysApart {statements : List (Statement V)} {snapshot : Snapshot V}
    (h : Reached databases statements snapshot) : KeysApart databases snapshot :=
  fun table _ hfirst _ hsecond hkey =>
    List.inj_on_of_nodup_map (h.distinct table) hfirst hsecond hkey

lemma rowAt_congr {snapshot other : Snapshot V} (hapart : KeysApart databases other)
    (hrows : ∀ table row, row ∈ snapshot table ↔ row ∈ other table) (key : KeyTuple V) :
    rowAt databases snapshot table key = rowAt databases other table key := by
  have hapart' : KeysApart databases snapshot := fun table first hfirst second hsecond =>
    hapart table first ((hrows table first).mp hfirst) second ((hrows table second).mp hsecond)
  ext row
  rw [rowAt_eq_some_iff hapart', rowAt_eq_some_iff hapart, hrows]

variable {statements : List (Statement V)} {snapshot : Snapshot V} {key : KeyTuple V}

lemma Reached.rowAt_untouched (hb : BaseOk databases) (h : Reached databases statements snapshot)
    (hfits : ∀ statement ∈ statements, statement.Fits databases)
    (hnone : ¬ ∃ statement ∈ statements, statement.On databases table key) :
    rowAt databases snapshot table key = rowAt databases databases.base table key := by
  ext row
  rw [rowAt_eq_some_iff h.keysApart, rowAt_eq_some_iff (start_reached hb).keysApart, h.rows table row]
  constructor
  · rintro ⟨⟨hbase, -⟩ | ⟨statement, hstatement, rfl, hwritten⟩, hkey⟩
    · exact ⟨hbase, hkey⟩
    · obtain ⟨own, hown⟩ := (hfits statement hstatement).key
      have hwrittenKey := rowKey_written hb (hfits statement hstatement) hown hwritten
      rw [hkey] at hwrittenKey
      exact absurd ⟨statement, hstatement, rfl, hwrittenKey ▸ hown⟩ hnone
  · rintro ⟨hbase, rfl⟩
    exact ⟨.inl ⟨hbase, hnone⟩, rfl⟩

omit [DecidableEq V] in
lemma OncePerKey.eq_of_on (honce : OncePerKey databases statements) {first second : Statement V}
    (hfirst : first ∈ statements) (hsecond : second ∈ statements)
    (hon : first.On databases table key) (hon' : second.On databases table key) :
    first = second := by
  obtain ⟨i, hi⟩ := List.mem_iff_getElem?.mp hfirst
  obtain ⟨j, hj⟩ := List.mem_iff_getElem?.mp hsecond
  have hsame := honce.eq_of_sameKey hi hj ⟨hon.1.trans hon'.1.symm, key, hon.2, hon'.2⟩
  rw [hsame, hj] at hi
  exact (Option.some.inj hi).symm

lemma Reached.rowAt_on (hb : BaseOk databases) (h : Reached databases statements snapshot)
    (hfits : ∀ statement ∈ statements, statement.Fits databases)
    (honce : OncePerKey databases statements) (hmem : statement ∈ statements)
    (hon : statement.On databases table key) :
    rowAt databases snapshot table key = statement.written databases := by
  ext row
  rw [rowAt_eq_some_iff h.keysApart, h.rows table row]
  constructor
  · rintro ⟨⟨-, huntouched⟩ | ⟨other, hother, rfl, hwritten⟩, hkey⟩
    · rw [hkey] at huntouched
      exact absurd ⟨statement, hmem, hon⟩ huntouched
    · obtain ⟨own, hown⟩ := (hfits other hother).key
      have hwrittenKey := rowKey_written hb (hfits other hother) hown hwritten
      rw [hkey] at hwrittenKey
      rw [honce.eq_of_on hmem hother hon ⟨rfl, hwrittenKey ▸ hown⟩]
      exact hwritten
  · intro hwritten
    obtain ⟨rfl, hkey⟩ := hon
    exact ⟨.inr ⟨statement, hmem, rfl, hwritten⟩,
      rowKey_written hb (hfits statement hmem) hkey hwritten⟩

end statements

end SqliteReconcile.RowMerge
