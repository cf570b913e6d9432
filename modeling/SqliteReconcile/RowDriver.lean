import SqliteReconcile.ForeignLinks
import SqliteReconcile.RowConstraints
import SqliteReconcile.StatementLogging

/-!
# The merge driver

The driver reads the two diffs, compares them, makes a pass over the foreign keys, and then puts the
base in the place of our file and runs the statements there. The pass over the foreign keys reads
the conflict pairs before it asks whether there are any, and reads each foreign key as two names.
-/
namespace SqliteReconcile.RowMerge
open Dicts Outcomes StatementLogging

/-- The programs and the library that the driver calls: the output of sqldiff unless it fails, the
parser of sqlglot, the pragmas, and what SQLite does with a statement. -/
structure Tools (V : Type) where
  sqldiff : Bool → Option (List Char)
  parseOne : List Char → Option (Parsed V)
  pragmas : Pragmas
  execute : Execute V

variable {V : Type}

/-- `subprocess_run_wrapper(["sqldiff", ...]).stdout.strip().split('\n')`. -/
def readDiff (tools : Tools V) (isOurs : Bool) : Except DriverFailure (List (List Char)) :=
  match tools.sqldiff isOurs with
  | some output => .ok ((strip output).splitOn '\n')
  | none => .error .systemExit

def parseText (tools : Tools V) (text : List Char) : Except DriverFailure (Parsed V) :=
  match tools.parseOne text with
  | some parsed => .ok parsed
  | none => .error .parseError

def requireStatement : Parsed V → Except DriverFailure (Statement V)
  | .dml statement => .ok statement
  | .other => .error .typeError

def liftFailure {α : Type} : Except Failure α → Except DriverFailure α :=
  Except.mapError .comparison

/-- The tables that are invalid before the comparison. -/
def startStates (invalidTables : InvalidTables) : Dict String InvalidTableState where
  entries := invalidTables.entries.map fun entry => (entry.1, ⟨[], []⟩)
  nodup := by
    rw [List.map_map]
    exact invalidTables.nodup

def Databases.withLinks (databases : Databases V) (links : ForeignLinks) : Databases V :=
  { databases with childReferences := fun table => (links table).childReferences }

section driver

variable [DecidableEq V]

/-- The two loops of `check_conflict_and_return_diffs`. -/
def compareStatements (databases : Databases V) (baseToOurs baseToTheirs : List (Statement V))
    (invalid : Dict String InvalidTableState) : Except Failure (Work V) := do
  let isOurs := hashesOurs baseToOurs baseToTheirs
  let work ← (ofSide isOurs baseToOurs baseToTheirs).zipIdx.foldlM
    (buildStatement databases isOurs (databases.cursor isOurs)) (startWork invalid)
  (ofSide isOurs baseToTheirs baseToOurs).zipIdx.foldlM
    (lookupStatement databases isOurs (databases.cursor !isOurs)) work

/-- `table_name_to_table_conflict_state[table]`. -/
def requireTable (tables : Dict String (TableConflictState V)) (table : String) :
    Except DriverFailure (TableConflictState V) :=
  match tables.get? table with
  | some state => .ok state
  | none => .error .keyError

/-- `for cols, link_data in parent_references`, whose keys are read as pairs. -/
def readReferences : List (List String) → Except DriverFailure Unit
  | [] => .ok ()
  | columns :: rest =>
    if columns.length = 2 then readReferences rest else .error .valueError

def checkFkViolation (databases : Databases V) (links : ForeignLinks)
    (tables : Dict String (TableConflictState V)) (statement : Statement V) :
    Except DriverFailure Unit :=
  let references := (links statement.table).parentReferences.keys
  if references.length = 0 then .ok ()
  else
    match statement.change with
    | .delete _ => .ok ()
    | .update _ _ => do
      let _ ← requireTable tables statement.table
      readReferences references
    | .insert columns => do
      let state ← requireTable tables statement.table
      let _ ← liftFailure (getFullRowOfInsert databases databases.ours statement.table
        state.primaryKeyColumnsToIndex columns)
      readReferences references

/-- `zip(*conflict_pairs.keys())` has no two names to give if there is no pair. -/
def foreignKeyCheck (databases : Databases V) (links : ForeignLinks)
    (tables : Dict String (TableConflictState V)) (baseToOurs : List (Statement V))
    (buckets : DiffBuckets) : Except DriverFailure (List Unit) :=
  if buckets.conflictPairs.keys.length = 0 then .error .valueError
  else buckets.extraOursIndices.mapM fun i => do
    let statement ← liftFailure (statementAt baseToOurs i)
    checkFkViolation databases links tables statement

structure Prepared (V : Type) where
  oursTexts : List (List Char)
  theirsTexts : List (List Char)
  invalidTables : InvalidTables
  databases : Databases V
  comparison : Comparison V
  statements : List (Statement V)

def prepare (tools : Tools V) (databases : Databases V) :
    Except DriverFailure (Prepared V) := do
  let oursTexts ← readDiff tools true
  let theirsTexts ← readDiff tools false
  let oursParsed ← oursTexts.mapM (parseText tools)
  let theirsParsed ← theirsTexts.mapM (parseText tools)
  let checked ← checkValidTables tools.pragmas oursParsed theirsParsed
  let links := createTableToForeignLinkInformation tools.pragmas checked.1 checked.2
  let databases := databases.withLinks links
  let ours ← oursParsed.mapM requireStatement
  let theirs ← theirsParsed.mapM requireStatement
  let work ← liftFailure (compareStatements databases ours theirs (startStates checked.2))
  let comparison := work.comparison (hashesOurs ours theirs)
  let _ ← foreignKeyCheck databases links work.tables ours comparison.buckets
  let statements ← liftFailure (stmtsToApply ours theirs comparison.buckets)
  return ⟨oursTexts, theirsTexts, checked.2, databases, comparison, statements⟩

structure ConflictFile where
  conflicts : List ((Option (List Char) × Option (List Char)) × List ConflictPair)
  invalidTables : List (String × List InvalidReason × Option InvalidTableState)

/-- `asdict` copies what it does not know, and a row of a pragma cannot be copied. -/
def InvalidReason.isCopied (reason : InvalidReason) : Bool :=
  match reason.details with
  | .integrity _ => true
  | .foreignKeys _ => false

/-- What is written as JSON, if the reasons can be copied. -/
def conflictFile (prepared : Prepared V) : Option ConflictFile :=
  if prepared.invalidTables.values.flatten.all InvalidReason.isCopied then
    some {
      conflicts := prepared.comparison.buckets.conflictPairs.entries.map fun entry =>
        ((prepared.oursTexts[entry.1.1]?, prepared.theirsTexts[entry.1.2]?), entry.2)
      invalidTables := prepared.invalidTables.entries.map fun entry =>
        (entry.1, entry.2, prepared.comparison.invalidTables.get? entry.1) }
  else none

/-- The exit code, the rows of our file, and the conflict file. -/
structure Outcome (V : Type) where
  exitCode : ℕ
  ours : Snapshot V
  conflictFile : Option ConflictFile

def main (tools : Tools V) (databases : Databases V) : Outcome V :=
  match prepare tools databases with
  | .error _ => ⟨1, databases.ours, none⟩
  | .ok prepared =>
    let (ours, succeeded) := runShell tools.execute prepared.statements databases.base
    if !succeeded then ⟨1, ours, none⟩
    else if 0 < prepared.comparison.buckets.conflictPairs.keys.length ∨
        0 < prepared.invalidTables.keys.length then
      ⟨1, ours, conflictFile prepared⟩
    else ⟨0, ours, none⟩

structure Inputs (V : Type) where
  oursTexts : List (List Char)
  theirsTexts : List (List Char)
  ours : List (Statement V)
  theirs : List (Statement V)
  tablesSet : List String
  invalidTables : InvalidTables
  work : Work V

def Inputs.links (inputs : Inputs V) (tools : Tools V) : ForeignLinks :=
  createTableToForeignLinkInformation tools.pragmas inputs.tablesSet inputs.invalidTables

def Inputs.comparison (inputs : Inputs V) : Comparison V :=
  inputs.work.comparison (hashesOurs inputs.ours inputs.theirs)

structure Compares (tools : Tools V) (databases : Databases V) (inputs : Inputs V) : Prop where
  oursTexts : readDiff tools true = .ok inputs.oursTexts
  theirsTexts : readDiff tools false = .ok inputs.theirsTexts
  ours : inputs.oursTexts.mapM (parseText tools) = .ok (inputs.ours.map .dml)
  theirs : inputs.theirsTexts.mapM (parseText tools) = .ok (inputs.theirs.map .dml)
  valid : checkValidTables tools.pragmas (inputs.ours.map .dml) (inputs.theirs.map .dml) =
    .ok (inputs.tablesSet, inputs.invalidTables)
  compared : compareStatements (databases.withLinks (inputs.links tools)) inputs.ours inputs.theirs
    (startStates inputs.invalidTables) = .ok inputs.work

/-- The row of an INSERT can be looked up: it gives a column of its key, and no name needs quotes. -/
def LooksUp (databases : Databases V) (table : String) (columns : List (String × V)) : Prop :=
  (∃ column ∈ columns, column.1 ∈ (databases.primaryKeys table).keys) ∧
    databases.needsQuotes table = false ∧
    ∀ column ∈ columns, column.1 ∈ (databases.primaryKeys table).keys →
      databases.needsQuotes column.1 = false

/-- The pass over the foreign keys ends: there is a conflict pair, and an INSERT or UPDATE that only
our side has is not about a table with foreign keys, or the hashed side touches the table, the row of
an INSERT can be looked up, and each foreign key has two columns. -/
structure Passes (databases : Databases V) (tools : Tools V) (inputs : Inputs V) : Prop where
  pairs : inputs.comparison.buckets.conflictPairs.keys ≠ []
  extra : ∀ i ∈ inputs.comparison.buckets.extraOursIndices, ∀ s, inputs.ours[i]? = some s →
    s.change.kind ≠ .delete → ((inputs.links tools) s.table).parentReferences.keys ≠ [] →
      (∃ t ∈ ofSide (hashesOurs inputs.ours inputs.theirs) inputs.ours inputs.theirs,
        t.table = s.table) ∧
      (∀ columns, s.change = .insert columns → LooksUp databases s.table columns) ∧
      ∀ columns ∈ ((inputs.links tools) s.table).parentReferences.keys, columns.length = 2

omit [DecidableEq V] in
lemma mapM_requireStatement {parsed : List (Parsed V)} {statements : List (Statement V)} :
    parsed.mapM requireStatement = .ok statements ↔ parsed = statements.map .dml := by
  rw [mapM_eq_ok, ← List.forall₂_eq_eq_eq, List.forall₂_map_right_iff]
  refine ⟨fun h => h.imp fun {first second} hsame => ?_, fun h => h.imp fun {first second} hsame => ?_⟩
  · cases first with
    | dml statement => exact congrArg Parsed.dml (Except.ok.inj hsame)
    | other => cases hsame
  · rw [hsame]
    rfl

lemma liftFailure_eq_ok {α : Type} {x : Except Failure α} {a : α} :
    liftFailure x = .ok a ↔ x = .ok a := by
  cases x with
  | error failure => exact iff_of_false nofun nofun
  | ok value => exact ⟨fun h => congrArg _ (Except.ok.inj h), fun h => by rw [h]; rfl⟩

omit [DecidableEq V] in
lemma bind_return {α β γ : Type} (x : Except Failure α) (f : α → Except Failure β) (g : β → γ) :
    (do let a ← x; let b ← f a; return g b) = (x >>= f).map g := by
  cases x with
  | error failure => rfl
  | ok a =>
    rw [ok_bind, ok_bind]
    cases f a <;> rfl

lemma check_eq_compareStatements (databases : Databases V) (baseToOurs baseToTheirs : List (Statement V))
    (invalid : Dict String InvalidTableState) :
    checkConflictAndReturnDiffs databases baseToOurs baseToTheirs invalid =
      (compareStatements databases baseToOurs baseToTheirs invalid).map
        (·.comparison (hashesOurs baseToOurs baseToTheirs)) := by
  rw [check_eq]
  exact bind_return _ _ _

lemma readReferences_eq_ok {references : List (List String)} :
    readReferences references = .ok () ↔ ∀ columns ∈ references, columns.length = 2 := by
  induction references with
  | nil => exact iff_of_true rfl nofun
  | cons columns rest ih =>
    rw [readReferences, List.forall_mem_cons]
    by_cases hlength : columns.length = 2
    · rw [if_pos hlength, ih, and_iff_right hlength]
    · rw [if_neg hlength]
      exact iff_of_false nofun fun h => hlength h.1

omit [DecidableEq V] in
lemma requireTable_eq_ok {tables : Dict String (TableConflictState V)} {table : String}
    {state : TableConflictState V} :
    requireTable tables table = .ok state ↔ tables.get? table = some state := by
  rw [requireTable]
  cases tables.get? table with
  | none => exact iff_of_false nofun nofun
  | some found => exact ⟨fun h => congrArg some (Except.ok.inj h), fun h => by cases h; rfl⟩

lemma getFullRowOfInsert_ok_iff {databases : Databases V} {snapshot : Snapshot V} {table : String}
    {columns : List (String × V)} :
    (∃ row, getFullRowOfInsert databases snapshot table (databases.primaryKeys table) columns =
      .ok row) ↔ LooksUp databases table columns := by
  have hnil : (columns.filter fun column => column.1 ∈ (databases.primaryKeys table).keys) = [] ↔
      ¬ ∃ column ∈ columns, column.1 ∈ (databases.primaryKeys table).keys := by
    simp [List.filter_eq_nil_iff]
  rw [getFullRowOfInsert, buildWhereExprFromInsert, LooksUp]
  by_cases hkey : ∃ column ∈ columns, column.1 ∈ (databases.primaryKeys table).keys
  · have hne : ¬ (columns.filter fun column => column.1 ∈ (databases.primaryKeys table).keys) = [] :=
      fun h => hnil.mp h hkey
    have hcolumn : ∀ column : String × V, Predicate.column (if column.2 = databases.null then
        .isNull column.1 else .eq column.1 column.2) = column.1 := by
      intro column
      split <;> rfl
    simp only [List.map_eq_nil_iff, if_neg hne, ok_bind, fetchRow, hkey, true_and]
    rw [List.map_map, List.any_cons]
    simp only [Function.comp_def, hcolumn]
    split
    · next hquotes =>
      refine iff_of_false (fun h => ?_) fun hplain => ?_
      · obtain ⟨row, hrow⟩ := h
        cases hrow
      simp only [hplain.1, Bool.false_or, List.any_map, List.any_eq_true, Function.comp_apply,
        List.mem_filter, decide_eq_true_eq] at hquotes
      obtain ⟨column, ⟨hmem, hkeyed⟩, hquoted⟩ := hquotes
      exact absurd hquoted (by rw [hplain.2 column hmem hkeyed]; exact Bool.false_ne_true)
    · next hquotes =>
      simp only [Bool.or_eq_true, List.any_map, List.any_eq_true, Function.comp_apply,
        List.mem_filter, decide_eq_true_eq, not_or, not_exists, not_and, Bool.not_eq_true] at hquotes
      exact iff_of_true ⟨_, rfl⟩ ⟨hquotes.1, fun column hmem hkeyed =>
        hquotes.2 column ⟨hmem, hkeyed⟩⟩
  · simp only [List.map_eq_nil_iff, hnil.mpr hkey, if_true]
    refine iff_of_false (fun h => ?_) fun h => hkey h.1
    obtain ⟨row, hrow⟩ := h
    cases hrow

lemma checkFkViolation_ok_iff {databases : Databases V} {links : ForeignLinks}
    {tables : Dict String (TableConflictState V)} {statement : Statement V}
    (hkeys : ∀ state, tables.get? statement.table = some state →
      state.primaryKeyColumnsToIndex = databases.primaryKeys statement.table) :
    checkFkViolation databases links tables statement = .ok () ↔
      (statement.change.kind ≠ .delete → (links statement.table).parentReferences.keys ≠ [] →
        tables.get? statement.table ≠ none ∧
        (∀ columns, statement.change = .insert columns →
          LooksUp databases statement.table columns) ∧
        ∀ columns ∈ (links statement.table).parentReferences.keys, columns.length = 2) := by
  obtain ⟨table, change⟩ := statement
  rw [checkFkViolation]
  by_cases hreferences : (links table).parentReferences.keys = []
  · rw [if_pos (by rw [hreferences]; rfl)]
    exact iff_of_true rfl fun _ hne => absurd hreferences hne
  rw [if_neg fun h => hreferences (List.length_eq_zero_iff.mp h)]
  have hstate : ∀ {P : Prop}, (∃ state, tables.get? table = some state ∧ P) ↔
      tables.get? table ≠ none ∧ P := by
    intro P
    rw [Option.ne_none_iff_exists', ← exists_and_right]
  cases change with
  | delete predicates => exact iff_of_true rfl fun hkind => absurd rfl hkind
  | update assignments predicates =>
    simp only [bind_eq_ok, requireTable_eq_ok, readReferences_eq_ok, hstate]
    constructor
    · intro h _ _
      refine ⟨h.1, fun columns hinsert => ?_, h.2⟩
      cases hinsert
    · intro h
      obtain ⟨htable, -, hlength⟩ := h (fun hkind => by cases hkind) hreferences
      exact ⟨htable, hlength⟩
  | insert columns =>
    simp only [bind_eq_ok, requireTable_eq_ok, readReferences_eq_ok, liftFailure_eq_ok]
    constructor
    · rintro ⟨state, hget, row, hrow, hlength⟩ - -
      have htable : tables.get? table ≠ none := Option.ne_none_iff_exists'.mpr ⟨state, hget⟩
      refine ⟨htable, ?_, hlength⟩
      rintro _ ⟨⟩
      rw [hkeys state hget] at hrow
      exact getFullRowOfInsert_ok_iff.mp ⟨row, hrow⟩
    · intro h
      obtain ⟨htable, hinsert, hlength⟩ := h (fun hkind => by cases hkind) hreferences
      obtain ⟨state, hget⟩ := Option.ne_none_iff_exists'.mp htable
      obtain ⟨row, hrow⟩ := getFullRowOfInsert_ok_iff.mpr (hinsert columns rfl)
      exact ⟨state, hget, row, by rw [hkeys state hget]; exact hrow, hlength⟩

lemma foreignKeyCheck_ok_iff {databases : Databases V} {links : ForeignLinks}
    {tables : Dict String (TableConflictState V)} {baseToOurs : List (Statement V)}
    {buckets : DiffBuckets} (hextra : ∀ i ∈ buckets.extraOursIndices, ∃ s, baseToOurs[i]? = some s) :
    (∃ done, foreignKeyCheck databases links tables baseToOurs buckets = .ok done) ↔
      buckets.conflictPairs.keys ≠ [] ∧
        ∀ i ∈ buckets.extraOursIndices, ∀ s, baseToOurs[i]? = some s →
          checkFkViolation databases links tables s = .ok () := by
  rw [foreignKeyCheck]
  by_cases hpairs : buckets.conflictPairs.keys = []
  · rw [if_pos (by rw [hpairs]; rfl)]
    exact iff_of_false nofun fun h => h.1 hpairs
  · rw [if_neg fun h => hpairs (List.length_eq_zero_iff.mp h), exists_mapM_iff, ne_eq,
      and_iff_right hpairs]
    refine forall₂_congr fun i hi => ?_
    obtain ⟨s, hs⟩ := hextra i hi
    have hstatement : liftFailure (statementAt baseToOurs i) = .ok s := by
      rw [statementAt, hs]
      rfl
    rw [hstatement, ok_bind]
    constructor
    · rintro ⟨⟨⟩, hdone⟩ s' hs'
      rw [hs] at hs'
      cases hs'
      exact hdone
    · exact fun h => ⟨(), h s hs⟩

variable {databases : Databases V} {invalid : Dict String InvalidTableState}
  {baseToOurs baseToTheirs : List (Statement V)} {work : Work V}

lemma tables_of_compare (hd : Diffs databases invalid baseToOurs baseToTheirs)
    (hrun : compareStatements databases baseToOurs baseToTheirs invalid = .ok work)
    (table : String) :
    (∀ state, work.tables.get? table = some state →
      state.primaryKeyColumnsToIndex = databases.primaryKeys table) ∧
    (invalid.get? table = none → (work.tables.get? table ≠ none ↔
      ∃ t ∈ ofSide (hashesOurs baseToOurs baseToTheirs) baseToOurs baseToTheirs,
        t.table = table)) := by
  obtain ⟨hashed, hhashed⟩ : ∃ hashed, hashed = hashesOurs baseToOurs baseToTheirs := ⟨_, rfl⟩
  have hlists : ofSide hashed baseToTheirs baseToOurs = ofSide (!hashed) baseToOurs baseToTheirs := by
    cases hashed <;> rfl
  rw [compareStatements] at hrun
  simp only [← hhashed, bind_eq_ok] at hrun ⊢
  obtain ⟨built, hbuildRun, hlookupRun⟩ := hrun
  obtain ⟨effects, heffects, hbuilt⟩ := (start_built databases invalid hashed).run hbuildRun
  rw [List.nil_append, List.nil_append] at hbuilt
  have honce : OncePerKey databases
      (([] ++ (ofSide hashed baseToTheirs baseToOurs).zipIdx).map Prod.fst) := by
    rw [List.nil_append, List.zipIdx_map_fst, hlists]
    exact (hd.diff (!hashed)).once
  have hfit : PartnersOk databases effects (ofSide hashed baseToTheirs baseToOurs).zipIdx := by
    refine partnersFit (hd.diff hashed).once (knownKeys_of_rowDiff hd.base (hd.diff hashed)) ?_
      effects heffects
    rw [hlists]
    exact knownKeys_of_rowDiff hd.base (hd.diff (!hashed))
  obtain ⟨hend, -⟩ := (start_lookedUp hashed built).run hbuilt.tables honce hfit
    fun look hlook => by cases hlook
  obtain ⟨looked, -, hlooked⟩ := hend work hlookupRun
  have htables := hlooked.tables table
  rw [hbuilt.tables] at htables
  refine ⟨fun state hstate => ?_, fun hvalid => ?_⟩
  · rw [htables] at hstate
    by_cases hnone : onTable effects table = []
    · rw [if_pos hnone] at hstate
      cases hstate
    · rw [if_neg hnone] at hstate
      cases hstate
      rfl
  · have htouched : onTable effects (Statement.mk (V := V) table (.insert [])).table ≠ [] ↔
        ∃ t ∈ ofSide hashed baseToOurs baseToTheirs, t.table = table := touched_iff heffects hvalid
    rw [htables, ← htouched]
    by_cases hnone : onTable effects table = []
    · rw [if_pos hnone]
      exact iff_of_false (fun h => h rfl) fun h => h hnone
    · rw [if_neg hnone]
      exact iff_of_true (Option.some_ne_none _) hnone

variable {tools : Tools V} {inputs : Inputs V}

def Inputs.prepared (inputs : Inputs V) (tools : Tools V) (databases : Databases V)
    (statements : List (Statement V)) : Prepared V :=
  ⟨inputs.oursTexts, inputs.theirsTexts, inputs.invalidTables,
    databases.withLinks (inputs.links tools), inputs.comparison, statements⟩

lemma prepare_eq (hc : Compares tools databases inputs) :
    prepare tools databases = (do
      let _ ← foreignKeyCheck (databases.withLinks (inputs.links tools)) (inputs.links tools)
        inputs.work.tables inputs.ours inputs.comparison.buckets
      let statements ← liftFailure
        (stmtsToApply inputs.ours inputs.theirs inputs.comparison.buckets)
      return inputs.prepared tools databases statements) := by
  have hours : (inputs.ours.map Parsed.dml).mapM requireStatement = .ok inputs.ours :=
    mapM_requireStatement.mpr rfl
  have htheirs : (inputs.theirs.map Parsed.dml).mapM requireStatement = .ok inputs.theirs :=
    mapM_requireStatement.mpr rfl
  have hcompared := liftFailure_eq_ok.mpr hc.compared
  rw [prepare, hc.oursTexts, ok_bind, hc.theirsTexts, ok_bind, hc.ours, ok_bind, hc.theirs, ok_bind,
    hc.valid, ok_bind, hours, ok_bind, htheirs, ok_bind]
  rw [Inputs.links] at hcompared
  simp only [hcompared, ok_bind]
  rfl

lemma exists_compares {prepared : Prepared V} (h : prepare tools databases = .ok prepared) :
    ∃ inputs, Compares tools databases inputs ∧
      prepared.comparison.buckets.conflictPairs.keys ≠ [] ∧ prepared.comparison = inputs.comparison := by
  rw [prepare] at h
  simp only [bind_eq_ok, pure_eq_ok, liftFailure_eq_ok, mapM_requireStatement] at h
  obtain ⟨oursTexts, hoursTexts, theirsTexts, htheirsTexts, _, hours, _, htheirs, checked, hvalid,
    ours, rfl, theirs, rfl, work, hcompared, done, hforeign, statements, -, rfl⟩ := h
  refine ⟨⟨oursTexts, theirsTexts, ours, theirs, checked.1, checked.2, work⟩,
    ⟨hoursTexts, htheirsTexts, hours, htheirs, hvalid, hcompared⟩, fun hpairs => ?_, rfl⟩
  rw [foreignKeyCheck, if_pos (List.length_eq_zero_iff.mpr hpairs)] at hforeign
  cases hforeign

lemma isCopied_integrityReason {pragmas : Pragmas} {table : String} {branch : Branch}
    {reason : InvalidReason} (h : integrityReason pragmas table branch = some reason) :
    reason.isCopied = true := by
  rw [integrityReason] at h
  cases hanswer : pragmas.integrityCheck branch table with
  | none =>
    rw [hanswer] at h
    cases h
  | some answer =>
    rw [hanswer] at h
    by_cases hok : answer = "ok"
    · simp [hok] at h
    · simp only [hok, if_false, Option.some.injEq] at h
      rw [← h]
      rfl

lemma foreignKeyReason_eq_some_iff {pragmas : Pragmas} {table : String} {branch : Branch} :
    (∃ reason, foreignKeyReason pragmas table branch = some reason) ↔
      ∃ row ∈ pragmas.foreignKeyCheck branch, row.table = table := by
  rw [← Option.ne_none_iff_exists', ne_eq, foreignKeyReason_eq_none_iff]
  simp

omit [DecidableEq V] in
/-- A reason cannot be copied exactly if a row of a touched table breaks a foreign key. -/
lemma not_all_copied_iff {pragmas : Pragmas} {statements : List (Parsed V)}
    {tablesSet : List String} {invalidTables : InvalidTables}
    (h : Checked pragmas statements tablesSet invalidTables) :
    ¬ invalidTables.values.flatten.all InvalidReason.isCopied = true ↔
      ∃ branch, ∃ row ∈ pragmas.foreignKeyCheck branch, Touches statements row.table := by
  simp only [List.all_eq_true, not_forall, List.mem_flatten, exists_prop, Dict.mem_values_iff]
  constructor
  · rintro ⟨reason, ⟨reasons, ⟨table, hget⟩, hreason⟩, hcopied⟩
    rw [h.records table] at hget
    by_cases htouched : table ∈ tablesSet
    · simp only [htouched, if_true] at hget
      rw [entryOf_eq_some hget] at hreason
      rcases List.mem_append.mp hreason with hreason | hreason
      · obtain ⟨branch, -, hfound⟩ := List.mem_filterMap.mp hreason
        exact absurd (isCopied_integrityReason hfound) hcopied
      · obtain ⟨branch, -, hfound⟩ := List.mem_filterMap.mp hreason
        obtain ⟨row, hrow, rfl⟩ := foreignKeyReason_eq_some_iff.mp ⟨reason, hfound⟩
        exact ⟨branch, row, hrow, (h.mem _).mp htouched⟩
    · simp only [htouched, if_false] at hget
      cases hget
  · rintro ⟨branch, row, hrow, htouched⟩
    obtain ⟨reason, hreason⟩ := foreignKeyReason_eq_some_iff.mpr ⟨row, hrow, rfl⟩
    have hmem : reason ∈ Branch.all.filterMap (integrityReason pragmas row.table) ++
        Branch.all.filterMap (foreignKeyReason pragmas row.table) :=
      List.mem_append_right _ (List.mem_filterMap.mpr ⟨branch, branch.mem_all, hreason⟩)
    have hentry := h.records row.table
    simp only [(h.mem row.table).mpr htouched, if_true] at hentry
    refine ⟨reason, ⟨_, ⟨row.table, hentry.trans (entryOf_of_mem hmem)⟩, hmem⟩, ?_⟩
    rw [foreignKeyReason] at hreason
    split at hreason
    · cases hreason
    · cases hreason
      exact Bool.false_ne_true

lemma RowDiff.withLinks {snapshot : Snapshot V} {statements : List (Statement V)}
    (h : RowDiff databases snapshot statements) (links : ForeignLinks) :
    RowDiff (databases.withLinks links) snapshot statements where
  once := h.once
  fits statement hstatement := ⟨(h.fits statement hstatement).key, (h.fits statement hstatement).change⟩
  reaches := h.reaches

lemma Diffs.withLinks (hd : Diffs databases invalid baseToOurs baseToTheirs) (links : ForeignLinks) :
    Diffs (databases.withLinks links) invalid baseToOurs baseToTheirs where
  base :=
    { equal_refl := hd.base.equal_refl
      equal_symm := hd.base.equal_symm
      plainIndexes := hd.base.plainIndexes
      constrained := hd.base.constrained
      keyed := hd.base.keyed }
  ours := hd.ours.withLinks links
  theirs := hd.theirs.withLinks links
  fresh := hd.fresh

section outcome

variable (hc : Compares tools databases inputs)
  (hd : Diffs databases (startStates inputs.invalidTables) inputs.ours inputs.theirs)
include hc

lemma Compares.check_eq :
    checkConflictAndReturnDiffs (databases.withLinks (inputs.links tools)) inputs.ours inputs.theirs
      (startStates inputs.invalidTables) = .ok inputs.comparison := by
  rw [check_eq_compareStatements, hc.compared]
  rfl

include hd

/-- Under which condition the pass over the foreign keys ends. -/
lemma passes_iff :
    (∃ done, foreignKeyCheck (databases.withLinks (inputs.links tools)) (inputs.links tools)
      inputs.work.tables inputs.ours inputs.comparison.buckets = .ok done) ↔
      Passes databases tools inputs := by
  have hlinked := hd.withLinks (inputs.links tools)
  have hsel := selected_of_ok hlinked hc.check_eq
  have hours : ∀ i ∈ inputs.comparison.buckets.extraOursIndices, ∃ s, inputs.ours[i]? = some s ∧
      (startStates inputs.invalidTables).get? s.table = none := by
    intro i hi
    obtain ⟨s, hs, hfree⟩ := (hsel.ours i).mp (List.mem_append_right _ hi)
    exact ⟨s, hs, by_contra fun hinvalid => hfree (.inl hinvalid)⟩
  rw [foreignKeyCheck_ok_iff fun i hi => (hours i hi).imp fun s hs => hs.1]
  have hstep : ∀ i ∈ inputs.comparison.buckets.extraOursIndices, ∀ s, inputs.ours[i]? = some s →
      (checkFkViolation (databases.withLinks (inputs.links tools)) (inputs.links tools)
        inputs.work.tables s = .ok () ↔
      (s.change.kind ≠ .delete → ((inputs.links tools) s.table).parentReferences.keys ≠ [] →
        (∃ t ∈ ofSide (hashesOurs inputs.ours inputs.theirs) inputs.ours inputs.theirs,
          t.table = s.table) ∧
        (∀ columns, s.change = .insert columns →
          LooksUp databases s.table columns) ∧
        ∀ columns ∈ ((inputs.links tools) s.table).parentReferences.keys,
          columns.length = 2)) := by
    intro i hi s hs
    obtain ⟨s', hs', hvalid⟩ := hours i hi
    rw [hs] at hs'
    cases hs'
    obtain ⟨hkeys, htables⟩ := tables_of_compare hlinked hc.compared s.table
    rw [checkFkViolation_ok_iff hkeys, htables hvalid]
    rfl
  constructor
  · rintro ⟨hpairs, hextra⟩
    exact ⟨hpairs, fun i hi s hs => (hstep i hi s hs).mp (hextra i hi s hs)⟩
  · rintro ⟨hpairs, hextra⟩
    exact ⟨hpairs, fun i hi s hs => (hstep i hi s hs).mpr (hextra i hi s hs)⟩

lemma main_of_not_passes (hpasses : ¬ Passes databases tools inputs) :
    main tools databases = ⟨1, databases.ours, none⟩ := by
  have hfails : ∃ failure, prepare tools databases = .error failure := by
    rw [prepare_eq hc]
    cases hforeign : foreignKeyCheck (databases.withLinks (inputs.links tools))
        (inputs.links tools) inputs.work.tables inputs.ours inputs.comparison.buckets with
    | error failure => exact ⟨failure, rfl⟩
    | ok done => exact absurd ((passes_iff hc hd).mp ⟨done, hforeign⟩) hpasses
  obtain ⟨failure, hfailure⟩ := hfails
  rw [main, hfailure]

omit hd in
lemma main_of_prepare {statements : List (Statement V)}
    (hpairs : inputs.comparison.buckets.conflictPairs.keys ≠ [])
    (hprepared : prepare tools databases = .ok (inputs.prepared tools databases statements)) :
    (main tools databases).ours = (runShell tools.execute statements databases.base).1 ∧
      ((main tools databases).conflictFile ≠ none ↔
        (runShell tools.execute statements databases.base).2 = true ∧
          ¬ ∃ branch, ∃ row ∈ tools.pragmas.foreignKeyCheck branch,
            Touches (inputs.ours.map .dml ++ inputs.theirs.map .dml) row.table) := by
  have hpositive : 0 < inputs.comparison.buckets.conflictPairs.keys.length :=
    List.length_pos_iff.mpr hpairs
  have hcopied := not_all_copied_iff (checked_of_ok hc.valid)
  have hfile : conflictFile (inputs.prepared tools databases statements) ≠ none ↔
      inputs.invalidTables.values.flatten.all InvalidReason.isCopied = true := by
    rw [conflictFile, ite_ne_right_iff]
    exact and_iff_left nofun
  have hmain : main tools databases =
      if (runShell tools.execute statements databases.base).2 = true then
        ⟨1, (runShell tools.execute statements databases.base).1,
          conflictFile (inputs.prepared tools databases statements)⟩
      else ⟨1, (runShell tools.execute statements databases.base).1, none⟩ := by
    rw [main, hprepared]
    simp only [Inputs.prepared, hpositive, true_or, if_true]
    cases (runShell tools.execute statements databases.base).2 <;> rfl
  rw [← hcopied, not_not, ← hfile, hmain]
  split
  · next hshell => exact ⟨rfl, (and_iff_right hshell).symm⟩
  · next hshell => exact ⟨rfl, iff_of_false (fun h => h rfl) fun h => hshell h.1⟩

end outcome

end driver

/-- Ours gives an account the email of an account that theirs adds. -/
def clash : Databases (Option ℕ) := { accounts with theirs := onUsers [account 1 7, account 2 8] }

def oursText : List Char := "UPDATE users SET email=8 WHERE id=1;".toList

def theirsText : List Char := "INSERT INTO users(id,email) VALUES(2,8);".toList

def clashTools : Tools (Option ℕ) where
  sqldiff isOurs := some (ofSide isOurs oursText theirsText ++ ['\n'])
  parseOne text :=
    if text = oursText then some (.dml changeEmail)
    else if text = theirsText then some (.dml (insertUser 2 8))
    else none
  pragmas := ⟨fun _ _ => some "ok", fun _ => [], fun _ => []⟩
  execute := accountsExecute

lemma diffs_clash : Diffs clash (startStates .empty) [changeEmail] [insertUser 2 8] where
  base :=
    { equal_refl := baseOk_accounts.equal_refl
      equal_symm := baseOk_accounts.equal_symm
      plainIndexes := baseOk_accounts.plainIndexes
      constrained := baseOk_accounts.constrained
      keyed := baseOk_accounts.keyed }
  ours :=
    { once := rowDiff_ours.once
      fits := fun s hs => ⟨(rowDiff_ours.fits s hs).key, (rowDiff_ours.fits s hs).change⟩
      reaches := rowDiff_ours.reaches }
  theirs :=
    { once := (rowDiff_insert 8).once
      fits := fun s hs => ⟨((rowDiff_insert 8).fits s hs).key, ((rowDiff_insert 8).fits s hs).change⟩
      reaches := (rowDiff_insert 8).reaches }
  fresh table state h := by cases h

end SqliteReconcile.RowMerge
