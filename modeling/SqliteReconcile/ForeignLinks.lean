import SqliteReconcile.Outcomes
import SqliteReconcile.RowMerge

/-!
# Valid tables and their foreign keys

Before it compares the statements, the driver asks the three databases which of the tables they
touch are sound, and reads the foreign keys between the tables that are. The rows of a foreign key
follow each other, and the loop over them ends a key where the next one starts.
-/
namespace SqliteReconcile.RowMerge
open Dicts Outcomes

inductive Branch
  | base
  | ours
  | theirs
  deriving DecidableEq

def Branch.all : List Branch := [.base, .ours, .theirs]

/-- A row of `PRAGMA foreign_key_check`. -/
structure ForeignKeyViolation where
  table : String
  rowid : Option ℤ
  parent : String
  fkid : ℕ
  deriving DecidableEq

/-- A row of `pragma_foreign_key_list`: one column of a foreign key. -/
structure ForeignKeyRow where
  id : ℕ
  table : String
  fromColumn : String
  toColumn : Option String

/-- The first row of `PRAGMA integrity_check`, unless the table does not exist, and the rows of the
other two. -/
structure Pragmas where
  integrityCheck : Branch → String → Option String
  foreignKeyCheck : Branch → List ForeignKeyViolation
  foreignKeyList : String → List ForeignKeyRow

inductive FailureDetails
  | integrity (answer : String)
  | foreignKeys (rows : List ForeignKeyViolation)

structure InvalidReason where
  failedBranch : Branch
  details : FailureDetails

inductive DriverFailure
  | systemExit
  | parseError
  | typeError
  | operationalError
  | keyError
  | valueError
  | comparison (failure : Failure)
  deriving DecidableEq

/-- What sqlglot reads: a statement of sqldiff, or one that is not DML. -/
inductive Parsed (V : Type)
  | dml (statement : Statement V)
  | other

variable {V : Type}

def getTargetTable : Parsed V → Except DriverFailure String
  | .dml statement => .ok statement.table
  | .other => .error .typeError

abbrev InvalidTables := Dict String (List InvalidReason)

def addReason (invalidTables : InvalidTables) (table : String) (reason : InvalidReason) :
    InvalidTables :=
  invalidTables.set table ((invalidTables.get? table).getD [] ++ [reason])

/-- `pragma_integrity_check_table_failed_and_recorded` for one branch. -/
def recordIntegrity (pragmas : Pragmas) (table : String) (invalidTables : InvalidTables)
    (branch : Branch) : Except DriverFailure InvalidTables :=
  match pragmas.integrityCheck branch table with
  | none => .error .operationalError
  | some answer =>
    .ok (if answer = "ok" then invalidTables
      else addReason invalidTables table ⟨branch, .integrity answer⟩)

def addTable (pragmas : Pragmas) (found : List String × InvalidTables) (parsed : Parsed V) :
    Except DriverFailure (List String × InvalidTables) := do
  let table ← getTargetTable parsed
  if table ∈ found.1 then return found
  else
    let invalidTables ← Branch.all.foldlM (recordIntegrity pragmas table) found.2
    return (found.1 ++ [table], invalidTables)

def violationsOf (pragmas : Pragmas) (table : String) (branch : Branch) :
    List ForeignKeyViolation :=
  (pragmas.foreignKeyCheck branch).filter fun row => row.table = table

/-- The rows of a table that break a foreign key, branch by branch. -/
def recordForeignKeys (pragmas : Pragmas) (invalidTables : InvalidTables) (table : String) :
    InvalidTables :=
  Branch.all.foldl (fun invalidTables branch =>
    if violationsOf pragmas table branch = [] then invalidTables
    else addReason invalidTables table
      ⟨branch, .foreignKeys (violationsOf pragmas table branch)⟩) invalidTables

def checkValidTables (pragmas : Pragmas) (baseToOursParsed baseToTheirsParsed : List (Parsed V)) :
    Except DriverFailure (List String × InvalidTables) := do
  let (tablesSet, invalidTables) ←
    (baseToOursParsed ++ baseToTheirsParsed).foldlM (addTable pragmas) ([], .empty)
  return (tablesSet, tablesSet.foldl (recordForeignKeys pragmas) invalidTables)

structure ForeignLinkMetadata where
  linkedTable : String
  linkedTableColumns : List (Option String)

structure TableForeignLink where
  parentReferences : Dict (List String) ForeignLinkMetadata
  childReferences : List (List (Option String))

/-- `table_name_to_table_foreign_link`. A table that is not there has no references. -/
abbrev ForeignLinks := String → TableForeignLink

/-- `curr_id`, `curr_parent_table` and the columns read so far. -/
structure CurrentKey where
  id : ℕ
  parentTable : String
  childColumns : List String
  parentColumns : List (Option String)

def checkAndAddTableForeignLinkEntry (links : ForeignLinks) (childTable : String)
    (current : CurrentKey) : ForeignLinks :=
  if current.childColumns.length = 0 ∨ current.parentColumns.length = 0 then links
  else
    let links := Function.update links childTable
      { links childTable with
        parentReferences := (links childTable).parentReferences.set current.childColumns
          ⟨current.parentTable, current.parentColumns⟩ }
    Function.update links current.parentTable
      { links current.parentTable with
        childReferences := (links current.parentTable).childReferences ++ [current.parentColumns] }

/-- Whether the driver compares the statements about a table. -/
def isCompared (tablesSet : List String) (invalidTables : InvalidTables) (table : String) : Bool :=
  table ∈ tablesSet && (invalidTables.get? table).isNone

/-- One row of the list of foreign keys. A row with another id starts the next key. -/
def readForeignKeyRow (tablesSet : List String) (invalidTables : InvalidTables) (table : String)
    (state : ForeignLinks × CurrentKey) (row : ForeignKeyRow) : ForeignLinks × CurrentKey :=
  let state :=
    if row.id ≠ state.2.id then
      (checkAndAddTableForeignLinkEntry state.1 table state.2, ⟨row.id, row.table, [], []⟩)
    else state
  if isCompared tablesSet invalidTables state.2.parentTable then
    (state.1, { state.2 with
      childColumns := state.2.childColumns ++ [row.fromColumn]
      parentColumns := state.2.parentColumns ++ [row.toColumn] })
  else state

def addForeignLinksOf (pragmas : Pragmas) (tablesSet : List String) (invalidTables : InvalidTables)
    (links : ForeignLinks) (table : String) : ForeignLinks :=
  if (invalidTables.get? table).isSome then links
  else
    match pragmas.foreignKeyList table with
    | [] => links
    | row :: rows =>
      let (links, current) := (row :: rows).foldl (readForeignKeyRow tablesSet invalidTables table)
        (links, ⟨row.id, row.table, [], []⟩)
      checkAndAddTableForeignLinkEntry links table current

def createTableToForeignLinkInformation (pragmas : Pragmas) (tablesSet : List String)
    (invalidTables : InvalidTables) : ForeignLinks :=
  tablesSet.foldl (addForeignLinksOf pragmas tablesSet invalidTables) fun _ => ⟨.empty, []⟩

def integrityReason (pragmas : Pragmas) (table : String) (branch : Branch) :
    Option InvalidReason :=
  match pragmas.integrityCheck branch table with
  | none => none
  | some answer => if answer = "ok" then none else some ⟨branch, .integrity answer⟩

def foreignKeyReason (pragmas : Pragmas) (table : String) (branch : Branch) :
    Option InvalidReason :=
  if violationsOf pragmas table branch = [] then none
  else some ⟨branch, .foreignKeys (violationsOf pragmas table branch)⟩

/-- A table is there if it has a reason. -/
def entryOf : List InvalidReason → Option (List InvalidReason)
  | [] => none
  | reason :: reasons => some (reason :: reasons)

/-- The reasons that are recorded of each table. -/
def Records (invalidTables : InvalidTables) (reasons : String → List InvalidReason) : Prop :=
  ∀ table, invalidTables.get? table = entryOf (reasons table)

lemma getD_entryOf (reasons : List InvalidReason) : (entryOf reasons).getD [] = reasons := by
  cases reasons <;> rfl

lemma entryOf_append_singleton (reasons : List InvalidReason) (reason : InvalidReason) :
    entryOf (reasons ++ [reason]) = some (reasons ++ [reason]) := by
  cases reasons <;> rfl

variable {pragmas : Pragmas} {invalidTables : InvalidTables} {reasons : String → List InvalidReason}
  {table : String}

lemma Records.addReason (h : Records invalidTables reasons) (reason : InvalidReason) :
    Records (addReason invalidTables table reason)
      (Function.update reasons table (reasons table ++ [reason])) := by
  intro other
  rw [RowMerge.addReason, Dict.get?_set, h table, getD_entryOf, Function.update_apply]
  by_cases hsame : other = table
  · rw [if_pos hsame, if_pos hsame, entryOf_append_singleton]
  · rw [if_neg hsame, if_neg hsame, h other]

lemma Records.addReasons (h : Records invalidTables reasons) (reason : Branch → Option InvalidReason)
    (branches : List Branch) :
    Records (branches.foldl (fun invalidTables branch =>
        (reason branch).elim invalidTables (RowMerge.addReason invalidTables table)) invalidTables)
      (Function.update reasons table (reasons table ++ branches.filterMap reason)) := by
  induction branches generalizing invalidTables reasons with
  | nil => simpa using h
  | cons branch branches ih =>
    rw [List.foldl_cons]
    cases hreason : reason branch with
    | none =>
      rw [List.filterMap_cons_none hreason]
      exact ih h
    | some found =>
      have hnext := ih (@Records.addReason _ _ table h found)
      rw [Function.update_self, Function.update_idem, List.append_assoc] at hnext
      rw [List.filterMap_cons_some hreason]
      exact hnext

lemma recordIntegrity_eq (branch : Branch) :
    recordIntegrity pragmas table invalidTables branch =
      if pragmas.integrityCheck branch table = none then .error .operationalError
      else .ok ((integrityReason pragmas table branch).elim invalidTables
        (addReason invalidTables table)) := by
  rw [recordIntegrity, integrityReason]
  cases pragmas.integrityCheck branch table with
  | none => rfl
  | some answer => by_cases hok : answer = "ok" <;> simp [hok]

lemma Records.integrity (h : Records invalidTables reasons) {branches : List Branch}
    {invalidTables' : InvalidTables}
    (hrun : branches.foldlM (recordIntegrity pragmas table) invalidTables = .ok invalidTables') :
    (∀ branch ∈ branches, pragmas.integrityCheck branch table ≠ none) ∧
      Records invalidTables' (Function.update reasons table
        (reasons table ++ branches.filterMap (integrityReason pragmas table))) := by
  have hloop : (∀ branch ∈ branches, pragmas.integrityCheck branch table ≠ none) ∧
      invalidTables' = branches.foldl (fun invalidTables branch =>
        (integrityReason pragmas table branch).elim invalidTables
          (RowMerge.addReason invalidTables table)) invalidTables := by
    clear h
    induction branches generalizing invalidTables with
    | nil =>
      cases hrun
      exact ⟨nofun, rfl⟩
    | cons branch branches ih =>
      rw [List.foldlM_cons, recordIntegrity_eq] at hrun
      by_cases hnone : pragmas.integrityCheck branch table = none
      · rw [if_pos hnone] at hrun
        cases hrun
      · rw [if_neg hnone, ok_bind] at hrun
        obtain ⟨hrest, heq⟩ := ih hrun
        refine ⟨fun other hother => ?_, heq⟩
        rcases List.mem_cons.mp hother with rfl | hother
        · exact hnone
        · exact hrest other hother
  rw [hloop.2]
  exact ⟨hloop.1, h.addReasons _ branches⟩

lemma Records.foreignKeys (h : Records invalidTables reasons) (table : String) :
    Records (recordForeignKeys pragmas invalidTables table) (Function.update reasons table
      (reasons table ++ Branch.all.filterMap (foreignKeyReason pragmas table))) := by
  have hloop : recordForeignKeys pragmas invalidTables table = Branch.all.foldl
      (fun invalidTables branch => (foreignKeyReason pragmas table branch).elim invalidTables
        (RowMerge.addReason invalidTables table)) invalidTables := by
    rw [recordForeignKeys]
    congr 1
    funext invalidTables branch
    rw [foreignKeyReason]
    split <;> rfl
  rw [hloop]
  exact h.addReasons _ _

def Touches (statements : List (Parsed V)) (table : String) : Prop :=
  ∃ parsed ∈ statements, getTargetTable parsed = .ok table

structure Found (pragmas : Pragmas) (statements : List (Parsed V))
    (found : List String × InvalidTables) : Prop where
  nodup : found.1.Nodup
  mem : ∀ table, table ∈ found.1 ↔ Touches statements table
  answered : ∀ table ∈ found.1, ∀ branch, pragmas.integrityCheck branch table ≠ none
  records : Records found.2 fun table =>
    if table ∈ found.1 then Branch.all.filterMap (integrityReason pragmas table) else []

lemma start_found : Found (V := V) pragmas [] ([], .empty) where
  nodup := List.nodup_nil
  mem _ := iff_of_false nofun fun ⟨_, h, _⟩ => nomatch h
  answered := nofun
  records _ := rfl

lemma Branch.mem_all (branch : Branch) : branch ∈ Branch.all := by cases branch <;> decide

lemma touches_append {statements : List (Parsed V)} {parsed : Parsed V} {table : String}
    (htable : getTargetTable parsed = .ok table) (other : String) :
    Touches (statements ++ [parsed]) other ↔ Touches statements other ∨ other = table := by
  constructor
  · rintro ⟨found, hfound, hother⟩
    rcases List.mem_append.mp hfound with hfound | hlast
    · exact .inl ⟨found, hfound, hother⟩
    · rw [List.mem_singleton.mp hlast, htable] at hother
      exact .inr (Except.ok.inj hother).symm
  · rintro (⟨found, hfound, hother⟩ | rfl)
    · exact ⟨found, List.mem_append_left _ hfound, hother⟩
    · exact ⟨parsed, List.mem_append_right _ List.mem_cons_self, htable⟩

lemma Found.step {statements : List (Parsed V)} {parsed : Parsed V}
    {found found' : List String × InvalidTables} (h : Found pragmas statements found)
    (hstep : addTable pragmas found parsed = .ok found') :
    Found pragmas (statements ++ [parsed]) found' := by
  rw [addTable, bind_eq_ok] at hstep
  obtain ⟨table, htable, hstep⟩ := hstep
  rcases ite_eq_ok.mp hstep with ⟨hmem, hstep⟩ | ⟨hnew, hstep⟩
  · cases pure_eq_ok.mp hstep
    refine ⟨h.nodup, fun other => ?_, h.answered, h.records⟩
    rw [touches_append htable, h.mem other]
    refine ⟨.inl, fun hother => hother.elim id fun hsame => ?_⟩
    rw [hsame, ← h.mem table]
    exact hmem
  · obtain ⟨invalidTables, hrun, hstep⟩ := bind_eq_ok.mp hstep
    cases pure_eq_ok.mp hstep
    obtain ⟨hanswered, hrecords⟩ := h.records.integrity hrun
    refine ⟨?_, fun other => ?_, fun other hother branch => ?_, ?_⟩
    · exact List.nodup_append.mpr ⟨h.nodup, List.nodup_singleton table, by
        rintro other hother _ hlast rfl
        exact hnew (List.mem_singleton.mp hlast ▸ hother)⟩
    · rw [touches_append htable, List.mem_append, List.mem_singleton, h.mem other]
    · rcases List.mem_append.mp hother with hother | hlast
      · exact h.answered other hother branch
      · rw [List.mem_singleton.mp hlast]
        exact hanswered branch branch.mem_all
    · intro other
      rw [hrecords other, Function.update_apply]
      by_cases hsame : other = table
      · subst hsame
        simp [hnew]
      · simp [hsame]

lemma Found.run {processed statements : List (Parsed V)} {found found' : List String × InvalidTables}
    (h : Found pragmas processed found)
    (hrun : statements.foldlM (addTable pragmas) found = .ok found') :
    Found pragmas (processed ++ statements) found' := by
  induction statements generalizing processed found with
  | nil =>
    cases pure_eq_ok.mp hrun
    rwa [List.append_nil]
  | cons parsed statements ih =>
    rw [List.foldlM_cons, bind_eq_ok] at hrun
    obtain ⟨next, hstep, hrun⟩ := hrun
    have hnext := ih (h.step hstep) hrun
    rwa [List.append_assoc] at hnext

lemma Records.all {tables : List String} (hnodup : tables.Nodup)
    (h : Records invalidTables reasons) :
    Records (tables.foldl (recordForeignKeys pragmas) invalidTables) fun table =>
      if table ∈ tables then
        reasons table ++ Branch.all.filterMap (foreignKeyReason pragmas table)
      else reasons table := by
  induction tables generalizing invalidTables reasons with
  | nil => simpa using h
  | cons first tables ih =>
    obtain ⟨hfirst, hnodup⟩ := List.nodup_cons.mp hnodup
    intro table
    rw [List.foldl_cons, ih hnodup (h.foreignKeys first) table]
    simp only [Function.update_apply]
    by_cases hsame : table = first
    · subst hsame
      simp [hfirst]
    · simp [hsame]

lemma entryOf_eq_some {reasons entry : List InvalidReason} (h : entryOf reasons = some entry) :
    entry = reasons := by
  cases reasons with
  | nil => cases h
  | cons reason reasons => exact (Option.some.inj h).symm

lemma entryOf_of_mem {reasons : List InvalidReason} {reason : InvalidReason}
    (h : reason ∈ reasons) : entryOf reasons = some reasons := by
  cases reasons with
  | nil => cases h
  | cons first reasons => rfl

def Sound (pragmas : Pragmas) (table : String) : Prop :=
  ∀ branch, pragmas.integrityCheck branch table = some "ok" ∧
    ∀ row ∈ pragmas.foreignKeyCheck branch, row.table ≠ table

/-- A statement is about the table, and its rows are sound. -/
def IsCompared (pragmas : Pragmas) (statements : List (Parsed V)) (table : String) : Prop :=
  Touches statements table ∧ Sound pragmas table

lemma integrityReason_eq_none_iff {branch : Branch}
    (h : pragmas.integrityCheck branch table ≠ none) :
    integrityReason pragmas table branch = none ↔ pragmas.integrityCheck branch table = some "ok" := by
  rw [integrityReason]
  cases hanswer : pragmas.integrityCheck branch table with
  | none => exact absurd hanswer h
  | some answer => by_cases hok : answer = "ok" <;> simp [hok]

lemma foreignKeyReason_eq_none_iff {branch : Branch} :
    foreignKeyReason pragmas table branch = none ↔
      ∀ row ∈ pragmas.foreignKeyCheck branch, row.table ≠ table := by
  have hrows : violationsOf pragmas table branch = [] ↔
      ∀ row ∈ pragmas.foreignKeyCheck branch, row.table ≠ table := by
    simp [violationsOf, List.filter_eq_nil_iff]
  rw [← hrows, foreignKeyReason]
  by_cases hnone : violationsOf pragmas table branch = [] <;> simp [hnone]

lemma entryOf_eq_none_iff {reasons : List InvalidReason} : entryOf reasons = none ↔ reasons = [] := by
  cases reasons <;> simp [entryOf]

/-- What the two loops have found. -/
structure Checked (pragmas : Pragmas) (statements : List (Parsed V)) (tablesSet : List String)
    (invalidTables : InvalidTables) : Prop where
  nodup : tablesSet.Nodup
  mem : ∀ table, table ∈ tablesSet ↔ Touches statements table
  answered : ∀ table ∈ tablesSet, ∀ branch, pragmas.integrityCheck branch table ≠ none
  records : Records invalidTables fun table =>
    if table ∈ tablesSet then Branch.all.filterMap (integrityReason pragmas table) ++
      Branch.all.filterMap (foreignKeyReason pragmas table)
    else []

lemma checked_of_ok {baseToOursParsed baseToTheirsParsed : List (Parsed V)}
    {tablesSet : List String}
    (hrun : checkValidTables pragmas baseToOursParsed baseToTheirsParsed =
      .ok (tablesSet, invalidTables)) :
    Checked pragmas (baseToOursParsed ++ baseToTheirsParsed) tablesSet invalidTables := by
  rw [checkValidTables, bind_eq_ok] at hrun
  obtain ⟨found, hloop, hrun⟩ := hrun
  obtain ⟨rfl, rfl⟩ := Prod.mk.inj (pure_eq_ok.mp hrun)
  have hfound := start_found.run hloop
  rw [List.nil_append] at hfound
  refine ⟨hfound.nodup, hfound.mem, hfound.answered, fun table => ?_⟩
  rw [hfound.records.all hfound.nodup table]
  by_cases hmem : table ∈ found.1 <;> simp [hmem]

lemma Checked.isCompared_iff {statements : List (Parsed V)} {tablesSet : List String}
    (h : Checked pragmas statements tablesSet invalidTables) (table : String) :
    isCompared tablesSet invalidTables table = true ↔ IsCompared pragmas statements table := by
  rw [isCompared, Bool.and_eq_true, decide_eq_true_iff, h.mem, IsCompared,
    Option.isNone_iff_eq_none, h.records table]
  refine and_congr_right fun htouched => ?_
  have hmem := (h.mem table).mpr htouched
  simp only [hmem, if_true]
  rw [entryOf_eq_none_iff, List.append_eq_nil_iff, List.filterMap_eq_nil_iff,
    List.filterMap_eq_nil_iff]
  constructor
  · rintro ⟨hintegrity, hforeign⟩ branch
    have hanswered := h.answered table hmem branch
    exact ⟨(integrityReason_eq_none_iff hanswered).mp (hintegrity branch branch.mem_all),
      foreignKeyReason_eq_none_iff.mp (hforeign branch branch.mem_all)⟩
  · intro hsound
    exact ⟨fun branch _ => (integrityReason_eq_none_iff (h.answered table hmem branch)).mpr
      (hsound branch).1, fun branch _ => foreignKeyReason_eq_none_iff.mpr (hsound branch).2⟩

abbrev ForeignLink := List String × ForeignLinkMetadata

def linkOf (rows : List ForeignKeyRow) : ForeignLink :=
  (rows.map (·.fromColumn),
    ⟨(rows.head?.map (·.table)).getD "", rows.map (·.toColumn)⟩)

def rowsByKey (rows : List ForeignKeyRow) : List (List ForeignKeyRow) :=
  rows.splitBy fun first second => first.id == second.id

def foreignKeysOf (pragmas : Pragmas) (table : String) : List ForeignLink :=
  (rowsByKey (pragmas.foreignKeyList table)).map linkOf

def addLink (table : String) (links : ForeignLinks) (link : ForeignLink) : ForeignLinks :=
  checkAndAddTableForeignLinkEntry links table
    ⟨0, link.2.linkedTable, link.1, link.2.linkedTableColumns⟩

variable {tablesSet : List String} {links : ForeignLinks}

lemma readRows_sameKey {rows : List ForeignKeyRow} {current : CurrentKey}
    (hsame : ∀ row ∈ rows, row.id = current.id) :
    rows.foldl (readForeignKeyRow tablesSet invalidTables table) (links, current) =
      (links, if isCompared tablesSet invalidTables current.parentTable then
        { current with
          childColumns := current.childColumns ++ rows.map (·.fromColumn)
          parentColumns := current.parentColumns ++ rows.map (·.toColumn) }
        else current) := by
  induction rows generalizing current with
  | nil => simp
  | cons row rows ih =>
    have hrow : ¬ row.id ≠ current.id := not_not.mpr (hsame row List.mem_cons_self)
    have hrest : ∀ other ∈ rows, other.id = current.id :=
      fun other hother => hsame other (List.mem_cons_of_mem row hother)
    rw [List.foldl_cons, readForeignKeyRow, if_neg hrow]
    by_cases hcompared : isCompared tablesSet invalidTables current.parentTable = true
    · have hnext := @ih { current with
        childColumns := current.childColumns ++ [row.fromColumn]
        parentColumns := current.parentColumns ++ [row.toColumn] } hrest
      simp only [hcompared, if_true] at hnext ⊢
      rw [hnext]
      simp
    · have hnext := ih hrest
      simp only [hcompared] at hnext ⊢
      exact hnext

/-- A row with another id ends the key that is being read. -/
lemma readForeignKeyRow_next {row : ForeignKeyRow} {current : CurrentKey} (h : row.id ≠ current.id) :
    readForeignKeyRow tablesSet invalidTables table (links, current) row =
      readForeignKeyRow tablesSet invalidTables table
        (checkAndAddTableForeignLinkEntry links table current, ⟨row.id, row.table, [], []⟩) row := by
  simp [readForeignKeyRow, h]

def endRows (table : String) (state : ForeignLinks × CurrentKey) : ForeignLinks :=
  checkAndAddTableForeignLinkEntry state.1 table state.2

lemma endRows_key {row : ForeignKeyRow} {rows : List ForeignKeyRow}
    (hsame : ∀ other ∈ row :: rows, other.id = row.id) :
    endRows table ((row :: rows).foldl (readForeignKeyRow tablesSet invalidTables table)
        (links, ⟨row.id, row.table, [], []⟩)) =
      if isCompared tablesSet invalidTables (linkOf (row :: rows)).2.linkedTable then
        addLink table links (linkOf (row :: rows))
      else links := by
  rw [readRows_sameKey hsame]
  have hparent : (linkOf (row :: rows)).2.linkedTable = row.table := rfl
  rw [hparent]
  by_cases hcompared : isCompared tablesSet invalidTables row.table = true
  · simp only [hcompared, if_true]
    rfl
  · simp only [hcompared]
    rfl

lemma endRows_keys {row : ForeignKeyRow} {rows : List ForeignKeyRow}
    {keys : List (List ForeignKeyRow)} (hne : [] ∉ keys)
    (hsame : ∀ key ∈ (row :: rows) :: keys, ∀ first ∈ key, ∀ second ∈ key, first.id = second.id)
    (hnext : List.IsChain (fun first second => ∀ a ∈ first, ∀ b ∈ second, a.id ≠ b.id)
      ((row :: rows) :: keys)) :
    endRows table (((row :: rows) :: keys).flatten.foldl
        (readForeignKeyRow tablesSet invalidTables table) (links, ⟨row.id, row.table, [], []⟩)) =
      ((((row :: rows) :: keys).map linkOf).filter
        fun link => isCompared tablesSet invalidTables link.2.linkedTable).foldl (addLink table)
          links := by
  induction keys generalizing row rows links with
  | nil =>
    have hkey : ∀ other ∈ row :: rows, other.id = row.id := fun other hother =>
      hsame _ List.mem_cons_self other hother row List.mem_cons_self
    rw [List.flatten_cons, List.flatten_nil, List.append_nil, endRows_key hkey]
    by_cases hcompared :
      isCompared tablesSet invalidTables (linkOf (row :: rows)).2.linkedTable = true
    · simp [hcompared]
    · simp [hcompared]
  | cons key keys ih =>
    obtain ⟨next, rest, rfl⟩ : ∃ next rest, key = next :: rest :=
      List.exists_cons_of_ne_nil fun hnil => hne (hnil ▸ List.mem_cons_self)
    have hkey : ∀ other ∈ row :: rows, other.id = row.id := fun other hother =>
      hsame _ List.mem_cons_self other hother row List.mem_cons_self
    obtain ⟨hfirst, hchain⟩ := List.isChain_cons_cons.mp hnext
    have hends : ∀ state : ForeignLinks × CurrentKey, state.2.id = row.id →
        readForeignKeyRow tablesSet invalidTables table state next =
          readForeignKeyRow tablesSet invalidTables table
            (endRows table state, ⟨next.id, next.table, [], []⟩) next := by
      rintro ⟨links, current⟩ hid
      refine readForeignKeyRow_next fun hsameId => ?_
      exact hfirst row List.mem_cons_self next List.mem_cons_self (hid.symm.trans hsameId.symm)
    have hlast : ((row :: rows).foldl (readForeignKeyRow tablesSet invalidTables table)
        (links, ⟨row.id, row.table, [], []⟩)).2.id = row.id := by
      rw [readRows_sameKey hkey]
      split <;> rfl
    have hrest := @ih (endRows table ((row :: rows).foldl
      (readForeignKeyRow tablesSet invalidTables table) (links, ⟨row.id, row.table, [], []⟩)))
      next rest (fun hmem => hne (List.mem_cons_of_mem _ hmem))
      (fun key hmem => hsame key (List.mem_cons_of_mem _ hmem)) hchain
    rw [List.flatten_cons, List.foldl_append]
    rw [List.flatten_cons, List.cons_append, List.foldl_cons] at hrest ⊢
    rw [hends _ hlast, hrest, endRows_key hkey]
    by_cases hcompared :
      isCompared tablesSet invalidTables (linkOf (row :: rows)).2.linkedTable = true
    · simp [hcompared]
    · simp [hcompared]

/-- The foreign keys of a table whose parents are compared. -/
def comparedLinks (pragmas : Pragmas) (tablesSet : List String) (invalidTables : InvalidTables)
    (table : String) : List ForeignLink :=
  if (invalidTables.get? table).isSome then []
  else (foreignKeysOf pragmas table).filter
    fun link => isCompared tablesSet invalidTables link.2.linkedTable

lemma id_eq_of_mem_rowsByKey {rows key : List ForeignKeyRow} (h : key ∈ rowsByKey rows) :
    ∀ first ∈ key, ∀ second ∈ key, first.id = second.id := by
  have hchain : key.IsChain fun first second => first.id = second.id :=
    (List.isChain_of_mem_splitBy h).imp fun _ _ hid => by simpa using hid
  have hpair := List.isChain_iff_pairwise.mp hchain
  intro first hfirst second hsecond
  by_cases hsame : first = second
  · rw [hsame]
  · exact hpair.forall hfirst hsecond hsame

lemma isChain_rowsByKey (rows : List ForeignKeyRow) :
    (rowsByKey rows).IsChain fun first second => ∀ a ∈ first, ∀ b ∈ second, a.id ≠ b.id := by
  have hchain := List.isChain_getLast_head_splitBy (fun first second => first.id == second.id) rows
  refine hchain.imp_of_mem_imp fun first second hfirst hsecond hends a ha b hb hid => ?_
  obtain ⟨hne, hne', hdiffer⟩ := hends
  have hlast := id_eq_of_mem_rowsByKey hfirst _ (List.getLast_mem hne) a ha
  have hhead := id_eq_of_mem_rowsByKey hsecond _ (List.head_mem hne') b hb
  simp [hlast, hhead, hid] at hdiffer

/-- The loop over the rows of a table adds its foreign keys, in their order. -/
lemma addForeignLinksOf_eq (links : ForeignLinks) (table : String) :
    addForeignLinksOf pragmas tablesSet invalidTables links table =
      (comparedLinks pragmas tablesSet invalidTables table).foldl (addLink table) links := by
  rw [addForeignLinksOf, comparedLinks]
  by_cases hinvalid : (invalidTables.get? table).isSome = true
  · simp [hinvalid]
  · simp only [hinvalid]
    rw [foreignKeysOf]
    cases hrows : pragmas.foreignKeyList table with
    | nil => rfl
    | cons row rows =>
      have hne : rowsByKey (row :: rows) ≠ [] := List.splitBy_ne_nil.mpr (List.cons_ne_nil row rows)
      have hnil : [] ∉ rowsByKey (row :: rows) := List.nil_notMem_splitBy _ _
      have hsame := fun key => @id_eq_of_mem_rowsByKey (row :: rows) key
      have hnext := isChain_rowsByKey (row :: rows)
      have hflatten : (rowsByKey (row :: rows)).flatten = row :: rows := List.flatten_splitBy _ _
      obtain ⟨key, keys, hkeys⟩ := List.exists_cons_of_ne_nil hne
      rw [hkeys] at hnil hsame hnext hflatten
      obtain ⟨first, rest, rfl⟩ : ∃ first rest, key = first :: rest :=
        List.exists_cons_of_ne_nil fun hempty => hnil (hempty ▸ List.mem_cons_self)
      have hfirst : first = row := (List.cons.inj hflatten).1
      have hread := @endRows_keys invalidTables table tablesSet links first rest keys
        (fun hmem => hnil (List.mem_cons_of_mem _ hmem)) hsame hnext
      rw [hflatten, hfirst, ← hfirst, ← hkeys, hfirst] at hread
      exact hread

lemma ne_nil_of_mem_comparedLinks {link : ForeignLink}
    (h : link ∈ comparedLinks pragmas tablesSet invalidTables table) :
    link.1 ≠ [] ∧ link.2.linkedTableColumns ≠ [] := by
  have hmem : link ∈ foreignKeysOf pragmas table := by
    rw [comparedLinks] at h
    split at h
    · cases h
    · exact List.mem_of_mem_filter h
  obtain ⟨key, hkey, rfl⟩ := List.mem_map.mp hmem
  have hne : key ≠ [] := List.ne_nil_of_mem_splitBy hkey
  exact ⟨fun hnil => hne (List.map_eq_nil_iff.mp hnil), fun hnil => hne (List.map_eq_nil_iff.mp hnil)⟩

lemma addLink_parentReferences {link : ForeignLink} (hne : link.1 ≠ [])
    (hne' : link.2.linkedTableColumns ≠ []) (child table : String) :
    (addLink child links link table).parentReferences =
      if table = child then (links table).parentReferences.set link.1 link.2
      else (links table).parentReferences := by
  obtain ⟨columns, parent, parentColumns⟩ := link
  rw [addLink, checkAndAddTableForeignLinkEntry, if_neg (by simpa using ⟨hne, hne'⟩)]
  simp only [Function.update_apply]
  by_cases hparent : table = parent
  · subst hparent
    by_cases hchild : table = child <;> simp [hchild]
  · rw [if_neg hparent]
    by_cases hchild : table = child <;> simp [hchild]

lemma mem_addLink_childReferences {link : ForeignLink} (hne : link.1 ≠ [])
    (hne' : link.2.linkedTableColumns ≠ []) (child table : String)
    (columns : List (Option String)) :
    columns ∈ (addLink child links link table).childReferences ↔
      columns ∈ (links table).childReferences ∨
        link.2.linkedTable = table ∧ link.2.linkedTableColumns = columns := by
  obtain ⟨own, parent, parentColumns⟩ := link
  rw [addLink, checkAndAddTableForeignLinkEntry, if_neg (by simpa using ⟨hne, hne'⟩)]
  simp only [Function.update_apply]
  by_cases hparent : table = parent
  · subst hparent
    by_cases hchild : table = child <;> simp [hchild, eq_comm]
  · rw [if_neg hparent]
    have hother : ¬ (parent = table ∧ parentColumns = columns) := fun h => hparent h.1.symm
    rw [or_iff_left hother]
    by_cases hchild : table = child <;> simp [hchild]

lemma addLinks_references {child : String} {added : List ForeignLink}
    (hne : ∀ link ∈ added, link.1 ≠ [] ∧ link.2.linkedTableColumns ≠ []) (table : String) :
    (added.foldl (addLink child) links table).parentReferences =
        (if table = child then (links table).parentReferences.setAll added
        else (links table).parentReferences) ∧
      ∀ columns, columns ∈ (added.foldl (addLink child) links table).childReferences ↔
        columns ∈ (links table).childReferences ∨
          ∃ link ∈ added, link.2.linkedTable = table ∧ link.2.linkedTableColumns = columns := by
  induction added generalizing links with
  | nil => exact ⟨by split <;> rfl, fun columns => by simp⟩
  | cons link added ih =>
    obtain ⟨hown, hparent⟩ := hne link List.mem_cons_self
    obtain ⟨hreferences, hchildren⟩ :=
      @ih (addLink child links link) fun other hother => hne other (List.mem_cons_of_mem _ hother)
    rw [List.foldl_cons]
    refine ⟨?_, fun columns => ?_⟩
    · rw [hreferences, addLink_parentReferences hown hparent]
      split <;> rfl
    · rw [hchildren, mem_addLink_childReferences hown hparent]
      simp [or_assoc]

lemma foreignLinks_references {tables : List String} (hnodup : tables.Nodup) (table : String) :
    (tables.foldl (addForeignLinksOf pragmas tablesSet invalidTables) links table).parentReferences =
        (if table ∈ tables then (links table).parentReferences.setAll
          (comparedLinks pragmas tablesSet invalidTables table)
        else (links table).parentReferences) ∧
      ∀ columns, columns ∈ (tables.foldl (addForeignLinksOf pragmas tablesSet invalidTables) links
          table).childReferences ↔
        columns ∈ (links table).childReferences ∨
          ∃ child ∈ tables, ∃ link ∈ comparedLinks pragmas tablesSet invalidTables child,
            link.2.linkedTable = table ∧ link.2.linkedTableColumns = columns := by
  induction tables generalizing links with
  | nil => exact ⟨rfl, fun columns => by simp⟩
  | cons first tables ih =>
    obtain ⟨hfirst, hnodup⟩ := List.nodup_cons.mp hnodup
    obtain ⟨hreferences, hchildren⟩ :=
      @ih (addForeignLinksOf pragmas tablesSet invalidTables links first) hnodup
    obtain ⟨hstep, hstepChildren⟩ := @addLinks_references links first
      (comparedLinks pragmas tablesSet invalidTables first)
      (fun link hlink => ne_nil_of_mem_comparedLinks hlink) table
    rw [← addForeignLinksOf_eq] at hstep hstepChildren
    rw [List.foldl_cons]
    refine ⟨?_, fun columns => ?_⟩
    · rw [hreferences, hstep]
      by_cases hsame : table = first
      · simp [hsame, hfirst]
      · simp [hsame]
    · rw [hchildren, hstepChildren]
      simp [or_assoc]

/-- The driver knows the foreign keys between the tables that it compares. Of two keys of a table on
the same columns it knows the last one. -/
theorem foreignLinks_exact {baseToOursParsed baseToTheirsParsed : List (Parsed V)}
    (hrun : checkValidTables pragmas baseToOursParsed baseToTheirsParsed =
      .ok (tablesSet, invalidTables)) (table : String) :
    let links := createTableToForeignLinkInformation pragmas tablesSet invalidTables
    let compared := IsCompared pragmas (baseToOursParsed ++ baseToTheirsParsed)
    (∀ columns link, (links table).parentReferences.get? columns = some link ↔
      compared table ∧ compared link.linkedTable ∧
        ∃ before after, foreignKeysOf pragmas table = before ++ (columns, link) :: after ∧
          ∀ other ∈ after, other.1 = columns → ¬ compared other.2.linkedTable) ∧
    ∀ columns, columns ∈ (links table).childReferences ↔
      compared table ∧ ∃ child, compared child ∧
        ∃ own, (own, ⟨table, columns⟩) ∈ foreignKeysOf pragmas child := by
  intro links compared
  have hchecked := checked_of_ok hrun
  obtain ⟨hreferences, hchildren⟩ := @foreignLinks_references pragmas invalidTables tablesSet
    (fun _ => ⟨.empty, []⟩) tablesSet hchecked.nodup table
  have hcompared : ∀ name, isCompared tablesSet invalidTables name = true ↔ compared name :=
    hchecked.isCompared_iff
  have hlinks : ∀ child ∈ tablesSet, comparedLinks pragmas tablesSet invalidTables child =
      if isCompared tablesSet invalidTables child then (foreignKeysOf pragmas child).filter
        fun link => isCompared tablesSet invalidTables link.2.linkedTable
      else [] := by
    intro child hchild
    rw [comparedLinks, isCompared]
    cases invalidTables.get? child <;> simp [hchild]
  have htouched : ∀ name, compared name → name ∈ tablesSet := fun name h =>
    (hchecked.mem name).mpr h.1
  refine ⟨fun columns link => ?_, fun columns => ?_⟩
  · have hread : (links table).parentReferences = _ := hreferences
    rw [hread]
    by_cases hsound : compared table
    · have htable := htouched table hsound
      rw [if_pos htable, hlinks table htable, if_pos ((hcompared table).mpr hsound), Dict.get?_setAll,
        Dict.get?_empty, Option.or_none, Dict.lastOf_filter_eq_some_iff]
      simp only [hcompared, hsound, true_and]
    · refine iff_of_false ?_ fun h => hsound h.1
      by_cases htable : table ∈ tablesSet
      · rw [if_pos htable, hlinks table htable, if_neg fun h => hsound ((hcompared table).mp h)]
        nofun
      · rw [if_neg htable]
        nofun
  · refine (hchildren columns).trans ?_
    rw [or_iff_right List.not_mem_nil]
    constructor
    · rintro ⟨child, hchild, ⟨own, parent⟩, hlink, rfl, rfl⟩
      rw [hlinks child hchild] at hlink
      by_cases hsound : isCompared tablesSet invalidTables child = true
      · rw [if_pos hsound] at hlink
        obtain ⟨hdeclared, hparent⟩ := List.mem_filter.mp hlink
        exact ⟨(hcompared _).mp hparent, child, (hcompared _).mp hsound, own, hdeclared⟩
      · rw [if_neg hsound] at hlink
        cases hlink
    · rintro ⟨hparent, child, hsound, own, hdeclared⟩
      refine ⟨child, htouched child hsound, (own, ⟨table, columns⟩), ?_, rfl, rfl⟩
      rw [hlinks child (htouched child hsound), if_pos ((hcompared _).mpr hsound)]
      exact List.mem_filter.mpr ⟨hdeclared, (hcompared _).mpr hparent⟩

def shop : Pragmas where
  integrityCheck _ _ := some "ok"
  foreignKeyCheck _ := []
  foreignKeyList table :=
    if table = "orders" then
      [⟨0, "items", "item", some "name"⟩, ⟨0, "items", "lot", some "lot"⟩,
        ⟨1, "users", "user_id", some "id"⟩]
    else []

def deleteFrom (table : String) : Parsed ℕ := .dml ⟨table, .delete [.eq "id" 1]⟩

lemma compared_shop (table : String) :
    IsCompared shop ([deleteFrom "orders"] ++ [deleteFrom "users"]) table ↔
      table = "orders" ∨ table = "users" := by
  have hsound : Sound shop table := fun branch => ⟨rfl, nofun⟩
  simp [IsCompared, hsound, Touches, deleteFrom, getTargetTable, eq_comm]

theorem foreignLinks_exact_shop :
    let links := createTableToForeignLinkInformation shop ["orders", "users"] .empty
    ((links "orders").parentReferences.get? ["user_id"] = some ⟨"users", [some "id"]⟩ ∧
      (links "orders").parentReferences.get? ["item", "lot"] = none) ∧
    [some "id"] ∈ (links "users").childReferences := by
  have hrun : checkValidTables shop [deleteFrom "orders"] [deleteFrom "users"] =
      .ok (["orders", "users"], .empty) := rfl
  have horders := foreignLinks_exact hrun "orders"
  have husers := foreignLinks_exact hrun "users"
  have hkeys : foreignKeysOf shop "orders" =
      [(["item", "lot"], ⟨"items", [some "name", some "lot"]⟩),
        (["user_id"], ⟨"users", [some "id"]⟩)] := rfl
  refine ⟨⟨(horders.1 _ _).mpr ⟨?_, ?_, ?_⟩, ?_⟩, (husers.2 _).mpr ⟨?_, "orders", ?_, ["user_id"], ?_⟩⟩
  · exact (compared_shop _).mpr (.inl rfl)
  · exact (compared_shop _).mpr (.inr rfl)
  · exact ⟨[(["item", "lot"], ⟨"items", [some "name", some "lot"]⟩)], [], hkeys, nofun⟩
  · refine Option.eq_none_iff_forall_ne_some.mpr fun link hlink => ?_
    obtain ⟨-, hparent, before, after, hdeclared, -⟩ := (horders.1 _ _).mp hlink
    have hmem : (["item", "lot"], link) ∈ foreignKeysOf shop "orders" := by
      rw [hdeclared]
      exact List.mem_append_right _ List.mem_cons_self
    have hlinked : link = ⟨"items", [some "name", some "lot"]⟩ := by simpa [hkeys] using hmem
    rw [hlinked, compared_shop] at hparent
    revert hparent
    decide
  · exact (compared_shop _).mpr (.inr rfl)
  · exact (compared_shop _).mpr (.inl rfl)
  · rw [hkeys]
    exact List.mem_cons_of_mem _ List.mem_cons_self

end SqliteReconcile.RowMerge
