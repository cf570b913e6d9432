import SqliteReconcile.RemainingKindsAnalysis
import SqliteReconcile.StatementSyntax

/-!
# Rows that REPLACE removes

A statement with the REPLACE algorithm deletes the rows that its keys collide with. The filter
of the remaining queue looks at the kind of a statement, and not at its algorithm.
-/
namespace SqliteReconcile.ReplaceDeletes
open Utils Models CascadeMetadata SqlMetadata StaticAnalysis RemainingMetadata
  RemainingMetadataIndex WriteWriteFilter RemainingKindsAnalysis StatementSyntax

variable {context : ConflictCheckContext} {current : LoggedTransaction}
  {remaining : List LoggedTransaction}

/-- INSERT OR REPLACE, REPLACE INTO or UPDATE OR REPLACE on a table. -/
def ReplacesIn (table : String) (metadata : StatementMetadata) : Prop :=
  metadata.tableUpdated = some table ∧
    ∃ resolution, metadata.conflictResolution = some resolution ∧ resolution.algorithm = .replace

/-- A table, or one whose rows go or change when rows of that table are deleted. -/
inductive ReachedByDelete (context : ConflictCheckContext) (table : String) : String → Prop
  | self : ReachedByDelete context table table
  | child {parent : String} {edge : ForeignKeyEdge} :
    ReachedByDelete context table parent → edge ∈ foreignKeyEdgesByParent context parent →
    edge.onDelete = .cascade ∨ edge.onDelete = .setNull ∨ edge.onDelete = .setDefault →
    ReachedByDelete context table edge.childTable

/-- A statement updates or deletes rows of a table. -/
def ChangesRowsOf (table : String) (metadata : StatementMetadata) : Prop :=
  metadata.tableUpdated = some table ∧
    (metadata.statementKind = .update ∨ metadata.statementKind = .delete)

/-- One side updates or deletes rows of a table that a REPLACE of the other side reaches. -/
def ReplaceReaches (context : ConflictCheckContext) (changer replacer : LoggedTransaction) : Prop :=
  ∃ s ∈ changer.statements, ∃ r ∈ replacer.statements, ∃ table reached,
    ReplacesIn table r.metadata ∧ ReachedByDelete context table reached ∧
      ChangesRowsOf reached s.metadata

/-- A statement of the current side and one of the remaining side that may assign one key. -/
def MayAssignOneKey (context : ConflictCheckContext) (metadata other : StatementMetadata) : Prop :=
  match metadata.statementKind with
  | .update => statementOverlaps context .omittedIntegerPrimaryKey
      (requiredUpdatedTable metadata) metadata.columnsUpdated other
  | .insert => ∃ key, omittedIntegerPrimaryKeyColumn context metadata = some key ∧
      (statementOverlaps context .omittedIntegerPrimaryKey (requiredUpdatedTable metadata) {key}
          other ∨
        statementOverlaps context .update (requiredUpdatedTable metadata) {key} other)
  | .delete | .other => False

/-- Some statement pair of the two transactions asks for a check, whatever the conflict
algorithms are: two updates or an update and a deletion write one column, the remaining side
reads what current writes, both create or change one key or the two ends of a foreign key, or
both may assign one key. -/
inductive AsksForCheck (context : ConflictCheckContext) (current other : LoggedTransaction) : Prop
  | writes {s o : LoggedStatement} : s ∈ current.statements → o ∈ other.statements →
    SomeOverlap RowWrite.Filtered s.metadata o.metadata → AsksForCheck context current other
  | reads : transactionWriteReadOverlap current.metadata other.metadata →
    AsksForCheck context current other
  | keys : constraintConflictPossible context current.metadata other.metadata →
    AsksForCheck context current other
  | assignedKeys {s o : LoggedStatement} : s ∈ current.statements → o ∈ other.statements →
    MayAssignOneKey context s.metadata o.metadata → AsksForCheck context current other

lemma statementImplicit_iff {metadata : StatementMetadata} :
    statementImplicitInsertKeyConflictPossible context (fromTransactions context remaining)
        metadata ↔
      ∃ other ∈ remaining, ∃ o ∈ other.statements, MayAssignOneKey context metadata o.metadata := by
  have hcounter := fun field table columns =>
    columnCounterOverlap_fromTransactions context remaining field table columns
  have homitted := fun table columns => hcounter .omittedIntegerPrimaryKey table columns
  have hupdate := fun table columns => hcounter .update table columns
  unfold statementImplicitInsertKeyConflictPossible MayAssignOneKey
  cases hkind : metadata.statementKind with
  | update => exact homitted _ _
  | insert =>
    cases hkey : omittedIntegerPrimaryKeyColumn context metadata with
    | none => simp
    | some key =>
      have hover : (columnCounterOverlap
            (fromTransactions context remaining).omittedIntegerPrimaryKeyCounts
            (requiredUpdatedTable metadata) {key} ∨
          columnCounterOverlap (fromTransactions context remaining).updateColumnCounts
            (requiredUpdatedTable metadata) {key}) ↔
          ∃ other ∈ remaining, ∃ o ∈ other.statements,
            statementOverlaps context .omittedIntegerPrimaryKey (requiredUpdatedTable metadata)
                {key} o.metadata ∨
              statementOverlaps context .update (requiredUpdatedTable metadata) {key}
                o.metadata := by
        refine (or_congr (homitted _ _) (hupdate _ _)).trans ?_
        simp only [and_or_left, exists_or]
      simp only [Option.some.injEq, exists_eq_left']
      rw [← hover]
      split_ifs with habsent
      · -- neither counter has the table, so neither lookup finds anything
        simp only [false_iff, not_or]
        exact ⟨fun h => habsent.1 (mem_of_columnCounterOverlap h),
          fun h => habsent.2 (mem_of_columnCounterOverlap h)⟩
      · simp
  | _ => simp

lemma kinds_ne_empty_iff {index : RemainingMetadataIndex} :
    remainingIndividualCheckKinds context current index ≠ ∅ ↔
      ¬ index.isEmpty ∧ (writeWriteConflictPossible current index ∨
        columnSetsOverlapCounter current.metadata.tablesUpdatedToColumnsUpdated
          index.tablesReferencedToColumnCounts ∨
        implicitInsertKeyConflictPossible context current index ∨
        constraintConflictPossibleWithIndex context current index) := by
  have hkind : ∀ possible kind, kindWhen possible kind = ∅ ↔ ¬ possible := by
    intro possible kind
    cases possible <;> simp [kindWhen]
  unfold remainingIndividualCheckKinds
  split_ifs with hempty
  · simp [hempty]
  · simp only [hempty, ne_eq, Finset.union_eq_empty, hkind]
    tauto

/-- A current transaction is checked against a queue exactly when some transaction of the queue
asks for it, and that does not depend on conflict algorithms. -/
theorem checked_iff_asksForCheck (hkeys : KeysListed context)
    (hcurrent : TransactionParsedIn context current)
    (hremaining : ∀ other ∈ remaining, TransactionParsedIn context other) :
    remainingIndividualCheckKinds context current (fromTransactions context remaining) ≠ ∅ ↔
      ∃ other ∈ remaining, AsksForCheck context current other := by
  have hwrites := @writeWriteConflictPossible_iff context current remaining hcurrent
  have hreads := @writeRead_iff context current remaining hremaining
  have hconstraint : constraintConflictPossibleWithIndex context current
      (fromTransactions context remaining) ↔
      ∃ other ∈ remaining, constraintConflictPossible context current.metadata other.metadata := by
    unfold constraintConflictPossibleWithIndex constraintConflictPossible
    simp only [Bool.or_eq_true, keyConstraint_iff hkeys hcurrent hremaining,
      foreignKeyConstraint_iff hkeys hremaining, and_or_left, exists_or]
  have hassigned : implicitInsertKeyConflictPossible context current
      (fromTransactions context remaining) ↔
      ∃ s ∈ current.statements, ∃ other ∈ remaining, ∃ o ∈ other.statements,
        MayAssignOneKey context s.metadata o.metadata := by
    unfold implicitInsertKeyConflictPossible
    simp only [List.any_eq_true, statementImplicit_iff]
  rw [kinds_ne_empty_iff, isEmpty_fromTransactions, hwrites, hreads, hassigned, hconstraint]
  constructor
  · rintro ⟨-, ⟨s, hs, other, hother, o, ho, hoverlap⟩ | ⟨other, hother, hoverlap⟩ |
      ⟨s, hs, other, hother, o, ho, hassign⟩ | ⟨other, hother, hpossible⟩⟩
    · exact ⟨other, hother, .writes hs ho hoverlap⟩
    · exact ⟨other, hother, .reads hoverlap⟩
    · exact ⟨other, hother, .assignedKeys hs ho hassign⟩
    · exact ⟨other, hother, .keys hpossible⟩
  · rintro ⟨other, hother, hasks⟩
    refine ⟨List.ne_nil_of_mem hother, ?_⟩
    cases hasks with
    | writes hs ho hoverlap => exact .inl ⟨_, hs, other, hother, _, ho, hoverlap⟩
    | reads hoverlap => exact .inr (.inl ⟨other, hother, hoverlap⟩)
    | assignedKeys hs ho hassign =>
      exact .inr (.inr (.inl ⟨_, hs, other, hother, _, ho, hassign⟩))
    | keys hpossible => exact .inr (.inr (.inr ⟨other, hother, hpossible⟩))

/-- `users(id INTEGER PRIMARY KEY, email UNIQUE, name)`. -/
def emailContext : ConflictCheckContext where
  schemaCache :=
    { tableColumns := [("users", {"id", "email", "name"})]
      primaryKeyColumns := [("users", ["id"])]
      keyColumnSets := [("users", [{"id"}, {"email"}])]
      integerPrimaryKeyColumns := [("users", some "id")]
      foreignKeyEdges := [] }
  pragmaIntegerPrimaryKey := fun _ => none

def users : TableName := ⟨"users", "", none⟩

/-- `UPDATE users SET column = 'x'`, with or without a condition on the id. -/
def updateUsers (column : String) (condition : Option Expr) : Statement :=
  .update [] users [(.column column, .literal "'x'")] none condition

def idIsOne : Expr := .node "=" [.column "" "id", .literal "1"]

/-- `INSERT INTO users VALUES (2, 'a@example.com', 'y')`. -/
def insertUser : Statement :=
  .insert [] users (.values none [[.literal "2", .literal "'a@example.com'", .literal "'y'"]])

def renameUser (branch : BranchName) : LoggedTransaction :=
  singleTransaction emailContext branch ⟨"UPDATE users SET name = 'x' WHERE id = 1", none, false⟩
    (updateUsers "name" (some idIsOne))

def renameUsers (branch : BranchName) : LoggedTransaction :=
  singleTransaction emailContext branch ⟨"UPDATE users SET name = 'x'", none, false⟩
    (updateUsers "name" none)

def changeEmail (branch : BranchName) : LoggedTransaction :=
  singleTransaction emailContext branch ⟨"UPDATE users SET email = 'x' WHERE id = 1", none, false⟩
    (updateUsers "email" (some idIsOne))

def replaceUser (branch : BranchName) : LoggedTransaction :=
  singleTransaction emailContext branch
    ⟨"INSERT OR REPLACE INTO users VALUES (2, 'a@example.com', 'y')",
      some ⟨.insert, .replace⟩, false⟩ insertUser

lemma keysListed_email : KeysListed emailContext := by
  refine ⟨by decide, ?_, ?_, ?_⟩
  · intro entry hentry keySet hkeySet hempty
    subst hempty
    revert entry
    decide
  · intro edge hedge
    cases hedge
  · intro edge hedge
    cases hedge

/-- An UPDATE of a key column is checked against the INSERT OR REPLACE. -/
theorem email_update_checked :
    remainingIndividualCheckKinds emailContext (changeEmail .ours)
        (fromTransactions emailContext [replaceUser .theirs]) ≠ ∅ ∧
      AsksForCheck emailContext (changeEmail .ours) (replaceUser .theirs) := by
  have hchecked : remainingIndividualCheckKinds emailContext (changeEmail .ours)
      (fromTransactions emailContext [replaceUser .theirs]) ≠ ∅ := by decide +kernel
  have hasks := (checked_iff_asksForCheck keysListed_email (readAs_single _ _ _ _).parsedIn
    fun _ hother => List.mem_singleton.mp hother ▸ (readAs_single _ _ _ _).parsedIn).mp hchecked
  obtain ⟨other, hother, hasks⟩ := hasks
  cases List.mem_singleton.mp hother
  exact ⟨hchecked, hasks⟩

lemma replaceReaches_users {changer : LoggedTransaction} {branch : BranchName}
    {s : LoggedStatement} (hs : s ∈ changer.statements) (hchanges : ChangesRowsOf "users" s.metadata) :
    ReplaceReaches emailContext changer (replaceUser branch) :=
  ⟨s, hs, _, List.mem_singleton.mpr rfl, "users", "users", ⟨rfl, _, rfl, rfl⟩, .self, hchanges⟩

/-- The REPLACE can remove the row that the other side renames, and nothing is checked,
whichever side is current. -/
theorem replace_not_checked :
    ReplaceReaches emailContext (renameUser .ours) (replaceUser .theirs) ∧
      remainingIndividualCheckKinds emailContext (renameUser .ours)
        (fromTransactions emailContext [replaceUser .theirs]) = ∅ ∧
      ReplaceReaches emailContext (renameUsers .theirs) (replaceUser .ours) ∧
      remainingIndividualCheckKinds emailContext (replaceUser .ours)
        (fromTransactions emailContext [renameUsers .theirs]) = ∅ :=
  ⟨replaceReaches_users (List.mem_singleton.mpr rfl) ⟨rfl, .inl rfl⟩, by decide +kernel,
    replaceReaches_users (List.mem_singleton.mpr rfl) ⟨rfl, .inl rfl⟩, by decide +kernel⟩

end SqliteReconcile.ReplaceDeletes
