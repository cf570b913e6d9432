import SqliteReconcile.CascadeClosure
import SqliteReconcile.ImplicitKeys
import SqliteReconcile.RowSetReads

/-!
# The columns that an UPDATE assigns

An assignment gives a value to one column, or to a row of columns at once, and a comparison as the
value is read as if the assignment were compared. The metadata keeps the columns of the first form
only, and its write set is what every later check starts from.
-/
namespace SqliteReconcile.AssignedColumns
open Utils Models CascadeMetadata SqlMetadata StaticAnalysis RemainingMetadata
  RemainingMetadataIndex WriteWriteFilter RemainingKindsAnalysis StatementSyntax ImplicitKeys
  CascadeClosure

structure Update where
  ctes : List Cte
  table : TableName
  assignments : List (Assignment × Expr)
  fromClause : Option FromClause
  condition : Option Expr

namespace Update

def statement (update : Update) : Statement :=
  .update update.ctes update.table update.assignments update.fromClause update.condition

def assigned (update : Update) : Finset String :=
  (update.assignments.flatMap fun assignment => targets assignment.1).toFinset

/-- Every column that a row value or a comparison assigns is also assigned on its own. -/
def TargetsRepeated (update : Update) : Prop :=
  ∀ assignment ∈ update.assignments, ∀ name ∈ targets assignment.1,
    ∃ single ∈ update.assignments, single.1 = .column name

def ExprReads (context : ConflictCheckContext) (update : Update) (expr : Expr)
    (table column : String) : Prop :=
  ∃ frame leaf, RootStands update.statement.cteOutputColumns [update.statement.dmlOuterSources]
    (.expression expr) frame leaf ∧ LeafReads context.tableColumns frame leaf table column

/-- What an assigned equation reads on its left is also read on its right or elsewhere in the
UPDATE. -/
def LeftsRead (context : ConflictCheckContext) (update : Update) : Prop :=
  ∀ name left right, (.comparison name, .node "=" [left, right]) ∈ update.assignments →
    ∀ table column, update.ExprReads context left table column →
      ∃ column', update.statement.Reads context.tableColumns table column' ∧ Meets {column'} {column}

/-- The UPDATE has no assignment that is lost. -/
structure Kept (context : ConflictCheckContext) (update : Update) : Prop where
  targets : update.TargetsRepeated
  lefts : update.LeftsRead context

def event (update : Update) : CascadeWriteEvent := ⟨update.table.name, update.assigned, .update⟩

end Update

section

variable {context : ConflictCheckContext} {compatible compatible' : CompatibleSQL}

lemma columnsUpdated_update (update : Update) :
    (metadataOf context compatible update.statement).columnsUpdated =
      assignedColumns update.assignments := by
  change ((update.assignments.map Prod.fst).filterMap _).toFinset = _
  rw [List.filterMap_map]
  rfl

lemma mem_assignedColumns {assignments : List (Assignment × Expr)} {name : String} :
    name ∈ assignedColumns assignments ↔
      ∃ assignment ∈ assignments, assignment.1 = .column name := by
  simp only [assignedColumns, List.mem_toFinset, List.mem_filterMap]
  refine exists_congr fun assignment => and_congr_right fun _ => ?_
  cases assignment.1 <;> simp

lemma mem_assigned {update : Update} {name : String} :
    name ∈ update.assigned ↔ ∃ assignment ∈ update.assignments, name ∈ targets assignment.1 := by
  simp only [Update.assigned, List.mem_toFinset, List.mem_flatMap]

/-- The write set holds every assigned column exactly when no column is assigned by row values or
comparisons alone. -/
lemma assignedColumns_eq_iff (update : Update) :
    assignedColumns update.assignments = update.assigned ↔ update.TargetsRepeated := by
  constructor
  · intro heq assignment hassignment name hname
    have hmem : name ∈ update.assigned := mem_assigned.mpr ⟨assignment, hassignment, hname⟩
    rw [← heq] at hmem
    exact mem_assignedColumns.mp hmem
  · intro hrepeated
    ext name
    rw [mem_assignedColumns, mem_assigned]
    constructor
    · rintro ⟨assignment, hassignment, hcolumn⟩
      exact ⟨assignment, hassignment, by simp [hcolumn, targets]⟩
    · rintro ⟨assignment, hassignment, hname⟩
      exact hrepeated assignment hassignment name hname

/-- What the right-hand sides read is found by the collector, and referenced. -/
def ReadsScanned (context : ConflictCheckContext) (update : Update) : Prop :=
  ∀ assignment ∈ update.assignments, ∀ table column,
    update.ExprReads context assignment.2 table column →
    Meets ((referencedTablesToColumns context.tableColumns update.statement).columns table)
        {column} ∧
      ∀ compatible, Meets ((metadataOf context compatible
        update.statement).tablesReferencedToColumnsReferenced.columns table) {column}

/-- Whoever runs the UPDATE counts as changing each key with an assigned column. -/
def KeysCounted (context : ConflictCheckContext) (update : Update) : Prop :=
  ∀ keyColumns column, column ∈ keyColumns → column ∈ update.assigned →
    (∀ compatible, statementMayCreateOrChangeKey (metadataOf context compatible update.statement)
      update.table.name keyColumns) ∧
    ∀ transaction statements, ReadAs context transaction statements →
      update.statement ∈ statements →
      transactionMetadataMayCreateOrChangeKey transaction.metadata update.table.name keyColumns ∧
        transactionMetadataMayRemoveOrChangeKey transaction.metadata update.table.name keyColumns

/-- The cascade effects are those of an update of all assigned columns, and so stand for each
event that such an update triggers. -/
def CascadesIncluded (context : ConflictCheckContext) (update : Update) : Prop :=
  ∀ compatible,
    (metadataOf context compatible update.statement).cascadeWriteEvents =
        (cascadeEffectsForEvent context update.event).writeEvents ∧
      (EdgesListed context → ∀ event, Triggered context update.event event →
        ∃ recorded ∈ (metadataOf context compatible update.statement).cascadeWriteEvents,
          Dominates recorded event)

/-- The write set of the UPDATE is all that it assigns, for each of its consumers. -/
structure Complete (context : ConflictCheckContext) (update : Update) : Prop where
  columnsUpdated : ∀ compatible,
    (metadataOf context compatible update.statement).columnsUpdated = update.assigned
  reads : ReadsScanned context update
  keys : KeysCounted context update
  cascades : CascadesIncluded context update

/-- Two UPDATEs of one table with a common column are a write-write conflict, for the filter
and for the static analysis. -/
def WriteWriteReported (context : ConflictCheckContext) (first second : Update) : Prop :=
  first.table.name = second.table.name →
  (∃ column ∈ first.assigned, column ∈ second.assigned) →
  ∀ current remaining other currentStatements otherStatements,
    ReadAs context current currentStatements → first.statement ∈ currentStatements →
    ReadAs context other otherStatements → second.statement ∈ otherStatements →
    other ∈ remaining →
    .writeWrite ∈ remainingIndividualCheckKinds context current
        (fromTransactions context remaining) ∧
      ∀ enabledKinds currentBranch oursLabel theirsLabel, kindEnabled enabledKinds .writeWrite →
        (staticAnalysisMatching context current.metadata other.metadata enabledKinds
            currentBranch oursLabel theirsLabel).hasKind .writeWrite ∧
          (staticAnalysisMatching context other.metadata current.metadata enabledKinds
            currentBranch oursLabel theirsLabel).hasKind .writeWrite

/-- Every assigned column of two UPDATEs is in their write sets, with all that follows. -/
structure WriteSetsComplete (context : ConflictCheckContext) (first second : Update) : Prop where
  ofFirst : Complete context first
  ofSecond : Complete context second
  writeWrite : WriteWriteReported context first second

lemma exists_logged {transaction : LoggedTransaction} {statements : List Statement}
    (h : ReadAs context transaction statements) {statement : Statement}
    (hmem : statement ∈ statements) :
    ∃ logged ∈ transaction.statements, ∃ compatible,
      logged.metadata = metadataOf context compatible statement := by
  obtain ⟨hlength, hread⟩ := List.forall₂_iff_get.mp h.statements
  obtain ⟨i, rfl⟩ := List.get_of_mem hmem
  have hi : i < transaction.statements.length := by omega
  obtain ⟨compatible, hmetadata⟩ := hread i hi i.isLt
  exact ⟨_, List.get_mem _ ⟨i, hi⟩, compatible, hmetadata⟩

lemma meets_of_mem {left right : Finset String} {column : String} (hleft : column ∈ left)
    (hright : column ∈ right) : Meets left right :=
  meets_iff.mpr ⟨Finset.ne_empty_of_mem hleft, Finset.ne_empty_of_mem hright,
    .inr (.inr ⟨column, hleft, hright⟩)⟩

/-- A read of a right-hand side is a read of what is scanned of the assignment, or of the left side of
an equation. -/
lemma exprReads_assignment {update : Update} {assignment : Assignment × Expr}
    {table column : String} (h : update.ExprReads context assignment.2 table column) :
    update.ExprReads context (Statement.assignmentRoot assignment) table column ∨
      ∃ name left right, assignment = (.comparison name, .node "=" [left, right]) ∧
        update.ExprReads context left table column := by
  obtain ⟨target, value⟩ := assignment
  cases target with
  | column name => exact .inl h
  | row names => exact .inl h
  | comparison name =>
    obtain ⟨frame, leaf, hstands, hreads⟩ := h
    by_cases heq : ∃ left right, value = .node "=" [left, right]
    · obtain ⟨left, right, rfl⟩ := heq
      obtain ⟨child, hmem, hchild⟩ := rootStands_node.mp hstands
      rcases List.mem_cons.mp hmem with rfl | hmem
      · exact .inr ⟨name, child, right, rfl, frame, leaf, hchild, hreads⟩
      · rw [List.mem_singleton.mp hmem] at hchild
        exact .inl ⟨frame, leaf, hchild, hreads⟩
    · have hright : Statement.assignmentRight (.comparison name, value) = none := by
        unfold Statement.assignmentRight
        split <;> simp_all
      have hroot : Statement.assignmentRoot (.comparison name, value) =
          .node "=" [.column "" name, value] := by
        unfold Statement.assignmentRoot
        rw [hright]
      rw [hroot]
      exact .inl ⟨frame, leaf, rootStands_node.mpr ⟨value, by simp, hstands⟩, hreads⟩

lemma reads_of_assignmentRoot {update : Update} {assignment : Assignment × Expr}
    (hassignment : assignment ∈ update.assignments) {table column : String}
    (h : update.ExprReads context (Statement.assignmentRoot assignment) table column) :
    update.statement.Reads context.tableColumns table column := by
  obtain ⟨frame, leaf, hstands, hreads⟩ := h
  refine ⟨frame, leaf, .root ?_ hstands, hreads⟩
  refine List.mem_append_left _ (List.mem_append_left _ ?_)
  exact List.mem_map.mpr ⟨assignment, hassignment, rfl⟩

lemma collected_meets {statement : Statement} {table : String} {right : Finset String} :
    Meets ((referencedTablesToColumns context.tableColumns statement).columns table) right ↔
      ∃ column, statement.Reads context.tableColumns table column ∧ Meets {column} right := by
  rw [referencedTablesToColumns_meets]
  constructor
  · rintro ⟨⟨_, column⟩, hread, rfl, hmeets⟩
    exact ⟨column, Statement.mem_reads.mp hread, hmeets⟩
  · rintro ⟨column, hread, hmeets⟩
    exact ⟨(table, column), Statement.mem_reads.mpr hread, rfl, hmeets⟩

/-- The right-hand sides are scanned exactly when no left side of an equation is lost. -/
lemma readsScanned_iff (update : Update) :
    ReadsScanned context update ↔ update.LeftsRead context := by
  constructor
  · intro hscanned name left right hmem table column hleft
    obtain ⟨frame, leaf, hstands, hreads⟩ := hleft
    refine collected_meets.mp (hscanned _ hmem table column ⟨frame, leaf, ?_, hreads⟩).1
    exact rootStands_node.mpr ⟨left, List.mem_cons_self, hstands⟩
  · intro hlefts assignment hassignment table column hread
    have hcollected : ∃ column', update.statement.Reads context.tableColumns table column' ∧
        Meets {column'} {column} := by
      rcases exprReads_assignment hread with hroot | ⟨name, left, right, rfl, hleft⟩
      · exact ⟨column, reads_of_assignmentRoot hassignment hroot,
          meets_of_mem (Finset.mem_singleton_self _) (Finset.mem_singleton_self _)⟩
      · exact hlefts name left right hassignment table column hleft
    refine ⟨collected_meets.mpr hcollected, fun compatible => ?_⟩
    obtain ⟨column', hreads, hmeets⟩ := hcollected
    exact (RowSetReads.referenced_meets compatible _ _ _).mpr
      (.inl ⟨(table, column'), Statement.mem_reads.mpr hreads, rfl, hmeets⟩)

lemma overlap_of_mem {update : Update} (hrepeated : update.TargetsRepeated)
    {keyColumns : Finset String} {column : String} (hkey : column ∈ keyColumns)
    (hcolumn : column ∈ update.assigned) :
    metadataWriteOverlap (metadataOf context compatible update.statement) update.table.name
      keyColumns ≠ ∅ := by
  refine metadataWriteOverlap_ne_empty.mpr ⟨rfl, ?_⟩
  rw [columnsUpdated_update, (assignedColumns_eq_iff update).mpr hrepeated]
  exact meets_of_mem hcolumn hkey

lemma keysCounted {update : Update} (hrepeated : update.TargetsRepeated) :
    KeysCounted context update := by
  intro keyColumns column hkey hcolumn
  have hcreate : ∀ compatible, statementMayCreateOrChangeKey
      (metadataOf context compatible update.statement) update.table.name keyColumns := by
    intro compatible
    have htable : (metadataOf context compatible update.statement).tableUpdated =
        some update.table.name := rfl
    have hinsert : isInsertStatement (metadataOf context compatible update.statement) = false := rfl
    have hupdate : isUpdateStatement (metadataOf context compatible update.statement) = true := rfl
    simp [statementMayCreateOrChangeKey, htable, hinsert, hupdate,
      overlap_of_mem hrepeated hkey hcolumn]
  refine ⟨hcreate, fun transaction statements hread hmem => ?_⟩
  obtain ⟨logged, hlogged, compatible, hmetadata⟩ := exists_logged hread hmem
  have hstatement : metadataOf context compatible update.statement ∈
      (transactionMetadata (transaction.statements.map (·.metadata))).statements :=
    List.mem_map.mpr ⟨logged, hlogged, hmetadata⟩
  rw [hread.metadata]
  constructor
  · rw [transactionMetadataMayCreateOrChangeKey, Bool.or_eq_true]
    exact .inl (List.any_eq_true.mpr ⟨_, hstatement, hcreate compatible⟩)
  · rw [transactionMetadataMayRemoveOrChangeKey, Bool.or_eq_true]
    refine .inl (List.any_eq_true.mpr ⟨_, hstatement, ?_⟩)
    have htable : (metadataOf context compatible update.statement).tableUpdated =
        some update.table.name := rfl
    have hupdate : isUpdateStatement (metadataOf context compatible update.statement) = true := rfl
    simp [htable, hupdate, overlap_of_mem hrepeated hkey hcolumn]

lemma cascadeWriteEvents_update (update : Update) :
    (metadataOf context compatible update.statement).cascadeWriteEvents =
      (cascadeEffectsForEvent context
        ⟨update.table.name, assignedColumns update.assignments, .update⟩).writeEvents := by
  have hcolumns := @columnsUpdated_update context compatible update
  rw [← hcolumns]
  rfl

lemma cascadesIncluded {update : Update} (hrepeated : update.TargetsRepeated) :
    CascadesIncluded context update := by
  intro compatible
  have hevents : (metadataOf context compatible update.statement).cascadeWriteEvents =
      (cascadeEffectsForEvent context update.event).writeEvents := by
    rw [cascadeWriteEvents_update, (assignedColumns_eq_iff update).mpr hrepeated]
    rfl
  refine ⟨hevents, fun hlisted event htriggered => ?_⟩
  rw [hevents]
  exact (coversEvent hlisted htriggered).writeEvents

lemma complete_iff (update : Update) : Complete context update ↔ update.Kept context := by
  constructor
  · rintro ⟨hcolumns, hreads, -, -⟩
    refine ⟨(assignedColumns_eq_iff update).mp ?_, (readsScanned_iff update).mp hreads⟩
    rw [← hcolumns ⟨"", none, false⟩, columnsUpdated_update]
  · rintro ⟨hrepeated, hlefts⟩
    have hassigned := (assignedColumns_eq_iff update).mpr hrepeated
    exact ⟨fun _ => (columnsUpdated_update update).trans hassigned,
      (readsScanned_iff update).mpr hlefts, keysCounted hrepeated, cascadesIncluded hrepeated⟩

lemma directOverlap {first second : Update} (hfirst : first.TargetsRepeated)
    (hsecond : second.TargetsRepeated) (htable : first.table.name = second.table.name)
    {column : String} (hc : column ∈ first.assigned) (hc' : column ∈ second.assigned) :
    directWriteWriteOverlap (metadataOf context compatible first.statement)
      (metadataOf context compatible' second.statement) := by
  have htables : (metadataOf context compatible first.statement).tableUpdated =
      some first.table.name := rfl
  have htables' : (metadataOf context compatible' second.statement).tableUpdated =
      some second.table.name := rfl
  have hrequired : requiredUpdatedTable (metadataOf context compatible first.statement) =
      first.table.name := rfl
  have hkinds : isInsertStatement (metadataOf context compatible first.statement) = false ∧
      isInsertStatement (metadataOf context compatible' second.statement) = false ∧
      isDeleteStatement (metadataOf context compatible first.statement) = false :=
    ⟨rfl, rfl, rfl⟩
  have hoverlap : metadataWriteOverlap (metadataOf context compatible' second.statement)
      second.table.name first.assigned ≠ ∅ := overlap_of_mem hsecond hc hc'
  have hcolumns : (metadataOf context compatible first.statement).columnsUpdated =
      first.assigned :=
    (columnsUpdated_update first).trans ((assignedColumns_eq_iff first).mpr hfirst)
  unfold directWriteWriteOverlap
  simp [sameWrittenTable, htables, htables', htable, hkinds, hrequired, hcolumns, hoverlap]

lemma writeWriteReported {first second : Update} (hfirst : first.TargetsRepeated)
    (hsecond : second.TargetsRepeated) : WriteWriteReported context first second := by
  intro htable hcommon current remaining other currentStatements otherStatements hcurrent hmem
    hother hmem' hremaining
  obtain ⟨column, hc, hc'⟩ := hcommon
  obtain ⟨logged, hlogged, compatible, hmetadata⟩ := exists_logged hcurrent hmem
  obtain ⟨logged', hlogged', compatible', hmetadata'⟩ := exists_logged hother hmem'
  have hparsed : ParsedIn context logged.metadata := hmetadata ▸ metadataOf_parsedIn _
  have hparsed' : ParsedIn context logged'.metadata := hmetadata' ▸ metadataOf_parsedIn _
  have hdirect : directWriteWriteOverlap logged.metadata logged'.metadata := by
    rw [hmetadata, hmetadata']
    exact directOverlap hfirst hsecond htable hc hc'
  have hdirect' : directWriteWriteOverlap logged'.metadata logged.metadata := by
    rw [hmetadata, hmetadata']
    exact directOverlap hsecond hfirst htable.symm hc' hc
  constructor
  · have hne : ¬ (fromTransactions context remaining).isEmpty := by
      rw [isEmpty_fromTransactions]
      exact List.ne_nil_of_mem hremaining
    refine writeWrite_mem_kinds.mpr ⟨hne, ?_⟩
    refine (writeWriteConflictPossible_iff hcurrent.parsedIn).mpr
      ⟨logged, hlogged, other, hremaining, logged', hlogged', ?_⟩
    exact directWriteWriteOverlap_filtered hparsed hparsed' hdirect
  · intro enabledKinds currentBranch oursLabel theirsLabel henabled
    have hoverlap : transactionWriteWriteOverlap current.metadata other.metadata :=
      (transactionWriteWriteOverlap_iff hcurrent.parsedIn hother.parsedIn).mpr
        ⟨logged, hlogged, logged', hlogged', by simp [metadataWriteWriteOverlap, hdirect]⟩
    have hoverlap' : transactionWriteWriteOverlap other.metadata current.metadata :=
      (transactionWriteWriteOverlap_iff hother.parsedIn hcurrent.parsedIn).mpr
        ⟨logged', hlogged', logged, hlogged, by simp [metadataWriteWriteOverlap, hdirect']⟩
    exact ⟨(staticAnalysisMatching_hasKind ..).mpr (.inr (.inl ⟨henabled, rfl, hoverlap⟩)),
      (staticAnalysisMatching_hasKind ..).mpr (.inr (.inl ⟨henabled, rfl, hoverlap'⟩))⟩

end

/-- `UPDATE users SET (id, name) = (9, name)`. -/
def rowUpdate (name : String) : Update where
  ctes := []
  table := usersTable
  assignments := [(.row ["id", "name"], .node "TUPLE" [.literal "9", .literal name])]
  fromClause := none
  condition := none

def rowTransaction (branch : BranchName) (name : String) : LoggedTransaction :=
  singleTransaction usersContext branch
    ⟨"UPDATE users SET (id, name) = (9, '" ++ name ++ "')", none, false⟩
    (rowUpdate name).statement

end SqliteReconcile.AssignedColumns
