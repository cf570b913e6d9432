import SqliteReconcile.ReplayRestoration
import SqliteReconcile.StatementSyntax
import SqliteReconcile.WriteWriteFilter

/-!
# Probe queries that SQLite rejects

Where a query of `checkNext` can be rejected, and what the check returns then.
-/
namespace SqliteReconcile.ProbeRejections
open Models StaticAnalysis Programs Savepoints Connection AcceptedReplay RemainingExecution
  ReplayRestoration StatementSyntax WriteWriteFilter

section

variable {D R C : Type} (engine : Engine D R) (context : ReplayContext C)

def Rejected {α : Type} (call : Program D R C α) (w : Working D R C) : Prop :=
  ∃ error w', call w = .error (.sqlite error) w'

inductive PairRejected (currentBranch : BranchName) (probeTables : List WriteProbeTable)
    (otherSelect : String) (w : Working D R C) : List (ℕ × ℕ) → Prop
  | here {pair rest table} :
    probeTables.find? (·.statementIndex = currentIndex currentBranch pair) = some table →
    Rejected (query engine (intersectQuery table.name otherSelect)) w →
    PairRejected currentBranch probeTables otherSelect w (pair :: rest)
  | later {pair rest table} :
    probeTables.find? (·.statementIndex = currentIndex currentBranch pair) = some table →
    query engine (intersectQuery table.name otherSelect) w = .ok [] w →
    PairRejected currentBranch probeTables otherSelect w rest →
    PairRejected currentBranch probeTables otherSelect w (pair :: rest)

/-- A query about one opposite statement is rejected: its stored keys, or a comparison. -/
inductive OtherRejected (currentBranch : BranchName) (probeTables : List WriteProbeTable)
    (statement : LoggedStatement) (pairs : List (ℕ × ℕ)) (w : Working D R C) : Prop
  | keys {probe table w₁ w₂} :
    statementWriteProbeSql context statement false w = .ok (some probe) w₁ → 1 < pairs.length →
    (tempProbeResultTableName : Program D R C String) w₁ = .ok table w₂ →
    Rejected (createProbeResultTable engine table probe) w₂ →
    OtherRejected currentBranch probeTables statement pairs w
  | stored {probe table w₁ w₂ w₃} :
    statementWriteProbeSql context statement false w = .ok (some probe) w₁ → 1 < pairs.length →
    (tempProbeResultTableName : Program D R C String) w₁ = .ok table w₂ →
    createProbeResultTable engine table probe w₂ = .ok () w₃ →
    PairRejected engine currentBranch probeTables (selectAll table) w₃ pairs →
    OtherRejected currentBranch probeTables statement pairs w
  | inline {probe w₁} :
    statementWriteProbeSql context statement false w = .ok (some probe) w₁ →
    pairs.length ≤ 1 →
    PairRejected engine currentBranch probeTables ("SELECT * FROM (" ++ probe ++ ")") w₁ pairs →
    OtherRejected currentBranch probeTables statement pairs w

def tablesOf (tables : List WriteProbeTable) (statement : LoggedStatement) :
    List WriteProbeTable :=
  tables.filter (·.targetTable = requiredUpdatedTable statement.metadata)

/-- A query about some opposite statement is rejected. -/
inductive OverlapRejected (currentBranch : BranchName) (ours theirs : LoggedTransaction)
    (tables : List WriteProbeTable) (candidatePairs : List (ℕ × ℕ)) (orderLabel : String) :
    List (LoggedStatement × ℕ) → Working D R C → Prop
  | here {statement otherIndex rest w} :
    candidatePairsForOtherStatement currentBranch candidatePairs otherIndex ≠ [] →
    tablesOf tables statement ≠ [] →
    OtherRejected engine context currentBranch (tablesOf tables statement) statement
      (candidatePairsForOtherStatement currentBranch candidatePairs otherIndex) w →
    OverlapRejected currentBranch ours theirs tables candidatePairs orderLabel
      ((statement, otherIndex) :: rest) w
  | later {statement otherIndex rest w w₁ w₂} :
    compareOtherStatement engine context currentBranch ours theirs tables statement
      (candidatePairsForOtherStatement currentBranch candidatePairs otherIndex) w = .ok none w₁ →
    executeStatementOnMain engine statement .pair orderLabel true w₁ = .ok none w₂ →
    OverlapRejected currentBranch ours theirs tables candidatePairs orderLabel rest w₂ →
    OverlapRejected currentBranch ours theirs tables candidatePairs orderLabel
      ((statement, otherIndex) :: rest) w

/-- A query of the write-write check is rejected. -/
structure WriteWriteRejected (currentBranch : BranchName) (ours theirs : LoggedTransaction)
    (result : ConflictCheckResult) (w : Working D R C) : Prop where
  static : result.hasKind .writeWrite = true
  direct : hasCascadeMetadataConflict result .writeWrite = false
  candidates : writeWriteCandidatePairs ours.metadata theirs.metadata ≠ []
  rejected : ∃ tables, w.scanner.currentWriteProbeTables = some tables ∧
    ((writeWriteCandidatePairs ours.metadata theirs.metadata).map
      (currentIndex currentBranch)).all (· ∈ tables.map (·.statementIndex)) = true ∧
    OverlapRejected engine context currentBranch ours theirs tables
      (writeWriteCandidatePairs ours.metadata theirs.metadata)
      (transactionLabel (otherOf currentBranch ours theirs))
      (otherOf currentBranch ours theirs).statements.zipIdx
      (w.enter "sqlite_merge_remaining_write_probe_")

/-- The queries about one reader: the one that counts its output columns while its probe is
built, the one that looks for duplicate target rows, and those that compare what it reads. -/
inductive ReadProbe
  | outputCount
  | duplicates
  | rows
  deriving DecidableEq

def compareRows (beforeTable afterTable probe controlProbe : String) :
    Program D R C (Except (Option String) Bool) := do
  createProbeResultTable engine beforeTable probe
  createProbeResultTable engine afterTable controlProbe
  let rows ← query engine (selectDifferenceQuery (selectAll beforeTable) (selectAll afterTable))
  return .ok !rows.isEmpty

inductive CompareRejected (metadata : StatementMetadata) (probe : String) (w : Working D R C) :
    ReadProbe → Prop
  | duplicates {controlProbe w₁} :
    lookup (context.controlSqlForProbe probe) w = .ok (some controlProbe) w₁ →
    Rejected (readerHasDuplicates engine context metadata probe controlProbe) w₁ →
    CompareRejected metadata probe w .duplicates
  | rows {controlProbe beforeTable afterTable w₁ w₂ w₃ w₄} :
    lookup (context.controlSqlForProbe probe) w = .ok (some controlProbe) w₁ →
    readerHasDuplicates engine context metadata probe controlProbe w₁ = .ok false w₂ →
    (tempProbeResultTableName : Program D R C String) w₂ = .ok beforeTable w₃ →
    (tempProbeResultTableName : Program D R C String) w₃ = .ok afterTable w₄ →
    Rejected (compareRows engine beforeTable afterTable probe controlProbe) w₄ →
    CompareRejected metadata probe w .rows

/-- A query about some reader is rejected. A rejected column count leaves no probe. -/
inductive ReadRejected (indexes : List ℕ) (orderLabel : String) (which : ReadProbe) :
    List (LoggedStatement × ℕ) → Working D R C → Prop
  | build {statement index rest reason w w₁} : index ∈ indexes →
    lookup (context.readProbeResult statement.metadata) w = .ok (.notRefined reason) w₁ →
    which = .outputCount →
    ReadRejected indexes orderLabel which ((statement, index) :: rest) w
  | here {statement index rest sql w w₁} : index ∈ indexes →
    lookup (context.readProbeResult statement.metadata) w = .ok (.ok sql) w₁ →
    CompareRejected engine context statement.metadata sql w₁ which →
    ReadRejected indexes orderLabel which ((statement, index) :: rest) w
  | later {statement index rest reads w w₁ w₂ w₃} :
    readerAffected engine context indexes statement index w = .ok (.ok reads) w₁ →
    executeStatementOnMain engine statement .pair orderLabel true w₁ = .ok none w₂ →
    executeStatementOnControl engine context statement .pair orderLabel true w₂ = .ok none w₃ →
    ReadRejected indexes orderLabel which rest w₃ →
    ReadRejected indexes orderLabel which ((statement, index) :: rest) w

structure WriteReadRejected (currentTransaction other : LoggedTransaction)
    (result : ConflictCheckResult) (which : ReadProbe) (w : Working D R C) : Prop where
  static : result.hasKind .writeRead = true
  direct : hasCascadeMetadataConflict result .writeRead = false
  candidates : writeReadCandidateIndexes currentTransaction.metadata other.metadata ≠ []
  rejected : ReadRejected engine context
    (writeReadCandidateIndexes currentTransaction.metadata other.metadata)
    (transactionLabel other) which other.statements.zipIdx
    (w.enter "sqlite_merge_remaining_read_probe_")

inductive WriteReadStarts (enabledKinds : Finset ConflictKind) (currentBranch : BranchName)
    (ours theirs : LoggedTransaction) (staticResult : ConflictCheckResult) (w : Working D R C) :
    ConflictCheckResult → Working D R C → Prop
  | refined {result w'} : .writeWrite ∈ enabledKinds →
    checkWriteWrite engine context currentBranch ours theirs staticResult w = .ok result w' →
    result.hasKind .writeWrite = false →
    WriteReadStarts enabledKinds currentBranch ours theirs staticResult w result w'
  | skipped : .writeWrite ∉ enabledKinds →
    WriteReadStarts enabledKinds currentBranch ours theirs staticResult w staticResult w

def ReadRejectedInNext (enabledKinds : Finset ConflictKind)
    (currentTransaction : LoggedTransaction) (currentBranch : BranchName)
    (ours theirs : LoggedTransaction) (staticResult : ConflictCheckResult) (which : ReadProbe)
    (w : Working D R C) : Prop :=
  .writeRead ∈ enabledKinds ∧ ∃ result w',
    WriteReadStarts engine context enabledKinds currentBranch ours theirs staticResult
      (w.enter "sqlite_merge_remaining_next_") result w' ∧
    WriteReadRejected engine context currentTransaction (otherOf currentBranch ours theirs)
      result which w'

/-- `checkNext` returns, and its result has a kind. -/
def ReturnsKind (enabledKinds : Finset ConflictKind) (currentTransaction : LoggedTransaction)
    (currentBranch : BranchName) (ours theirs : LoggedTransaction)
    (staticResult : ConflictCheckResult) (kind : ConflictKind) (w : Working D R C) : Prop :=
  ∃ result w', checkNext engine context enabledKinds currentTransaction currentBranch ours theirs
    staticResult w = .ok result w' ∧ result.hasKind kind = true

end

variable {D R C : Type} {engine : Engine D R} {context : ReplayContext C}

/-- The engine with statements that always succeed. -/
def quiet (engine : Engine D R) : Engine D R :=
  { engine with execute := fun _ copies => .done copies }

lemma quiet_not_rollsBack : ¬ RollsBack (quiet engine) := by
  rintro ⟨sql, copies, error, h⟩
  cases h

lemma framed_of_quiet {w w' : Working D R C} (h : Within (quiet engine) w w') : Framed w w' := by
  rcases h with hframed | hlost
  · exact hframed
  · exact absurd hlost.rollsBack quiet_not_rollsBack

lemma framed_trans {w w' w'' : Working D R C} (h : Framed w w') (h' : Framed w' w'') :
    Framed w w'' :=
  ⟨h'.saved.trans h.saved, h'.scanner.trans h.scanner⟩

lemma comparePairs_quiet (currentBranch : BranchName) (ours theirs : LoggedTransaction)
    (probeTables : List WriteProbeTable) (otherSelect : String) (pairs : List (ℕ × ℕ)) :
    (comparePairs (quiet engine) currentBranch ours theirs probeTables otherSelect pairs :
      Program D R C _) =
      comparePairs engine currentBranch ours theirs probeTables otherSelect pairs := by
  induction pairs with
  | nil => rfl
  | cons pair rest ih =>
    unfold comparePairs
    rw [ih]
    rfl

lemma framed_compareOtherStatement {currentBranch : BranchName} {ours theirs : LoggedTransaction}
    {tables : List WriteProbeTable} {statement : LoggedStatement} {pairs : List (ℕ × ℕ)}
    {w w' : Working D R C} {answer : Option WriteWriteOverlap}
    (h : compareOtherStatement engine context currentBranch ours theirs tables statement pairs w =
      .ok answer w') : Framed w w' := by
  have hquiet : compareOtherStatement (quiet engine) context currentBranch ours theirs tables
      statement pairs =
      compareOtherStatement engine context currentBranch ours theirs tables statement pairs := by
    unfold compareOtherStatement
    simp only [comparePairs_quiet]
    rfl
  have hmoves := @moves_compareOtherStatement D R C (quiet engine) context currentBranch ours
    theirs tables statement pairs
  rw [hquiet] at hmoves
  exact framed_of_quiet (hmoves.ok h)

lemma framed_readerAffected {indexes : List ℕ} {statement : LoggedStatement} {index : ℕ}
    {w w' : Working D R C} {answer : Except (Option String) Bool}
    (h : readerAffected engine context indexes statement index w = .ok answer w') :
    Framed w w' := by
  have hmoves := @moves_readerAffected D R C (quiet engine) context indexes statement index
  exact framed_of_quiet (hmoves.ok h)

lemma framed_executeStatementOnMain {statement : LoggedStatement} {scope : ConflictScope}
    {orderLabel : String} {deferred : Bool} {w w' : Working D R C}
    (h : executeStatementOnMain engine statement scope orderLabel deferred w = .ok none w') :
    Framed w w' := by
  obtain ⟨after, -, rfl, -⟩ := executeSqlForReplay_none h
  exact ⟨rfl, rfl⟩

lemma framed_executeStatementOnControl {statement : LoggedStatement} {scope : ConflictScope}
    {orderLabel : String} {deferred : Bool} {w w' : Working D R C}
    (h : executeStatementOnControl engine context statement scope orderLabel deferred w =
      .ok none w') : Framed w w' := by
  obtain ⟨sql, caches, after, -, -, rfl, -⟩ := executeStatementOnControl_none h
  exact ⟨rfl, rfl⟩

lemma tryQueryHasRow_rejected {sql : String} {w : Working D R C}
    (h : Rejected (query engine sql) w) : tryQueryHasRow engine sql w = .ok none w := by
  obtain ⟨error, w', h⟩ := h
  have hw : w' = w := by
    unfold query at h
    cases hquery : engine.query sql w.copies with
    | ok rows =>
      rw [hquery] at h
      cases h
    | error error =>
      rw [hquery] at h
      cases h
      rfl
  subst hw
  unfold tryQueryHasRow exceptSqlite catching
  rw [bind_error h]
  rfl

lemma comparePairs_rejected (ours theirs : LoggedTransaction) {currentBranch : BranchName}
    {probeTables : List WriteProbeTable} {otherSelect : String} {w : Working D R C}
    {pairs : List (ℕ × ℕ)}
    (h : PairRejected engine currentBranch probeTables otherSelect w pairs) :
    comparePairs engine currentBranch ours theirs probeTables otherSelect pairs w =
      .ok (some .notRefined) w := by
  induction h with
  | here hfind hrejected =>
    unfold comparePairs
    simp only [hfind]
    rw [bind_ok (tryQueryHasRow_rejected hrejected)]
    rfl
  | @later pair rest table hfind hquery _ ih =>
    unfold comparePairs
    simp only [hfind]
    have htry : tryQueryHasRow engine (intersectQuery table.name otherSelect) w =
        .ok (some false) w := by
      unfold tryQueryHasRow exceptSqlite catching
      rw [bind_ok hquery]
      rfl
    rw [bind_ok htry]
    exact ih

lemma tryCreateProbeResultTable_rejected {table probe : String} {w : Working D R C}
    (h : Rejected (createProbeResultTable engine table probe) w) :
    ∃ w', tryCreateProbeResultTable engine table probe w = .ok false w' := by
  obtain ⟨error, w', h⟩ := h
  refine ⟨w', ?_⟩
  unfold tryCreateProbeResultTable exceptSqlite catching
  rw [bind_error h]
  rfl

lemma tryCreateProbeResultTable_ok {table probe : String} {w w' : Working D R C}
    (h : createProbeResultTable engine table probe w = .ok () w') :
    tryCreateProbeResultTable engine table probe w = .ok true w' := by
  unfold tryCreateProbeResultTable exceptSqlite catching
  rw [bind_ok h]
  rfl

lemma compareOtherStatement_rejected (ours theirs : LoggedTransaction)
    {currentBranch : BranchName} {tables : List WriteProbeTable}
    {statement : LoggedStatement} {pairs : List (ℕ × ℕ)} {w : Working D R C}
    (hpairs : pairs ≠ []) (htables : tablesOf tables statement ≠ [])
    (h : OtherRejected engine context currentBranch (tablesOf tables statement) statement
      pairs w) :
    ∃ w', compareOtherStatement engine context currentBranch ours theirs tables statement pairs
      w = .ok (some .notRefined) w' := by
  unfold tablesOf at htables h
  unfold compareOtherStatement
  rw [if_neg hpairs, if_neg htables]
  cases h with
  | @keys probe table w₁ w₂ hprobe hmany hname hrejected =>
    obtain ⟨w₃, hcreate⟩ := tryCreateProbeResultTable_rejected hrejected
    rw [bind_ok hprobe]
    dsimp only
    rw [if_pos hmany, bind_ok hname]
    unfold Programs.withCleanup
    rw [bind_ok hcreate]
    exact ⟨_, rfl⟩
  | @stored probe table w₁ w₂ w₃ hprobe hmany hname hcreate hrejected =>
    rw [bind_ok hprobe]
    dsimp only
    rw [if_pos hmany, bind_ok hname]
    unfold Programs.withCleanup
    rw [bind_ok (tryCreateProbeResultTable_ok hcreate)]
    have hcompare := comparePairs_rejected ours theirs hrejected
    simp only [if_true]
    rw [hcompare]
    exact ⟨_, rfl⟩
  | @inline probe w₁ hprobe hone hrejected =>
    rw [bind_ok hprobe]
    dsimp only
    rw [if_neg (by omega)]
    exact ⟨w₁, comparePairs_rejected ours theirs hrejected⟩

lemma overlapStatements_rejected {currentBranch : BranchName} {ours theirs : LoggedTransaction}
    {tables : List WriteProbeTable} {candidatePairs : List (ℕ × ℕ)} {orderLabel : String}
    {statements : List (LoggedStatement × ℕ)} {w : Working D R C}
    (h : OverlapRejected engine context currentBranch ours theirs tables candidatePairs orderLabel
      statements w) :
    ∃ w', overlapStatements engine context currentBranch ours theirs tables candidatePairs
      orderLabel statements w = .ok .notRefined w' ∧ Framed w w' := by
  induction h with
  | here hpairs htables hrejected =>
    obtain ⟨w', hcompare⟩ := compareOtherStatement_rejected ours theirs hpairs htables
      hrejected
    refine ⟨w', ?_, framed_compareOtherStatement hcompare⟩
    unfold overlapStatements
    rw [bind_ok hcompare]
    rfl
  | later hcompare hexecute _ ih =>
    obtain ⟨w', hrest, hframed⟩ := ih
    have hkept := framed_trans (framed_compareOtherStatement hcompare)
      (framed_executeStatementOnMain hexecute)
    refine ⟨w', ?_, framed_trans hkept hframed⟩
    unfold overlapStatements
    rw [bind_ok hcompare]
    dsimp only
    rw [bind_ok hexecute]
    exact hrest

lemma checkWriteWrite_rejected {currentBranch : BranchName} {ours theirs : LoggedTransaction}
    {result : ConflictCheckResult} {w : Working D R C}
    (h : WriteWriteRejected engine context currentBranch ours theirs result w) :
    ∃ w', checkWriteWrite engine context currentBranch ours theirs result w = .ok result w' ∧
      Framed w w' := by
  obtain ⟨tables, htables, hknown, hrejected⟩ := h.rejected
  obtain ⟨w₁, hoverlap, hframed⟩ := overlapStatements_rejected hrejected
  obtain ⟨w', hfind, hrestored⟩ := discarding_ok hoverlap hframed
  refine ⟨w', ?_, hrestored.framed⟩
  have hfields : (scannerFields : Program D R C ScannerFields) w = .ok w.scanner w := rfl
  unfold checkWriteWrite
  simp only [h.static, h.direct, Bool.not_true, Bool.or_self, Bool.false_eq_true, if_false,
    h.candidates]
  rw [bind_ok hfields]
  simp only [htables, hknown, if_true]
  rw [bind_ok (show findWriteWriteOverlap engine context currentBranch ours theirs tables _ w = _
    from hfind)]
  rfl

lemma compareReads_rejected {metadata : StatementMetadata} {probe : String} {w : Working D R C}
    (h : CompareRejected engine context metadata probe w .rows) :
    ∃ reason w', compareReads engine context metadata probe w = .ok (.error reason) w' := by
  cases h with
  | rows hcontrol hduplicates hbefore hafter hrejected =>
    obtain ⟨error, w₅, hcompare⟩ := hrejected
    unfold compareReads
    rw [bind_ok hcontrol]
    dsimp only
    rw [bind_ok hduplicates]
    simp only [Bool.false_eq_true, if_false]
    rw [bind_ok hbefore, bind_ok hafter]
    unfold Programs.withCleanup exceptSqlite catching
    obtain hcreate | ⟨u, w₆, hcreate, hrest⟩ := error_of_bind hcompare
    · rw [bind_error hcreate]
      exact ⟨_, _, rfl⟩
    rw [bind_ok hcreate]
    obtain hcreate' | ⟨u', w₇, hcreate', hrest'⟩ := error_of_bind hrest
    · rw [bind_error hcreate']
      exact ⟨_, _, rfl⟩
    rw [bind_ok hcreate']
    obtain hquery | ⟨rows, w₈, -, hend⟩ := error_of_bind hrest'
    · rw [bind_error hquery]
      exact ⟨_, _, rfl⟩
    · cases hend

/-- The duplicate check is made outside the `try` of the comparison. -/
lemma compareReads_duplicates {metadata : StatementMetadata} {probe : String}
    {w : Working D R C}
    (h : CompareRejected engine context metadata probe w .duplicates) :
    Rejected (compareReads engine context metadata probe) w := by
  cases h with
  | duplicates hcontrol hrejected =>
    obtain ⟨error, w', hduplicates⟩ := hrejected
    refine ⟨error, w', ?_⟩
    unfold compareReads
    rw [bind_ok hcontrol]
    dsimp only
    rw [bind_error hduplicates]

variable (engine) in
lemma readerAffected_probe {indexes : List ℕ} {statement : LoggedStatement} {index : ℕ}
    {sql : String} {w w' : Working D R C} (hindex : index ∈ indexes)
    (h : lookup (context.readProbeResult statement.metadata) w = .ok (.ok sql) w') :
    readerAffected engine context indexes statement index w =
      compareReads engine context statement.metadata sql w' := by
  unfold readerAffected
  rw [if_pos hindex, bind_ok h]

lemma readStatements_rejected {indexes : List ℕ} {orderLabel : String} {which : ReadProbe}
    {statements : List (LoggedStatement × ℕ)} {w : Working D R C}
    (h : ReadRejected engine context indexes orderLabel which statements w) :
    ∀ affected : List ℕ,
      (which ≠ .duplicates → ∃ reason w', readStatements engine context indexes orderLabel
        statements affected w = .ok (.notRefined reason) w' ∧ Framed w w') ∧
      (which = .duplicates → ∃ error w', readStatements engine context indexes orderLabel
        statements affected w = .error (.sqlite error) w' ∧ Framed w w') := by
  induction h with
  | @build statement index rest reason w w₁ hindex hlookup hwhich =>
    intro affected
    have hread : readerAffected engine context indexes statement index w =
        .ok (.error reason) w₁ := by
      unfold readerAffected
      rw [if_pos hindex, bind_ok hlookup]
      rfl
    refine ⟨fun _ => ⟨reason, w₁, ?_, framed_readerAffected hread⟩, ?_⟩
    · unfold readStatements
      rw [bind_ok hread]
      rfl
    · intro hduplicates
      rw [hwhich] at hduplicates
      cases hduplicates
  | @here statement index rest sql w w₁ hindex hlookup hrejected =>
    intro affected
    have hread := readerAffected_probe engine hindex hlookup
    constructor
    · intro hwhich
      have hrows : CompareRejected engine context statement.metadata sql w₁ .rows := by
        cases hrejected with
        | duplicates => exact absurd rfl hwhich
        | rows hcontrol hduplicates hbefore hafter hrows =>
          exact .rows hcontrol hduplicates hbefore hafter hrows
      obtain ⟨reason, w', hcompare⟩ := compareReads_rejected hrows
      rw [← hread] at hcompare
      refine ⟨reason, w', ?_, framed_readerAffected hcompare⟩
      unfold readStatements
      rw [bind_ok hcompare]
      rfl
    · intro hwhich
      subst hwhich
      obtain ⟨error, w', hcompare⟩ := compareReads_duplicates hrejected
      have hmoves := @moves_readerAffected D R C (quiet engine) context indexes statement index
      rw [← hread] at hcompare
      refine ⟨error, w', ?_, framed_of_quiet (hmoves.error hcompare)⟩
      unfold readStatements
      rw [bind_error hcompare]
  | @later statement index rest reads w w₁ w₂ w₃ hread hmain hcontrol _ ih =>
    intro affected
    have hkept : Framed w w₃ := framed_trans (framed_readerAffected hread)
      (framed_trans (framed_executeStatementOnMain hmain)
        (framed_executeStatementOnControl hcontrol))
    have hstep : readStatements engine context indexes orderLabel ((statement, index) :: rest)
        affected w = readStatements engine context indexes orderLabel rest
          (if reads then affected ++ [index] else affected) w₃ := by
      conv_lhs => unfold readStatements
      rw [bind_ok hread]
      dsimp only
      rw [bind_ok hmain]
      dsimp only
      rw [bind_ok hcontrol]
    obtain ⟨hopen, hraised⟩ := ih (if reads then affected ++ [index] else affected)
    rw [hstep]
    constructor
    · intro hwhich
      obtain ⟨reason, w', hrest, hframed⟩ := hopen hwhich
      exact ⟨reason, w', hrest, framed_trans hkept hframed⟩
    · intro hwhich
      obtain ⟨error, w', hrest, hframed⟩ := hraised hwhich
      exact ⟨error, w', hrest, framed_trans hkept hframed⟩

section

variable {currentTransaction other : LoggedTransaction} {result : ConflictCheckResult}
  {which : ReadProbe} {w : Working D R C}

lemma checkWriteRead_rejected
    (h : WriteReadRejected engine context currentTransaction other result which w) :
    (which ≠ .duplicates → ∃ w', checkWriteRead engine context currentTransaction other result w =
      .ok result w' ∧ Framed w w') ∧
    (which = .duplicates → ∃ error w', checkWriteRead engine context currentTransaction other
      result w = .error (.sqlite error) w' ∧ Framed w w') := by
  obtain ⟨hopen, hraised⟩ := readStatements_rejected h.rejected []
  have hrun : rollingWriteReadDependency engine context currentTransaction other =
      discarding engine "sqlite_merge_remaining_read_probe_"
        (readStatements engine context
          (writeReadCandidateIndexes currentTransaction.metadata other.metadata)
          (transactionLabel other) other.statements.zipIdx []) := by
    unfold rollingWriteReadDependency
    dsimp only
    rw [if_neg h.candidates]
  unfold checkWriteRead
  simp only [h.static, h.direct, Bool.not_true, Bool.or_self, Bool.false_eq_true, if_false, hrun]
  constructor
  · intro hwhich
    obtain ⟨reason, w₁, hread, hframed⟩ := hopen hwhich
    obtain ⟨w', hdependency, hrestored⟩ := discarding_ok hread hframed
    refine ⟨w', ?_, hrestored.framed⟩
    rw [bind_ok hdependency]
    rfl
  · intro hwhich
    obtain ⟨error, w₁, hread, hframed⟩ := hraised hwhich
    obtain ⟨w', hdependency, hrestored⟩ := discarding_error hread hframed
    exact ⟨error, w', bind_error hdependency, hrestored.framed⟩

end

section

variable {enabledKinds : Finset ConflictKind} {currentTransaction : LoggedTransaction}
  {currentBranch : BranchName} {ours theirs : LoggedTransaction}
  {staticResult : ConflictCheckResult} {w : Working D R C}

lemma returnsKind_of_checkPair {result : ConflictCheckResult} {kind : ConflictKind}
    {w' : Working D R C}
    (h : checkPair engine context enabledKinds currentTransaction currentBranch ours theirs
      staticResult (w.enter "sqlite_merge_remaining_next_") = .ok result w')
    (hframed : Framed (w.enter "sqlite_merge_remaining_next_") w')
    (hkind : result.hasKind kind = true) :
    ReturnsKind engine context enabledKinds currentTransaction currentBranch ours theirs
      staticResult kind w := by
  have hconflict : result.hasConflict = true := by
    rw [ConflictCheckResult.hasConflict_iff]
    exact ⟨kind, hkind⟩
  have hroll := @rollbackSavepoint_top D R C engine w' _ _ _ hframed.saved
  refine ⟨result, { w' with stack := ⟨w.copies, w.saved⟩ }, ?_, hkind⟩
  unfold checkNext
  rw [inSavepoint_apply]
  unfold orRollBack catching checkInside
  rw [bind_ok h]
  simp only [hconflict, if_true]
  rw [bind_ok hroll]
  rfl

lemma raises_of_checkPair {e : Exn} {w' : Working D R C}
    (h : checkPair engine context enabledKinds currentTransaction currentBranch ours theirs
      staticResult (w.enter "sqlite_merge_remaining_next_") = .error e w')
    (hframed : Framed (w.enter "sqlite_merge_remaining_next_") w') :
    ∃ w'', checkNext engine context enabledKinds currentTransaction currentBranch ours theirs
      staticResult w = .error e w'' := by
  have hroll := @rollbackSavepoint_top D R C engine w' _ _ _ hframed.saved
  refine ⟨{ w' with stack := ⟨w.copies, w.saved⟩ }, ?_⟩
  unfold checkNext
  rw [inSavepoint_apply]
  unfold orRollBack catching checkInside
  rw [bind_error h]
  dsimp only
  rw [bind_ok hroll]
  rfl

lemma framed_writeReadStarts {result : ConflictCheckResult} {w' : Working D R C}
    (h : WriteReadStarts engine context enabledKinds currentBranch ours theirs staticResult w
      result w') : Framed w w' := by
  cases h with
  | refined _ hcheck _ => exact ((scoped_checkWriteWrite _ _ _ _).ok hcheck).framed
  | skipped => exact ⟨rfl, rfl⟩

lemma checkPair_reads {result : ConflictCheckResult} {w' : Working D R C}
    (hreads : .writeRead ∈ enabledKinds)
    (h : WriteReadStarts engine context enabledKinds currentBranch ours theirs staticResult w
      result w') :
    checkPair engine context enabledKinds currentTransaction currentBranch ours theirs
      staticResult w =
      checkWriteRead engine context currentTransaction (otherOf currentBranch ours theirs)
        result w' := by
  unfold checkPair checkReads
  cases h with
  | refined hwrites hcheck hrefined =>
    rw [if_pos hwrites, bind_ok hcheck]
    simp only [hrefined, Bool.false_eq_true, if_false, if_pos hreads]
  | skipped hwrites => rw [if_neg hwrites, if_pos hreads]

lemma returnsKind_writeWrite (hwrites : .writeWrite ∈ enabledKinds)
    (h : WriteWriteRejected engine context currentBranch ours theirs staticResult
      (w.enter "sqlite_merge_remaining_next_")) :
    ReturnsKind engine context enabledKinds currentTransaction currentBranch ours theirs
      staticResult .writeWrite w := by
  obtain ⟨w', hcheck, hframed⟩ := checkWriteWrite_rejected h
  apply returnsKind_of_checkPair _ hframed h.static
  unfold checkPair
  rw [if_pos hwrites, bind_ok hcheck]
  simp only [h.static, if_true]
  rfl

lemma returnsKind_writeRead {which : ReadProbe} (hwhich : which ≠ .duplicates)
    (h : ReadRejectedInNext engine context enabledKinds currentTransaction currentBranch ours
      theirs staticResult which w) :
    ReturnsKind engine context enabledKinds currentTransaction currentBranch ours theirs
      staticResult .writeRead w := by
  obtain ⟨hreads, result, w₁, hstarts, hrejected⟩ := h
  obtain ⟨w', hcheck, hframed⟩ := (checkWriteRead_rejected hrejected).1 hwhich
  rw [← checkPair_reads hreads hstarts] at hcheck
  exact returnsKind_of_checkPair hcheck (framed_trans (framed_writeReadStarts hstarts) hframed)
    hrejected.static

/-- A rejected duplicate check leaves `checkNext` as a `sqlite3.Error`. -/
lemma rejected_of_duplicates
    (h : ReadRejectedInNext engine context enabledKinds currentTransaction currentBranch ours
      theirs staticResult .duplicates w) :
    Rejected (checkNext engine context enabledKinds currentTransaction currentBranch ours theirs
      staticResult) w := by
  obtain ⟨hreads, result, w₁, hstarts, hrejected⟩ := h
  obtain ⟨error, w', hcheck, hframed⟩ := (checkWriteRead_rejected hrejected).2 rfl
  rw [← checkPair_reads hreads hstarts] at hcheck
  obtain ⟨w'', hnext⟩ := raises_of_checkPair hcheck
    (framed_trans (framed_writeReadStarts hstarts) hframed)
  exact ⟨error, w'', hnext⟩

end

section

variable (engine : Engine D R) (context : ReplayContext C) (enabledKinds : Finset ConflictKind)
  (currentTransaction : LoggedTransaction) (currentBranch : BranchName)
  (ours theirs : LoggedTransaction) (staticResult : ConflictCheckResult) (w : Working D R C)

/-- Every rejected query of `checkNext` leaves a result that still has the kind that the query
was to refine. -/
structure KeepsRejectedKinds : Prop where
  writeWrite : .writeWrite ∈ enabledKinds →
    WriteWriteRejected engine context currentBranch ours theirs staticResult
      (w.enter "sqlite_merge_remaining_next_") →
    ReturnsKind engine context enabledKinds currentTransaction currentBranch ours theirs
      staticResult .writeWrite w
  writeRead : ∀ which,
    ReadRejectedInNext engine context enabledKinds currentTransaction currentBranch ours theirs
      staticResult which w →
    ReturnsKind engine context enabledKinds currentTransaction currentBranch ours theirs
      staticResult .writeRead w

variable {engine context enabledKinds currentTransaction currentBranch ours theirs staticResult w}
  in
lemma not_keepsRejectedKinds
    (hrejected : ReadRejectedInNext engine context enabledKinds currentTransaction currentBranch
      ours theirs staticResult .duplicates w) :
    ¬ KeepsRejectedKinds engine context enabledKinds currentTransaction currentBranch ours theirs
      staticResult w := by
  intro h
  obtain ⟨result, w', hok, -⟩ := h.writeRead .duplicates hrejected
  obtain ⟨error, w'', herror⟩ := rejected_of_duplicates hrejected
  rw [hok] at herror
  cases herror

/-- Rejections keep their kind exactly when the duplicate check of an UPDATE FROM reader is not
rejected. -/
theorem keepsRejectedKinds_iff :
    KeepsRejectedKinds engine context enabledKinds currentTransaction currentBranch ours theirs
      staticResult w ↔
    ¬ ReadRejectedInNext engine context enabledKinds currentTransaction currentBranch ours theirs
      staticResult .duplicates w := by
  constructor
  · exact fun h hrejected => not_keepsRejectedKinds hrejected h
  · intro h
    refine ⟨returnsKind_writeWrite, ?_⟩
    intro which hrejected
    apply returnsKind_writeRead _ hrejected
    rintro rfl
    exact h hrejected

end

/-- `items(shop, k, a, PRIMARY KEY (shop, k))` and `prices(x INTEGER PRIMARY KEY, y)`. -/
def pricesContext : ConflictCheckContext where
  schemaCache :=
    { tableColumns := [("items", {"shop", "k", "a"}), ("prices", {"x", "y"})]
      primaryKeyColumns := [("items", ["shop", "k"]), ("prices", ["x"])]
      keyColumnSets := [("items", [{"shop", "k"}]), ("prices", [{"x"}])]
      integerPrimaryKeyColumns := [("items", none), ("prices", some "x")]
      foreignKeyEdges := [] }
  pragmaIntegerPrimaryKey := fun _ => none

def setPrice : LoggedTransaction :=
  singleTransaction pricesContext .ours ⟨"UPDATE prices SET y = 1 WHERE x = 1", none, false⟩
    (.update [] ⟨"prices", "", none⟩ [(.column "y", .literal "1")] none
      (some (.node "=" [.column "" "x", .literal "1"])))

def setItems : LoggedTransaction :=
  singleTransaction pricesContext .theirs
    ⟨"UPDATE items SET a = prices.y FROM prices WHERE prices.x = items.k", none, false⟩
    (.update [] ⟨"items", "", none⟩ [(.column "a", .column "prices" "y")]
      (some ⟨[.table ⟨"prices", "", none⟩], []⟩)
      (some (.node "=" [.column "prices" "x", .column "items" "k"])))

def itemsProbe : String :=
  "SELECT \"items\".\"shop\", \"items\".\"k\", prices.y AS __set_expr_1 FROM items, prices " ++
    "WHERE prices.x = items.k"

def itemsControlProbe : String :=
  "SELECT \"items\".\"shop\", \"items\".\"k\", prices.y AS __set_expr_1 " ++
    "FROM control.items AS items, control.prices AS prices WHERE prices.x = items.k"

def groupError : SqliteError :=
  ⟨false, "2nd GROUP BY term out of range - should be between 1 and 1"⟩

/-- SQLite takes the numbers of GROUP BY for columns of the outer SELECT, which has one. The
statements and the probes themselves run. -/
def itemsEngine : Engine Unit Unit where
  execute _ copies := .done copies
  query sql _ :=
    if sql ∈ [duplicateRowsQuery itemsProbe 2, duplicateRowsQuery itemsControlProbe 2] then
      .error groupError
    else .ok []
  foreignKeyCheck _ := .ok none
  logError _ := none
  commitError _ _ := none
  commitError_self _ := rfl

def itemsReplayContext : ReplayContext Unit where
  controlSchema := some "control"
  controlSqlFor statement caches := (some statement.sqlText, caches)
  controlSqlForProbe _ caches := (some itemsControlProbe, caches)
  strictConflictResolutionStatement _ caches := (.ok none, caches)
  affectedPrimaryKeySelect _ caches := (none, caches)
  readProbeResult _ caches := (.ok itemsProbe, caches)
  isUpdateFromStatement metadata := metadata.tableUpdated = some "items"
  primaryKeyColumns table := if table = "prices" then ["x"] else ["shop", "k"]

def itemsStatic : ConflictCheckResult :=
  pairAnalysis pricesContext .ours (some .ours) none none setPrice setItems

def refinedKinds : Finset ConflictKind := {.writeWrite, .writeRead}

def itemsWorking : Working Unit Unit Unit :=
  ⟨.new ⟨⟨(), ⟨0, [], []⟩⟩, ⟨(), ⟨0, [], []⟩⟩, fun _ => none⟩, 0, (), ⟨none, some []⟩⟩

/-- The analysis reports the read. The duplicate check groups by two columns where there is one,
and is rejected where no `try` catches it. -/
theorem compositeKeyProbe_leaves :
    itemsStatic.hasKind .writeRead ∧
      (∃ w', executeStatementOnMain itemsEngine (setItems.statements.head (by decide)) .pair ""
        true itemsWorking = .ok none w') ∧
      Rejected (checkNext itemsEngine itemsReplayContext refinedKinds setPrice .ours setPrice
        setItems itemsStatic) itemsWorking ∧
      ¬ KeepsRejectedKinds itemsEngine itemsReplayContext refinedKinds setPrice .ours setPrice
        setItems itemsStatic itemsWorking := by
  have hreads : itemsStatic.hasKind .writeRead = true := by decide +kernel
  have hwrites : itemsStatic.hasKind .writeWrite = false := by decide +kernel
  have hduplicates : ∀ w, Rejected (readerHasDuplicates itemsEngine itemsReplayContext
      (setItems.statements.head (by decide)).metadata itemsProbe itemsControlProbe) w := by
    intro w
    refine ⟨groupError, w, ?_⟩
    have hquery : query itemsEngine (duplicateRowsQuery itemsProbe 2) w =
        .error (.sqlite groupError) w := by
      simp only [query, itemsEngine, List.mem_cons, true_or, if_true]
    exact bind_error (bind_error hquery)
  have hrejected : ReadRejectedInNext itemsEngine itemsReplayContext refinedKinds setPrice .ours
      setPrice setItems itemsStatic .duplicates itemsWorking := by
    have hcheck : checkWriteWrite itemsEngine itemsReplayContext .ours setPrice setItems itemsStatic
        (itemsWorking.enter "sqlite_merge_remaining_next_") =
        .ok itemsStatic (itemsWorking.enter "sqlite_merge_remaining_next_") := by
      unfold checkWriteWrite
      simp only [hwrites, Bool.not_false, Bool.true_or, if_true]
      rfl
    exact ⟨by decide, itemsStatic, _, .refined (by decide) hcheck hwrites, hreads,
      by decide +kernel, by decide +kernel,
      .here (by decide +kernel) rfl (.duplicates rfl (hduplicates _))⟩
  exact ⟨hreads, ⟨_, rfl⟩, rejected_of_duplicates hrejected, not_keepsRejectedKinds hrejected⟩

end SqliteReconcile.ProbeRejections
