import SqliteReconcile.AcceptedReplay
import SqliteReconcile.StaticAnalysis

/-! The rolling execution scanner of one current transaction against the opposite suffix. -/
namespace SqliteReconcile.RemainingExecution
open Models StaticAnalysis Programs Savepoints Connection AcceptedReplay

inductive WriteReadProbeResult
  | affected (readerIndexes : List ℕ)
  | unaffected
  | notRefined (reason : Option String)

inductive WriteWriteOverlap
  | overlaps (ours theirs : LoggedStatement)
  | disjoint
  | notRefined

def quoteIdentifier (identifier : String) : String :=
  "\"" ++ identifier.replace "\"" "\"\"" ++ "\""

def selectAll (table : String) : String := "SELECT * FROM " ++ quoteIdentifier table

/-- Whether a temp probe table overlaps the rows of another SELECT. -/
def intersectQuery (table otherSelect : String) : String :=
  "SELECT 1 FROM (" ++ selectAll table ++ " INTERSECT " ++ otherSelect ++ ") LIMIT 1"

def selectDifferenceQuery (firstSelect secondSelect : String) : String :=
  "SELECT 1 FROM (SELECT 1 FROM (" ++ secondSelect ++ " EXCEPT " ++ firstSelect ++
    ") UNION ALL SELECT 1 FROM (" ++ firstSelect ++ " EXCEPT " ++ secondSelect ++ ")) LIMIT 1"

/-- `GROUP BY 1, 2, ...` over the primary-key columns of a probe. -/
def duplicateRowsQuery (probe : String) (pkCount : ℕ) : String :=
  "SELECT 1 FROM (" ++ probe ++ ") GROUP BY " ++
    ", ".intercalate ((List.range pkCount).map fun index => toString (index + 1)) ++
    " HAVING COUNT(*) > 1 LIMIT 1"

def transactionScopedStatementLabel (transaction : LoggedTransaction)
    (statement : LoggedStatement) : String :=
  match transaction.statements.findIdx? (· = statement) with
  | none => transactionLabel transaction
  | some index => transactionLabel transaction ++ "." ++ toString (index + 1)

def writeReadConflictMessage (writer reader : LoggedTransaction) (indexes : List ℕ) : String :=
  let statements := indexes.filterMap (reader.statements[·]?)
  let readerLabel := if statements = [] then transactionLabel reader
    else ", ".intercalate (statements.map (transactionScopedStatementLabel reader))
  readerLabel ++ " reads values affected by " ++ transactionLabel writer

def pairOrderLabel (current other : LoggedTransaction) : String :=
  transactionLabel current ++ " before " ++ transactionLabel other

def hasCascadeMetadataConflict (result : ConflictCheckResult) (kind : ConflictKind) : Bool :=
  (result.ofKind kind).any fun conflict => ("metadata_source", "cascade") ∈ conflict.details

section

variable {D R C : Type} (engine : Engine D R) (context : ReplayContext C)

def tempProbeResultTableName : Program D R C String := drawName "__sqlite_merge_probe_"

/-- Whether a table could be created. -/
def tryCreateProbeResultTable (name probe : String) : Program D R C Bool :=
  exceptSqlite (do createProbeResultTable engine name probe; return true) fun _ => return false

def statementWriteProbeSql (statement : LoggedStatement) (useControl : Bool) :
    Program D R C (Option String) := do
  match ← lookup (context.affectedPrimaryKeySelect statement.metadata) with
  | none => return none
  | some probe => if useControl then lookup (context.controlSqlForProbe probe) else return some probe

def statementWriteProbeTable (statement : LoggedStatement) (useControl : Bool) :
    Program D R C (Option String) := do
  match ← statementWriteProbeSql context statement useControl with
  | none => return none
  | some probe =>
    let tableName ← tempProbeResultTableName
    let created ← tryCreateProbeResultTable engine tableName probe
    return if created then some tableName else none

/-- Whether a query returns a row; `none` when SQLite refuses it. -/
def tryQueryHasRow (sql : String) : Program D R C (Option Bool) :=
  exceptSqlite (do let rows ← query engine sql; return some !rows.isEmpty) fun _ => return none

def scannerFields : Program D R C ScannerFields := fun w => .ok w.scanner w

def setSavepoint (name : Option String) : Program D R C Unit :=
  modify fun w => { w with scanner := { w.scanner with savepoint := name } }

def setWriteProbeTables (tables : List WriteProbeTable) : Program D R C Unit :=
  modify fun w => { w with scanner := { w.scanner with currentWriteProbeTables := some tables } }

def addWriteProbeTable (table : WriteProbeTable) : Program D R C Unit :=
  modify fun w => { w with scanner := { w.scanner with
    currentWriteProbeTables := w.scanner.currentWriteProbeTables.map (· ++ [table]) } }

def saveWriteProbe (statement : LoggedStatement) (index : ℕ) : Program D R C Unit := do
  if isUpdateStatement statement.metadata || isDeleteStatement statement.metadata then
    match ← statementWriteProbeTable engine context statement true with
    | none => return ()
    | some tempTable =>
      addWriteProbeTable ⟨requiredUpdatedTable statement.metadata, index, tempTable⟩
  else return ()

def startControlWithCurrentWriteProbes (currentTransaction : LoggedTransaction)
    (currentBranch : BranchName) :
    List (LoggedStatement × ℕ) → Program D R C (Option SQLiteReplayFailure)
  | [] => return none
  | (statement, index) :: rest => do
    saveWriteProbe engine context statement index
    match ← executeStatementOnControl engine context statement currentBranch.scope
        ("control " ++ transactionLabel currentTransaction) true with
    | some failure => return some failure
    | none => startControlWithCurrentWriteProbes currentTransaction currentBranch rest

/-- Start one scan by replaying current on the attached control DB. -/
def start (currentTransaction : LoggedTransaction) (currentBranch : BranchName) :
    Program D R C ConflictCheckResult := do
  let name ← drawName "sqlite_merge_remaining_scan_"
  setSavepoint (some name)
  savepoint name
  setWriteProbeTables []
  match ← startControlWithCurrentWriteProbes engine context currentTransaction currentBranch
      currentTransaction.statements.zipIdx with
  | some failure => return .ofConflicts [replayFailureConflict failure]
  | none => return .empty

/-- The state in which `start` replays the current transaction. -/
def openScan (w : Working D R C) : Working D R C :=
  { w.enter "sqlite_merge_remaining_scan_" with
    scanner := ⟨some (w.nextName "sqlite_merge_remaining_scan_"), some []⟩ }

def startResult (failure : Option SQLiteReplayFailure) : Program D R C ConflictCheckResult :=
  match failure with
  | some failure => return .ofConflicts [replayFailureConflict failure]
  | none => return .empty

lemma start_apply (currentTransaction : LoggedTransaction) (currentBranch : BranchName)
    (w : Working D R C) :
    start engine context currentTransaction currentBranch w =
      (startControlWithCurrentWriteProbes engine context currentTransaction currentBranch
        currentTransaction.statements.zipIdx >>= startResult) (openScan w) := rfl

def candidatePairsForOtherStatement (currentBranch : BranchName)
    (candidatePairs : List (ℕ × ℕ)) (otherIndex : ℕ) : List (ℕ × ℕ) :=
  candidatePairs.filter fun pair =>
    (match currentBranch with | .ours => pair.2 | .theirs => pair.1) = otherIndex

def currentIndex (currentBranch : BranchName) (pair : ℕ × ℕ) : ℕ :=
  match currentBranch with
  | .ours => pair.1
  | .theirs => pair.2

/-- Compare the write tables of the current statements with one opposite probe, which is
inline or stored. `none` when they are disjoint. -/
def comparePairs (currentBranch : BranchName) (ours theirs : LoggedTransaction)
    (probeTables : List WriteProbeTable) (otherSelect : String) :
    List (ℕ × ℕ) → Program D R C (Option WriteWriteOverlap)
  | [] => return none
  | pair :: rest => do
    match probeTables.find? (·.statementIndex = currentIndex currentBranch pair) with
    | none => return some .notRefined
    | some currentTable =>
      match ← tryQueryHasRow engine (intersectQuery currentTable.name otherSelect) with
      | none => return some .notRefined
      | some true =>
        match ours.statements[pair.1]?, theirs.statements[pair.2]? with
        | some first, some second => return some (.overlaps first second)
        | _, _ => throw (.other "tuple index out of range")
      | some false => comparePairs currentBranch ours theirs probeTables otherSelect rest

/-- Compare one opposite statement with the current statements it may overlap. -/
def compareOtherStatement (currentBranch : BranchName) (ours theirs : LoggedTransaction)
    (currentWriteProbeTables : List WriteProbeTable) (statement : LoggedStatement)
    (matchingPairs : List (ℕ × ℕ)) : Program D R C (Option WriteWriteOverlap) := do
  let probeTables := currentWriteProbeTables.filter
    (·.targetTable = requiredUpdatedTable statement.metadata)
  if matchingPairs = [] then return none
  else if probeTables = [] then return some .notRefined
  else
    match ← statementWriteProbeSql context statement false with
    | none => return some .notRefined
    | some otherProbe =>
      if matchingPairs.length > 1 then
        let otherTable ← tempProbeResultTableName
        withCleanup (do
            let created ← tryCreateProbeResultTable engine otherTable otherProbe
            if created then
              comparePairs engine currentBranch ours theirs probeTables (selectAll otherTable)
                matchingPairs
            else return some .notRefined)
          (dropTable otherTable)
      else
        comparePairs engine currentBranch ours theirs probeTables
          ("SELECT * FROM (" ++ otherProbe ++ ")") matchingPairs

/-- Advance the opposite transaction on main, comparing each statement's writes. -/
def overlapStatements (currentBranch : BranchName) (ours theirs : LoggedTransaction)
    (currentWriteProbeTables : List WriteProbeTable) (candidatePairs : List (ℕ × ℕ))
    (orderLabel : String) : List (LoggedStatement × ℕ) → Program D R C WriteWriteOverlap
  | [] => return .disjoint
  | (statement, otherIndex) :: rest => do
    let matchingPairs := candidatePairsForOtherStatement currentBranch candidatePairs otherIndex
    match ← compareOtherStatement engine context currentBranch ours theirs
        currentWriteProbeTables statement matchingPairs with
    | some result => return result
    | none =>
      match ← executeStatementOnMain engine statement .pair orderLabel true with
      | some _ => return .notRefined
      | none =>
        overlapStatements currentBranch ours theirs currentWriteProbeTables candidatePairs
          orderLabel rest

def otherOf (currentBranch : BranchName) (ours theirs : LoggedTransaction) : LoggedTransaction :=
  match currentBranch with
  | .ours => theirs
  | .theirs => ours

/-- Compare current write temp tables with opposite write probes. -/
def findWriteWriteOverlap (currentBranch : BranchName) (ours theirs : LoggedTransaction)
    (currentWriteProbeTables : List WriteProbeTable) (candidatePairs : List (ℕ × ℕ)) :
    Program D R C WriteWriteOverlap :=
  let other := otherOf currentBranch ours theirs
  discarding engine "sqlite_merge_remaining_write_probe_"
    (overlapStatements engine context currentBranch ours theirs currentWriteProbeTables
      candidatePairs (transactionLabel other) other.statements.zipIdx)

def checkWriteWrite (currentBranch : BranchName) (ours theirs : LoggedTransaction)
    (result : ConflictCheckResult) : Program D R C ConflictCheckResult := do
  if !result.hasKind .writeWrite || hasCascadeMetadataConflict result .writeWrite then
    return result
  else
    let candidatePairs := writeWriteCandidatePairs ours.metadata theirs.metadata
    if candidatePairs = [] then return result.withoutKind .writeWrite
    else
      match (← scannerFields).currentWriteProbeTables with
      | none => return result
      | some tables =>
        if (candidatePairs.map (currentIndex currentBranch)).all
            (· ∈ tables.map (·.statementIndex)) then
          match ← findWriteWriteOverlap engine context currentBranch ours theirs tables
              candidatePairs with
          | .disjoint => return result.withoutKind .writeWrite
          | .notRefined => return result
          | .overlaps first second =>
            return result.replaceKind .writeWrite
              [{ kind := .writeWrite
                 message := transactionScopedStatementLabel ours first ++ " and " ++
                   transactionScopedStatementLabel theirs second ++
                   " update/delete overlapping rows"
                 scope := .pair
                 details := [] }]
        else return result

def probeHasDuplicateTargetRows (metadata : StatementMetadata) (probe : String) :
    Program D R C Bool := do
  let pkCount := (context.primaryKeyColumns (requiredUpdatedTable metadata)).length
  if pkCount = 0 then return true
  else
    let rows ← query engine (duplicateRowsQuery probe pkCount)
    return !rows.isEmpty

/-- Whether an UPDATE FROM reader has several source rows for one target row. -/
def readerHasDuplicates (metadata : StatementMetadata) (probe controlProbe : String) :
    Program D R C Bool := do
  if context.isUpdateFromStatement metadata then
    if ← probeHasDuplicateTargetRows engine context metadata probe then return true
    else probeHasDuplicateTargetRows engine context metadata controlProbe
  else return false

/-- Whether a probe reads different rows on main and on control, or why that stays open. -/
def compareReads (metadata : StatementMetadata) (probe : String) :
    Program D R C (Except (Option String) Bool) := do
  match ← lookup (context.controlSqlForProbe probe) with
  | none => return .error (some "reader probe cannot be rewritten for control database")
  | some controlProbe =>
    if ← readerHasDuplicates engine context metadata probe controlProbe then
      return .error (some "reader UPDATE FROM has multiple source rows")
    else
      let beforeTable ← tempProbeResultTableName
      let afterTable ← tempProbeResultTableName
      withCleanup
        (exceptSqlite (do
            createProbeResultTable engine beforeTable probe
            createProbeResultTable engine afterTable controlProbe
            let rows ← query engine
              (selectDifferenceQuery (selectAll beforeTable) (selectAll afterTable))
            return .ok !rows.isEmpty)
          fun error => return .error (some error.message))
        (do dropTable beforeTable; dropTable afterTable)

/-- Whether one reader statement reads what the writer changed. -/
def readerAffected (indexes : List ℕ) (statement : LoggedStatement) (index : ℕ) :
    Program D R C (Except (Option String) Bool) := do
  if index ∈ indexes then
    match ← lookup (context.readProbeResult statement.metadata) with
    | .noReadDependency => return .ok false
    | .notRefined reason => return .error reason
    | .ok sql => compareReads engine context statement.metadata sql
  else return .ok false

/-- Advance the reader on both copies, comparing what each statement reads. -/
def readStatements (indexes : List ℕ) (orderLabel : String) :
    List (LoggedStatement × ℕ) → List ℕ → Program D R C WriteReadProbeResult
  | [], affected => return if affected = [] then .unaffected else .affected affected
  | (statement, index) :: rest, affected => do
    match ← readerAffected engine context indexes statement index with
    | .error reason => return .notRefined reason
    | .ok reads =>
      match ← executeStatementOnMain engine statement .pair orderLabel true with
      | some failure => return .notRefined (some failure.message)
      | none =>
        match ← executeStatementOnControl engine context statement .pair orderLabel true with
        | some failure => return .notRefined (some failure.message)
        | none =>
          readStatements indexes orderLabel rest (if reads then affected ++ [index] else affected)

/-- Compare reader probes on main vs control while advancing one transaction. -/
def rollingWriteReadDependency (writer reader : LoggedTransaction) :
    Program D R C WriteReadProbeResult :=
  let indexes := writeReadCandidateIndexes writer.metadata reader.metadata
  if indexes = [] then pure .unaffected
  else
    discarding engine "sqlite_merge_remaining_read_probe_"
      (readStatements engine context indexes (transactionLabel reader) reader.statements.zipIdx [])

def checkWriteRead (currentTransaction other : LoggedTransaction)
    (result : ConflictCheckResult) : Program D R C ConflictCheckResult := do
  if !result.hasKind .writeRead || hasCascadeMetadataConflict result .writeRead then
    return result
  else
    match ← rollingWriteReadDependency engine context currentTransaction other with
    | .notRefined _ => return result
    | .unaffected => return result.withoutKind .writeRead
    | .affected indexes =>
      return result.replaceKind .writeRead
        [{ kind := .writeRead
           message := writeReadConflictMessage currentTransaction other indexes
           scope := .pair
           details := [] }]

/-- The read check of one opposite transaction. -/
def checkReads (enabledKinds : Finset ConflictKind) (currentTransaction other : LoggedTransaction)
    (result : ConflictCheckResult) : Program D R C ConflictCheckResult :=
  if .writeRead ∈ enabledKinds then
    checkWriteRead engine context currentTransaction other result
  else pure result

/-- The checks of one opposite transaction. -/
def checkPair (enabledKinds : Finset ConflictKind) (currentTransaction : LoggedTransaction)
    (currentBranch : BranchName) (ours theirs : LoggedTransaction)
    (staticResult : ConflictCheckResult) : Program D R C ConflictCheckResult := do
  let other := otherOf currentBranch ours theirs
  if .writeWrite ∈ enabledKinds then
    let result ← checkWriteWrite engine context currentBranch ours theirs staticResult
    if result.hasKind .writeWrite then return result
    else checkReads engine context enabledKinds currentTransaction other result
  else checkReads engine context enabledKinds currentTransaction other staticResult

def checkInside (savepoint : String) (enabledKinds : Finset ConflictKind)
    (currentTransaction : LoggedTransaction) (currentBranch : BranchName)
    (ours theirs : LoggedTransaction) (staticResult : ConflictCheckResult) :
    Program D R C ConflictCheckResult := do
  let result ← checkPair engine context enabledKinds currentTransaction currentBranch ours theirs
    staticResult
  if result.hasConflict then
    rollbackSavepoint engine savepoint
    return result
  else
    let other := otherOf currentBranch ours theirs
    let advanceResult ← advanceTransactionOnMainAndControl engine context currentTransaction other
      (pairOrderLabel currentTransaction other) .pair (.integrity ∈ enabledKinds)
    if advanceResult.hasConflict then
      rollbackSavepoint engine savepoint
      return advanceResult
    else
      release engine savepoint
      return result

/-- `except Exception: rollback_savepoint(...); raise`. -/
def orRollBack {α : Type} (savepoint : String) (body : Program D R C α) : Program D R C α :=
  catching body fun e => do
    rollbackSavepoint engine savepoint
    throw e

/-- Check one opposite transaction, then advance both scan states. -/
def checkNext (enabledKinds : Finset ConflictKind) (currentTransaction : LoggedTransaction)
    (currentBranch : BranchName) (ours theirs : LoggedTransaction)
    (staticResult : ConflictCheckResult) : Program D R C ConflictCheckResult :=
  inSavepoint "sqlite_merge_remaining_next_" fun name =>
    orRollBack engine name (checkInside engine context name enabledKinds currentTransaction
      currentBranch ours theirs staticResult)

def acceptInside (savepoint : String) (currentTransaction other : LoggedTransaction)
    (acceptedResult : ConflictCheckResult) : Program D R C ConflictCheckResult := do
  let result ← advanceTransactionOnMainAndControl engine context currentTransaction other
    (pairOrderLabel currentTransaction other) .pair false
  match result.conflicts with
  | conflict :: rest =>
    rollbackSavepoint engine savepoint
    return acceptedResult.addConflicts (conflict :: rest)
  | [] =>
    release engine savepoint
    return .empty

/-- Advance scan state after the user accepts a reviewable pair conflict. -/
def acceptNext (currentTransaction other : LoggedTransaction)
    (acceptedResult : ConflictCheckResult) : Program D R C ConflictCheckResult :=
  inSavepoint "sqlite_merge_remaining_accept_" fun name =>
    orRollBack engine name
      (acceptInside engine context name currentTransaction other acceptedResult)

def close : Program D R C Unit := do
  match (← scannerFields).savepoint with
  | none => return ()
  | some name =>
    rollbackSavepoint engine name
    setSavepoint none

end

end SqliteReconcile.RemainingExecution
