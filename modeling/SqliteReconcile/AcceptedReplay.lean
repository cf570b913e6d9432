import SqliteReconcile.Connection

/-! Replay of accepted transactions on both copies, and the strict replay probes. -/
namespace SqliteReconcile.AcceptedReplay
open Models Programs Savepoints Wrapper Connection

structure SQLiteReplayFailure where
  kind : ConflictKind
  scope : ConflictScope
  message : String
  orderLabel : String
  statement : Option LoggedStatement

inductive ReadProbeResult
  | ok (sql : String)
  | noReadDependency
  | notRefined (reason : Option String)

/-- The parts of the context that build SQL text. They look things up in caches first. The
strict rewrite parses its new text, which can raise. -/
structure ReplayContext (C : Type) where
  controlSchema : Option String
  controlSqlFor : LoggedStatement → C → Option String × C
  controlSqlForProbe : String → C → Option String × C
  strictConflictResolutionStatement :
    LoggedStatement → C → Except String (Option (LoggedStatement × String)) × C
  affectedPrimaryKeySelect : StatementMetadata → C → Option String × C
  readProbeResult : StatementMetadata → C → ReadProbeResult × C
  isUpdateFromStatement : StatementMetadata → Bool
  primaryKeyColumns : String → List String

section

variable {D R C : Type}

/-- Ask a part of the context that cannot raise. -/
def lookup {α : Type} (f : C → α × C) : Program D R C α := fun w =>
  let (answer, caches) := f w.caches
  .ok answer { w with caches := caches }

def sqliteErrorConflictKind (error : SqliteError) : ConflictKind :=
  if error.integrity then .integrity else .replayError

def sqliteExceptionConflict (error : SqliteError) (scope : ConflictScope) :
    StatementConflict where
  kind := sqliteErrorConflictKind error
  message := error.message
  scope := scope
  details := []

def statementConflictDetails (statement : LoggedStatement) : List (String × String) :=
  [("statement_branch_index", toString statement.branchIndex)]

def replayFailureConflict (failure : SQLiteReplayFailure) : StatementConflict where
  kind := failure.kind
  message := failure.orderLabel ++ ": " ++ failure.message
  scope := failure.scope
  details := (failure.statement.map statementConflictDetails).getD []

def cleanControlSchemaReferences (message : String) : Option String → String
  | none => message
  | some schema =>
    [schema ++ ".", "\"" ++ schema ++ "\".", "[" ++ schema ++ "].", "`" ++ schema ++ "`."].foldl
      (fun cleaned stem => cleaned.replace stem "main.") message

variable (engine : Engine D R) (context : ReplayContext C)

def cleanControlConflict (conflict : StatementConflict) : StatementConflict :=
  { conflict with
    message := cleanControlSchemaReferences conflict.message context.controlSchema }

def cleanControlFailure (failure : SQLiteReplayFailure) : SQLiteReplayFailure :=
  { failure with
    message := cleanControlSchemaReferences failure.message context.controlSchema }

def executeSqlForReplay (statement : LoggedStatement) (sqlText : String)
    (scope : ConflictScope) (orderLabel : String) (foreignKeySchema : Option String)
    (checkDeferredForeignKeys : Bool) : Program D R C (Option SQLiteReplayFailure) := do
  match ← execute engine sqlText with
  | some error =>
    return some ⟨sqliteErrorConflictKind error, scope, error.message, orderLabel, some statement⟩
  | none =>
    if checkDeferredForeignKeys then
      let deferredError ← foreignKeyCheckError engine foreignKeySchema
      return deferredError.map fun message =>
        ⟨.integrity, scope, message, orderLabel, some statement⟩
    else return none

def executeStatementOnMain (statement : LoggedStatement) (scope : ConflictScope)
    (orderLabel : String) (checkDeferredForeignKeys : Bool) :
    Program D R C (Option SQLiteReplayFailure) :=
  executeSqlForReplay engine statement statement.sqlText scope orderLabel none
    checkDeferredForeignKeys

def isUniqueConstraintFailure (failure : SQLiteReplayFailure) : Bool :=
  failure.kind = .integrity ∧ "UNIQUE constraint failed".toList <:+: failure.message.toList

def controlFailure (statement : LoggedStatement) (failure : SQLiteReplayFailure) :
    SQLiteReplayFailure :=
  let failure := cleanControlFailure context failure
  if statement.metadata.compatibleSql.strippedUpsert && isUniqueConstraintFailure failure then
    { failure with
      message := "UPSERT is not fully supported for automatic merge " ++
        "checking; control replay without ON CONFLICT failed: " ++ failure.message ++
        ". Edit or delete the transaction to continue." }
  else failure

def executeStatementOnControl (statement : LoggedStatement) (scope : ConflictScope)
    (orderLabel : String) (checkDeferredForeignKeys : Bool) :
    Program D R C (Option SQLiteReplayFailure) := do
  match ← lookup (context.controlSqlFor statement) with
  | none =>
    return some ⟨.replayError, scope, "statement cannot be rewritten for control database",
      orderLabel, some statement⟩
  | some controlSql =>
    let failure ← executeSqlForReplay engine statement controlSql scope orderLabel
      context.controlSchema checkDeferredForeignKeys
    return failure.map (controlFailure context statement)

/-- Replay one strict statement in a nested savepoint and discard effects. -/
def savepointStatementFailure (statement : LoggedStatement) (useControl : Bool)
    (scope : ConflictScope) (orderLabel : String) :
    Program D R C (Option SQLiteReplayFailure) :=
  discarding engine "sqlite_merge_remaining_stmt_probe_"
    (if useControl then executeStatementOnControl engine context statement scope orderLabel true
      else executeStatementOnMain engine statement scope orderLabel true)

def strictStatement (statement : LoggedStatement) :
    Program D R C (Option (LoggedStatement × String)) := do
  if statement.metadata.hasReviewableConstraintResolution then
    match ← lookup (context.strictConflictResolutionStatement statement) with
    | .ok strict => return strict
    | .error message => throw (.other message)
  else return none

def strictConstraintResolutionFailure (currentTransaction : LoggedTransaction)
    (statement : LoggedStatement) : Program D R C (Option SQLiteReplayFailure) := do
  match ← strictStatement context statement with
  | none => return none
  | some (statementWithoutResolution, _) =>
    let beforeFailure ← savepointStatementFailure engine context statementWithoutResolution false
      .pair ("strict " ++ statementLabel statement ++ " before current")
    let afterFailure ← savepointStatementFailure engine context statementWithoutResolution true
      .pair (transactionLabel currentTransaction ++ " then strict " ++ statementLabel statement)
    -- strict replay that already fails without the current transaction is not its doing
    if (beforeFailure.map (·.kind)) = some .integrity then return none
    else return afterFailure

def constraintResolutionConflict (transaction : LoggedTransaction)
    (failure : SQLiteReplayFailure) (scope : ConflictScope)
    (afterTransaction : Option LoggedTransaction) : StatementConflict :=
  if failure.kind ≠ .integrity then
    { kind := failure.kind
      message := "strict replay probe failed: " ++ failure.message
      scope := scope
      details := [] }
  else
    let afterText := match afterTransaction with
      | some after => " after " ++ transactionLabel after
      | none => " under the current prefix"
    { kind := .constraintResolution
      message := transactionLabel transaction ++ " uses SQLite conflict-resolution " ++
        "syntax; removing it fails" ++ afterText ++ ": " ++ failure.message ++ ". " ++
        "The original SQL succeeds, so this is reviewable rather than a hard replay error."
      scope := .pair
      details := [] }

def checkedStrictFailure (checkConstraintResolution : Bool)
    (currentTransaction : LoggedTransaction) (statement : LoggedStatement) :
    Program D R C (Option SQLiteReplayFailure) :=
  if checkConstraintResolution then
    strictConstraintResolutionFailure engine context currentTransaction statement
  else pure none

/-- The statements of a transaction on control and on main, until one fails. -/
def advanceStatements (currentTransaction transaction : LoggedTransaction)
    (orderLabel : String) (scope : ConflictScope) (checkConstraintResolution : Bool) :
    List LoggedStatement → Program D R C (Option StatementConflict)
  | [] => return none
  | statement :: rest => do
    let strictFailure ← checkedStrictFailure engine context checkConstraintResolution
      currentTransaction statement
    match ← executeStatementOnControl engine context statement scope orderLabel false with
    | some failure => return some (replayFailureConflict failure)
    | none =>
      match ← executeStatementOnMain engine statement scope orderLabel false with
      | some failure => return some (replayFailureConflict failure)
      | none =>
        match strictFailure with
        | some failure =>
          return some (constraintResolutionConflict transaction failure .pair
            (some currentTransaction))
        | none =>
          advanceStatements currentTransaction transaction orderLabel scope
            checkConstraintResolution rest

def lastStatement (transaction : LoggedTransaction) : Program D R C LoggedStatement :=
  match transaction.statements.getLast? with
  | some statement => pure statement
  | none => throw (.other "list index out of range")

def foreignKeyFailure (schema : Option String) (transaction : LoggedTransaction)
    (scope : ConflictScope) (orderLabel : String) :
    Program D R C (List SQLiteReplayFailure) := do
  match ← foreignKeyCheckError engine schema with
  | none => return []
  | some message =>
    let statement ← lastStatement transaction
    return [⟨.integrity, scope, message, orderLabel, some statement⟩]

def transactionForeignKeyFailures (transaction : LoggedTransaction) (scope : ConflictScope)
    (orderLabel : String) : Program D R C (List SQLiteReplayFailure) := do
  let mainFailures ← foreignKeyFailure engine none transaction scope orderLabel
  let controlFailures ←
    foreignKeyFailure engine context.controlSchema transaction scope orderLabel
  return mainFailures ++ controlFailures

/-- Replay one transaction on main and control, returning replay conflicts. -/
def advanceTransactionOnMainAndControl (currentTransaction transaction : LoggedTransaction)
    (orderLabel : String) (scope : ConflictScope) (checkConstraintResolution : Bool) :
    Program D R C ConflictCheckResult := do
  match ← advanceStatements engine context currentTransaction transaction orderLabel scope
      checkConstraintResolution transaction.statements with
  | some conflict => return .ofConflicts [conflict]
  | none =>
    match ← transactionForeignKeyFailures engine context transaction scope orderLabel with
    | failure :: _ => return .ofConflicts [replayFailureConflict failure]
    | [] => return .empty

def logEntry (statement : LoggedStatement) : LogEntry where
  originalSqlText := statement.originalSqlText
  toReplaySqlText := statement.toReplaySqlText
  isReplaySafe := statement.isReplaySafe
  replayBlockReason := statement.replayBlockReason

def insertRows (transactionId : ℕ) : List LoggedStatement → Program D R C Unit
  | [] => return ()
  | statement :: rest => do
    insertLog engine (·.insertRow (transactionId, logEntry statement))
    insertRows transactionId rest

def lastRowId : Program D R C ℕ := fun w => .ok w.copies.main.log.lastTransactionId w

/-- Record one accepted transaction group in the working merge log. -/
def appendReplayedLog (statements : List LoggedStatement) : Program D R C Unit := do
  insertLog engine MergeLog.insertTransaction
  let transactionId ← lastRowId
  insertRows engine transactionId statements

/-- The body of `applyAcceptedTransaction`, inside its savepoint. -/
def applyInside (savepoint : String) (transaction : LoggedTransaction) :
    Program D R C (Option StatementConflict) := do
  let replayResult ← advanceTransactionOnMainAndControl engine context transaction transaction
    (transactionLabel transaction) transaction.branch.scope false
  -- a replay result has a conflict exactly when it lists one
  match replayResult.conflicts with
  | conflict :: _ =>
    rollbackSavepoint engine savepoint
    return some (cleanControlConflict context conflict)
  | [] =>
    appendReplayedLog engine transaction.statements
    release engine savepoint
    return none

/-- Apply one transaction accepted by the fixed replay order. -/
def applyAcceptedTransaction (transaction : LoggedTransaction) :
    Program D R C (Option StatementConflict) :=
  inSavepoint "sqlite_merge_accept_" fun name =>
    exceptSqlite (applyInside engine context name transaction) fun error => do
      rollbackSavepoint engine name
      return some (sqliteExceptionConflict error transaction.branch.scope)

end

end SqliteReconcile.AcceptedReplay
