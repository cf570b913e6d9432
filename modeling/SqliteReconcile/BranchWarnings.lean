import SqliteReconcile.ConflictSyntax
import SqliteReconcile.EditCommands
import SqliteReconcile.WorkingMerge

/-!
# Warnings of a branch replay

Before the branches are compared, each transaction is replayed on its own branch. An attempt
stops at the first statement with a warning that the user has not accepted; the user accepts
it, and the attempt starts again.
-/
namespace SqliteReconcile.BranchWarnings
open Models SqlMetadata LogMerge Programs Savepoints Connection AcceptedReplay RemainingExecution
open EditCommands ConflictSyntax

structure BranchContext (C : Type) where
  characters : Characters
  parseStatementMetadata : String → Except String StatementMetadata
  affectedPrimaryKeySelect : StatementMetadata → C → Option String × C
  isUpdateFromStatement : StatementMetadata → Bool
  primaryKeyColumns : String → List String

structure BranchReplayIssue where
  conflict : StatementConflict
  warning : Option (StatementObject × String)

def updateFromDuplicateTargetWarning : String :=
  "UPDATE FROM has multiple source rows for the same target row"

def pendingReplayWarning (statement : LoggedStatement) : Option String :=
  match replayWarningReason statement with
  | none => none
  | some warning => if warning ∈ statement.acceptedReplayWarnings then none else some warning

/-- A stored or unsafe replay warning that still needs user acceptance. -/
def statementReplayWarning (statement : LoggedStatement) : Option String :=
  match pendingReplayWarning statement with
  | some warning => some warning
  | none => statement.replayWarnings.find? fun warning =>
      warning ≠ updateFromDuplicateTargetWarning ∧ warning ∉ statement.acceptedReplayWarnings

/-- Stricter SQL for reviewable conflict-resolution syntax, with its label. -/
def strictConflictResolutionStatement {C : Type} (context : BranchContext C)
    (statement : LoggedStatement) : Except String (Option (LoggedStatement × String)) :=
  if statement.metadata.hasReviewableConstraintResolution then
    match strictConflictResolutionRewrite context.characters statement.sqlText.toList with
    | none => .ok none
    | some rewrite =>
      match context.parseStatementMetadata (String.ofList rewrite.sql) with
      | .error message => .error message
      | .ok metadata =>
        .ok (some ({ statement with
          toReplaySqlText := String.ofList rewrite.sql
          metadata := metadata
          replayWarnings := statement.replayWarnings ++
            ["strict replay removed " ++ String.ofList rewrite.label] },
          String.ofList rewrite.label))
  else .ok none

/-- What the probes ask of the context. A branch replay has no control copy. -/
def BranchContext.replay {C : Type} (context : BranchContext C) : ReplayContext C where
  controlSchema := none
  controlSqlFor _ caches := (none, caches)
  controlSqlForProbe _ caches := (none, caches)
  strictConflictResolutionStatement statement caches :=
    (BranchWarnings.strictConflictResolutionStatement context statement, caches)
  affectedPrimaryKeySelect := context.affectedPrimaryKeySelect
  readProbeResult _ caches := (.notRefined none, caches)
  isUpdateFromStatement := context.isUpdateFromStatement
  primaryKeyColumns := context.primaryKeyColumns

def conflictResolutionAlreadyActiveWarning (label message : String) : String :=
  "SQLite conflict-resolution syntax is already active here; strict replay without " ++ label ++
    " fails: " ++ message

section

variable {D R C : Type} (engine : Engine D R) (context : BranchContext C)

def updateFromHasDuplicateTargetRows (metadata : StatementMetadata) : Program D R C Bool := do
  if context.isUpdateFromStatement metadata then
    match ← lookup (context.affectedPrimaryKeySelect metadata) with
    | none => return false
    | some probe =>
      exceptSqlite (probeHasDuplicateTargetRows engine context.replay metadata probe)
        fun _ => return false
  else return false

def conflictResolutionBranchWarning (statement : LoggedStatement) :
    Program D R C (Option String) := do
  match ← strictStatement context.replay statement with
  | none => return none
  | some (statementWithoutResolution, label) =>
    match ← savepointStatementFailure engine context.replay statementWithoutResolution false
        statement.branch.scope ("strict " ++ statementLabel statement) with
    | none => return none
    | some failure =>
      if failure.kind = .integrity then
        return some (conflictResolutionAlreadyActiveWarning label failure.message)
      else return none

def branchReplayConflict (kind : ConflictKind) (message : String) (branch : BranchName)
    (statement : Option LoggedStatement) : StatementConflict where
  kind := kind
  message := message
  scope := branch.scope
  details := (statement.map statementConflictDetails).getD []

def branchReplayWarningIssue (branch : BranchName) (object : StatementObject)
    (warning : String) : BranchReplayIssue where
  conflict := branchReplayConflict .replayError ("warning: " ++ warning) branch
    (some object.statement)
  warning := some (object, warning)

def undoWith (savepoint : String) (issue : BranchReplayIssue) :
    Program D R C (Option BranchReplayIssue) := do
  rollbackSavepoint engine savepoint
  return some issue

def executeRaising (sql : String) : Program D R C Unit := do
  match ← execute engine sql with
  | none => return ()
  | some error => throw (.sqlite error)

variable (savepoint : String) (branch : BranchName)

/-- The checks of one statement, and its execution. -/
def replayStatement (object : StatementObject) : Program D R C (Option BranchReplayIssue) := do
  let statement := object.statement
  match statementReplayWarning statement with
  | some warning => undoWith engine savepoint (branchReplayWarningIssue branch object warning)
  | none =>
    match unresolvedReplayBlockReason statement with
    | some reason =>
      undoWith engine savepoint
        ⟨branchReplayConflict .replayError reason branch (some statement), none⟩
    | none =>
      let duplicated ←
        if updateFromDuplicateTargetWarning ∉ statement.acceptedReplayWarnings then
          updateFromHasDuplicateTargetRows engine context statement.metadata
        else pure false
      if duplicated then
        undoWith engine savepoint
          (branchReplayWarningIssue branch object updateFromDuplicateTargetWarning)
      else
        let warning ← conflictResolutionBranchWarning engine context statement
        match warning.filter (· ∉ statement.acceptedReplayWarnings) with
        | some warning =>
          undoWith engine savepoint (branchReplayWarningIssue branch object warning)
        | none =>
          executeRaising engine statement.sqlText
          return none

/-- The handler of `sqlite3.Error`, for the last statement that was reached. -/
def replayError (last : Option LoggedStatement) (error : SqliteError) :
    Program D R C (Option BranchReplayIssue) :=
  undoWith engine savepoint
    ⟨branchReplayConflict (sqliteErrorConflictKind error) error.message branch last, none⟩

/-- `con.commit()`; without an open transaction it does nothing. -/
def commit : Program D R C Unit := fun w =>
  match w.saved.getLast? with
  | none => .ok () w
  | some (_, before) =>
    match engine.commitError before w.copies with
    | some error => .error (.sqlite error) w
    | none => .ok () { w with stack := .new w.copies }

variable (integrityCheck : Database D → Option String)

/-- The check of the replayed transaction, and its end. -/
def finishTransaction : Program D R C (Option BranchReplayIssue) := do
  let w ← get
  match WorkingMerge.validateDatabase engine integrityCheck w.copies.main with
  | .error error => throw (.sqlite error)
  | .ok [] =>
    release engine savepoint
    commit engine
    return none
  | .ok errors =>
    undoWith engine savepoint
      ⟨branchReplayConflict .integrity ("\n".intercalate errors) branch none, none⟩

/-- The statements from one on; `last` is the one before. -/
def replayStatements : List StatementObject → Option LoggedStatement →
    Program D R C (Option BranchReplayIssue)
  | [], last =>
    exceptSqlite (finishTransaction engine savepoint branch integrityCheck)
      (replayError engine savepoint branch last)
  | object :: rest, _ => do
    match ← exceptSqlite (replayStatement engine context savepoint branch object)
        (replayError engine savepoint branch (some object.statement)) with
    | some issue => return some issue
    | none => replayStatements rest (some object.statement)

/-- Apply one branch-local transaction, returning why it cannot replay. -/
def branchTransactionReplayIssue (transaction : ShownTransaction) :
    Program D R C (Option BranchReplayIssue) :=
  inSavepoint "sqlite_merge_branch_" fun name =>
    replayStatements engine context name transaction.branch integrityCheck transaction.statements
      none

/-- The object with the warning accepted; a warning that was accepted before makes no new one. -/
def acceptedObject (nextRef : ℕ) (object : StatementObject) (warning : String) :
    StatementObject :=
  if warning ∈ object.statement.acceptedReplayWarnings then object
  else ⟨nextRef, acceptReplayWarning object.statement warning⟩

def acceptWarningIfStatementStillPresent (nextRef : ℕ) (warningStatement : StatementObject)
    (warning : String) : List StatementObject → List StatementObject
  | [] => []
  | object :: rest =>
    if object.ref = warningStatement.ref then acceptedObject nextRef object warning :: rest
    else object :: acceptWarningIfStatementStillPresent nextRef warningStatement warning rest

/-- What `_resolve_branch_transaction` works on. -/
structure LoopState (D R C : Type) where
  transaction : ShownTransaction
  nextRef : ℕ
  working : Working D R C

inductive Round (D R C : Type)
  | applied (w : Working D R C)
  /-- At an issue that is not an acceptable warning. -/
  | stops (issue : BranchReplayIssue) (w : Working D R C)
  | raises (e : Exn) (w : Working D R C)
  /-- The user accepts a warning; the prompt returns the shown statements as they are. -/
  | asks (object : StatementObject) (warning : String) (next : LoopState D R C)

/-- One iteration of the loop, with a user who accepts every acceptable warning. -/
def loopRound (state : LoopState D R C) : Round D R C :=
  match branchTransactionReplayIssue engine context integrityCheck state.transaction
      state.working with
  | .error e w => .raises e w
  | .ok none w => .applied w
  | .ok (some issue) w =>
    match issue.warning with
    | none => .stops issue w
    | some (object, warning) =>
      .asks object warning
        ⟨state.transaction.withStatements (acceptWarningIfStatementStillPresent state.nextRef
          object warning state.transaction.statements), state.nextRef + 1, w⟩

def Accepts (state next : LoopState D R C) : Prop :=
  ∃ object warning, loopRound engine context integrityCheck state = .asks object warning next

/-- The pairs of a statement's place and a warning that was accepted for it. -/
def acceptedPairs (transaction : ShownTransaction) : Set (ℕ × String) :=
  {pair | ∃ object, transaction.statements[pair.1]? = some object ∧
    pair.2 ∈ object.statement.acceptedReplayWarnings}

def AsksPair (state : LoopState D R C) (pair : ℕ × String) (next : LoopState D R C) : Prop :=
  ∃ object, state.transaction.statements[pair.1]? = some object ∧
    loopRound engine context integrityCheck state = .asks object pair.2 next

end

def withoutAccepted (object : StatementObject) : LoggedStatement :=
  { object.statement with acceptedReplayWarnings := ∅ }

end SqliteReconcile.BranchWarnings
