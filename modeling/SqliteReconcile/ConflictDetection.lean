import SqliteReconcile.RemainingMetadata

/-! The rolling scan of one current transaction against the opposite queue. What the
databases answer is a parameter; the calls made to them are recorded in a trace. -/
namespace SqliteReconcile.ConflictDetection
open Models StaticAnalysis RemainingMetadata

structure ConflictResolutionKey where
  oursTransactionId : ℕ
  oursBranchIndexes : List ℤ
  oursSqlTexts : List String
  theirsTransactionId : ℕ
  theirsBranchIndexes : List ℤ
  theirsSqlTexts : List String
  conflicts : List (ConflictKind × ConflictScope × String)
  deriving DecidableEq

def conflictResolutionKey (oursTransaction theirsTransaction : LoggedTransaction)
    (conflicts : List StatementConflict) : ConflictResolutionKey where
  oursTransactionId := oursTransaction.transactionId
  oursBranchIndexes := oursTransaction.statements.map (·.branchIndex)
  oursSqlTexts := oursTransaction.statements.map (·.sqlText)
  theirsTransactionId := theirsTransaction.transactionId
  theirsBranchIndexes := theirsTransaction.statements.map (·.branchIndex)
  theirsSqlTexts := theirsTransaction.statements.map (·.sqlText)
  conflicts := conflicts.map fun conflict => (conflict.kind, conflict.scope, conflict.message)

def orderedPair {α : Type*} (currentBranch : BranchName) (current other : α) : α × α :=
  match currentBranch with
  | .ours => (current, other)
  | .theirs => (other, current)

def pairKey (currentBranch : BranchName) (current other : LoggedTransaction)
    (conflicts : List StatementConflict) : ConflictResolutionKey :=
  let pair := orderedPair currentBranch current other
  conflictResolutionKey pair.1 pair.2 conflicts

/-- The execution scanner and the accepted replay over the two databases, with a world `W`
that holds everything they read and change. -/
structure Databases (W : Type) where
  start : LoggedTransaction → W → ConflictCheckResult × W
  checkNext : Finset ConflictKind → LoggedTransaction → LoggedTransaction →
    ConflictCheckResult → W → ConflictCheckResult × W
  acceptNext : LoggedTransaction → LoggedTransaction → ConflictCheckResult → W →
    ConflictCheckResult × W
  close : W → W
  applyAcceptedTransaction : LoggedTransaction → W → Option StatementConflict × W

inductive Event
  /-- The user let a statement with a replay warning pass. -/
  | acceptsWarning (statement : LoggedStatement) (warning : String)
  | deleted (transaction : LoggedTransaction)
  | edited (old new : LoggedTransaction)
  /-- A scan of the current transaction begins, with the kinds that have to be checked. -/
  | scan (current : LoggedTransaction) (kinds : Finset ConflictKind)
  | checkNext (enabled : Finset ConflictKind) (current other : LoggedTransaction)
      (result : ConflictCheckResult)
  | acceptNext (current other : LoggedTransaction) (result : ConflictCheckResult)
  | userAccepts (current other : LoggedTransaction) (conflicts : List StatementConflict)
  /-- The current transaction is replayed while `opposite` is the other queue. -/
  | apply (current : LoggedTransaction) (opposite : List LoggedTransaction)
      (failure : Option StatementConflict)

structure Session (W : Type) where
  world : W
  trace : List Event

namespace Session

variable {W : Type}

def record (session : Session W) (event : Event) : Session W :=
  { session with trace := session.trace ++ [event] }

def start (databases : Databases W) (current : LoggedTransaction) (session : Session W) :
    ConflictCheckResult × Session W :=
  let (result, world) := databases.start current session.world
  (result, { session with world := world })

def checkNext (databases : Databases W) (enabled : Finset ConflictKind)
    (currentBranch : BranchName) (current other : LoggedTransaction)
    (staticResult : ConflictCheckResult) (session : Session W) :
    ConflictCheckResult × Session W :=
  let pair := orderedPair currentBranch current other
  let (result, world) := databases.checkNext enabled pair.1 pair.2 staticResult session.world
  (result, ({ session with world := world }).record (.checkNext enabled current other result))

def acceptNext (databases : Databases W) (current other : LoggedTransaction)
    (acceptedResult : ConflictCheckResult) (session : Session W) :
    ConflictCheckResult × Session W :=
  let (result, world) := databases.acceptNext current other acceptedResult session.world
  (result, ({ session with world := world }).record (.acceptNext current other result))

def close (databases : Databases W) (session : Session W) : Session W :=
  { session with world := databases.close session.world }

def applyAcceptedTransaction (databases : Databases W) (current : LoggedTransaction)
    (opposite : List LoggedTransaction) (session : Session W) :
    Option StatementConflict × Session W :=
  let (failure, world) := databases.applyAcceptedTransaction current session.world
  (failure, ({ session with world := world }).record (.apply current opposite failure))

@[simp] lemma trace_record (session : Session W) (event : Event) :
    (session.record event).trace = session.trace ++ [event] := rfl

@[simp] lemma trace_start (databases : Databases W) (current : LoggedTransaction)
    (session : Session W) : (session.start databases current).2.trace = session.trace := rfl

end Session

structure OrderedRemainingConflictScanner where
  currentTransaction : LoggedTransaction
  currentBranch : BranchName
  enabledKinds : Finset ConflictKind
  acceptedPairKeys : Finset ConflictResolutionKey
  started : Bool
  nextOtherIndex : ℕ

abbrev FoundConflict := Option ℕ × ConflictCheckResult × Option ConflictResolutionKey

/-- Why the code stops: a prompt waits for input, or an exception is raised. -/
inductive Stop
  | waiting
  | raised (message : String)
  deriving DecidableEq

namespace OrderedRemainingConflictScanner

variable {W : Type} (context : ConflictCheckContext) (databases : Databases W)

def new (currentTransaction : LoggedTransaction) (currentBranch : BranchName)
    (enabledKinds : Finset ConflictKind) (acceptedPairKeys : Finset ConflictResolutionKey) :
    OrderedRemainingConflictScanner :=
  ⟨currentTransaction, currentBranch, enabledKinds, acceptedPairKeys, false, 0⟩

def enableKinds (scanner : OrderedRemainingConflictScanner) (kinds : Finset ConflictKind) :
    OrderedRemainingConflictScanner :=
  { scanner with enabledKinds := scanner.enabledKinds ∪ kinds }

def acceptResolutionKey (scanner : OrderedRemainingConflictScanner) :
    Option ConflictResolutionKey → OrderedRemainingConflictScanner
  | none => scanner
  | some key => { scanner with acceptedPairKeys := insert key scanner.acceptedPairKeys }

def advance (scanner : OrderedRemainingConflictScanner) : OrderedRemainingConflictScanner :=
  { scanner with nextOtherIndex := scanner.nextOtherIndex + 1 }

def acceptCurrentConflict (scanner : OrderedRemainingConflictScanner)
    (remainingOther : List LoggedTransaction) (otherIndex : ℕ) (result : ConflictCheckResult)
    (resolutionKey : Option ConflictResolutionKey) (session : Session W) :
    Except Stop (Option FoundConflict × OrderedRemainingConflictScanner × Session W) :=
  -- can only accept the conflict the scanner is currently paused on
  if otherIndex ≠ scanner.nextOtherIndex then
    .error (.raised "accepted conflict is not at the scanner position")
  else
    let scanner := scanner.acceptResolutionKey resolutionKey
    match remainingOther[otherIndex]? with
    | none => .error (.raised "deque index out of range")
    | some other =>
      let (advanceResult, session) :=
        session.acceptNext databases scanner.currentTransaction other result
      if advanceResult.hasConflict then
        .ok (some (some otherIndex, advanceResult, resolutionKey), scanner, session)
      else .ok (none, scanner.advance, session)

def staticResult (scanner : OrderedRemainingConflictScanner) (other : LoggedTransaction) :
    ConflictCheckResult :=
  let pair := orderedPair scanner.currentBranch scanner.currentTransaction other
  staticAnalysisMatching context pair.1.metadata pair.2.metadata (some scanner.enabledKinds)
    (some scanner.currentBranch) (some (transactionLabel pair.1)) (some (transactionLabel pair.2))

/-- Check the opposite transactions from the scanner position on. -/
def scanSuffix (scanner : OrderedRemainingConflictScanner) (session : Session W) :
    List LoggedTransaction → Option FoundConflict × OrderedRemainingConflictScanner × Session W
  | [] => (none, scanner, session)
  | other :: rest =>
    let (result, session) := session.checkNext databases scanner.enabledKinds
      scanner.currentBranch scanner.currentTransaction other (scanner.staticResult context other)
    if result.hasConflict then
      let resolutionKey := pairKey scanner.currentBranch scanner.currentTransaction other
        result.conflicts
      if resolutionKey ∈ scanner.acceptedPairKeys then
        let (advanceResult, session) :=
          session.acceptNext databases scanner.currentTransaction other result
        if advanceResult.hasConflict then
          (some (some scanner.nextOtherIndex, advanceResult, some resolutionKey), scanner,
            session)
        else scanSuffix scanner.advance session rest
      else (some (some scanner.nextOtherIndex, result, some resolutionKey), scanner, session)
    else scanSuffix scanner.advance session rest

def nextConflict (scanner : OrderedRemainingConflictScanner)
    (remainingOther : List LoggedTransaction) (session : Session W) :
    Option FoundConflict × OrderedRemainingConflictScanner × Session W :=
  if scanner.started then
    scanner.scanSuffix context databases session (remainingOther.drop scanner.nextOtherIndex)
  else
    let scanner := { scanner with started := true }
    let (startResult, session) := session.start databases scanner.currentTransaction
    if startResult.hasConflict then (some (none, startResult, none), scanner, session)
    else
      scanner.scanSuffix context databases session (remainingOther.drop scanner.nextOtherIndex)

end OrderedRemainingConflictScanner

/-- The queue-relative view of one rolling scan. Without a scanner there is nothing to
check. -/
structure RemainingCurrentConflictScan where
  current : LoggedTransaction
  currentBranch : BranchName
  scanner : Option OrderedRemainingConflictScanner

abbrev Pair := ConflictPair ConflictResolutionKey

def conflictPair (currentBranch : BranchName) (conflict : FoundConflict) : Pair where
  currentBranch := currentBranch
  otherIndex := conflict.1
  conflicts := conflict.2.1.conflicts
  resolutionKey := conflict.2.2
  isStandalone := conflict.1.isNone

namespace RemainingCurrentConflictScan

variable {W : Type} (context : ConflictCheckContext) (databases : Databases W)

def new (current : LoggedTransaction) (currentBranch : BranchName)
    (remainingOtherIndex : RemainingMetadataIndex)
    (acceptedPairKeys : Finset ConflictResolutionKey) : RemainingCurrentConflictScan :=
  let enabledKinds := remainingIndividualCheckKinds context current remainingOtherIndex
  { current := current
    currentBranch := currentBranch
    scanner := if enabledKinds = ∅ then none
      else some (.new current currentBranch enabledKinds acceptedPairKeys) }

def nextConflict (scan : RemainingCurrentConflictScan) (remainingOther : List LoggedTransaction)
    (session : Session W) : Option Pair × RemainingCurrentConflictScan × Session W :=
  match scan.scanner with
  | none => (none, scan, session)
  | some scanner =>
    let (conflict, scanner, session) :=
      scanner.nextConflict context databases remainingOther session
    (conflict.map (conflictPair scan.currentBranch), { scan with scanner := some scanner },
      session)

def acceptCurrentConflict (scan : RemainingCurrentConflictScan) (conflict : Pair)
    (remainingOther : List LoggedTransaction) (session : Session W) :
    Except Stop (Option Pair × RemainingCurrentConflictScan × Session W) :=
  match scan.scanner, conflict.otherIndex with
  | none, _ => .error (.raised "cannot accept without an active scanner")
  | some _, none => .error (.raised "cannot accept a standalone replay conflict")
  | some scanner, some otherIndex => do
    let (accepted, scanner, session) ← scanner.acceptCurrentConflict databases remainingOther
      otherIndex (.ofConflicts conflict.conflicts) conflict.resolutionKey session
    return (accepted.map (conflictPair scan.currentBranch),
      { scan with scanner := some scanner }, session)

def enableChecksAfterOtherEdit (scan : RemainingCurrentConflictScan)
    (remainingOtherIndex : RemainingMetadataIndex) : Except Stop RemainingCurrentConflictScan :=
  match scan.scanner with
  | none => .error (.raised "cannot enable checks without an active scanner")
  | some scanner =>
    let neededKinds := remainingIndividualCheckKinds context scan.current remainingOtherIndex
    .ok { scan with scanner := some (scanner.enableKinds neededKinds) }

def close (scan : RemainingCurrentConflictScan) (session : Session W) : Session W :=
  match scan.scanner with
  | none => session
  | some _ => session.close databases

end RemainingCurrentConflictScan

end SqliteReconcile.ConflictDetection
