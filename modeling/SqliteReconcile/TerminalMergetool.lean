import SqliteReconcile.ConflictDetection
import SqliteReconcile.TerminalUi

/-! The merge loop as a machine: one step runs one round of the innermost loop of the code,
with the databases and the user's answers as parameters. -/
namespace SqliteReconcile.TerminalMergetool
open Models SqlMetadata RemainingMetadata LogMerge TerminalUi ConflictDetection

structure Sides (α : Type*) where
  ours : α
  theirs : α

namespace Sides

variable {α : Type*}

def get (sides : Sides α) : BranchName → α
  | .ours => sides.ours
  | .theirs => sides.theirs

def set (sides : Sides α) (branch : BranchName) (value : α) : Sides α :=
  match branch with
  | .ours => { sides with ours := value }
  | .theirs => { sides with theirs := value }

@[simp] lemma get_set_self (sides : Sides α) (branch : BranchName) (value : α) :
    (sides.set branch value).get branch = value := by
  cases branch <;> rfl

@[simp] lemma get_set_other (sides : Sides α) (branch : BranchName) (value : α) :
    (sides.set branch value).get branch.other = sides.get branch.other := by
  cases branch <;> rfl

lemma get_set (sides : Sides α) (branch target : BranchName) (value : α) :
    (sides.set branch value).get target = if target = branch then value else sides.get target := by
  cases branch <;> cases target <;> rfl

end Sides

structure BranchReplayIssue where
  conflict : StatementConflict
  warning : Option (LoggedStatement × String)

def BranchReplayIssue.allowAccept (issue : BranchReplayIssue) : Bool := issue.warning.isSome

/-- What the code runs against: the two databases, the branch-local replay, the SQL reader,
and a user who answers each prompt with a list of inputs. -/
structure Surroundings (W : Type) where
  databases : Databases W
  branchTransactionReplayIssue : LoggedTransaction → W → Option BranchReplayIssue × W
  reader : SqlReader
  inputs : W → List UserInput × W

/-- The state shared by the turns of `_resolve_merge_transactions`. -/
structure MergeState (W : Type) where
  session : Session W
  queues : Sides (List LoggedTransaction)
  metadataIndexes : Sides RemainingMetadataIndex

namespace MergeState

variable {W : Type}

def record (m : MergeState W) (event : Event) : MergeState W :=
  { m with session := m.session.record event }

def replaceOrDeleteTransaction (context : ConflictCheckContext) (m : MergeState W)
    (branch : BranchName) (index : ℕ) (replacement : Option LoggedTransaction) :
    Except Stop (MergeState W) :=
  let transactions := m.queues.get branch
  match transactions[index]? with
  | none => .error (.raised "deque index out of range")
  | some old =>
    let metadataIndex := (m.metadataIndexes.get branch).removeTransaction context old
    match replacement with
    | none => .ok
      { session := m.session.record (.deleted old)
        queues := m.queues.set branch (transactions.eraseIdx index)
        metadataIndexes := m.metadataIndexes.set branch metadataIndex }
    | some new => .ok
      { session := m.session.record (.edited old new)
        queues := m.queues.set branch (transactions.set index new)
        metadataIndexes :=
          m.metadataIndexes.set branch (metadataIndex.addTransaction context new) }

end MergeState

inductive StandaloneReplayOutcome
  | currentRemoved
  | currentChanged
  deriving DecidableEq

inductive PairSideOutcome
  | unchanged
  | edited
  | deleted
  deriving DecidableEq

inductive PairConflictOutcome
  | accepted
  | resolved (outcomes : Sides PairSideOutcome)

section
variable {W : Type} (context : ConflictCheckContext) (surroundings : Surroundings W)

def MergeState.readInputs (m : MergeState W) : List UserInput × MergeState W :=
  let (inputs, world) := surroundings.inputs m.session.world
  (inputs, { m with session := { m.session with world := world } })

def resolveStandaloneReplay (m : MergeState W) (scope : BranchName) :
    Except Stop (StandaloneReplayOutcome × MergeState W) :=
  match m.queues.get scope with
  | [] => .error (.raised "deque index out of range")
  | target :: _ =>
    let (inputs, m) := m.readInputs surroundings
    match promptStandaloneTransactionResolution surroundings.reader false scope target inputs with
    | none => .error .waiting
    | some none | some (some []) => do
      let m ← m.replaceOrDeleteTransaction context scope 0 none
      return (.currentRemoved, m)
    | some (some (first :: rest)) => do
      let m ← m.replaceOrDeleteTransaction context scope 0
        (some (transactionWithStatements target (first :: rest)))
      return (.currentChanged, m)

def isReviewablePairConflict (conflicts : List StatementConflict) : Bool :=
  !conflicts.isEmpty && conflicts.all fun conflict =>
    conflict.kind != .integrity && conflict.kind != .replayError

def indexForBranch (conflict : Pair) (branch : BranchName) : Except Stop ℕ :=
  if branch = conflict.currentBranch then .ok 0
  else match conflict.otherIndex with
    | none => .error (.raised "standalone conflict has no opposite-branch index")
    | some index => .ok index

def pairSideOutcome (changed : Bool) (replacement : Option LoggedTransaction) :
    PairSideOutcome :=
  if changed then (match replacement with | none => .deleted | some _ => .edited)
  else .unchanged

/-- Replace or delete one side when the user changed it. -/
def MergeState.applyChange (m : MergeState W) (conflict : Pair) (branch : BranchName)
    (changed : Bool) (replacement : Option LoggedTransaction) : Except Stop (MergeState W) :=
  if changed then do
    let index ← indexForBranch conflict branch
    m.replaceOrDeleteTransaction context branch index replacement
  else .ok m

def queuedTransaction (m : MergeState W) (conflict : Pair) (branch : BranchName) :
    Except Stop LoggedTransaction := do
  let index ← indexForBranch conflict branch
  match (m.queues.get branch)[index]? with
  | none => .error (.raised "deque index out of range")
  | some transaction => return transaction

def resolveRemainingPairConflict (m : MergeState W) (conflict : Pair) :
    Except Stop (PairConflictOutcome × MergeState W) := do
  let oursTransaction ← queuedTransaction m conflict .ours
  let theirsTransaction ← queuedTransaction m conflict .theirs
  let (inputs, m) := m.readInputs surroundings
  match promptPairTransactionResolution surroundings.reader
      (isReviewablePairConflict conflict.conflicts) oursTransaction theirsTransaction inputs with
  | none => .error .waiting
  | some resolution =>
    match resolution.action with
    | .accept =>
      let pair := orderedPair conflict.currentBranch oursTransaction theirsTransaction
      return (.accepted, m.record (.userAccepts pair.1 pair.2 conflict.conflicts))
    | .replace =>
      let m ← m.applyChange context conflict .ours resolution.changedOurs resolution.ours
      let m ← m.applyChange context conflict .theirs resolution.changedTheirs resolution.theirs
      return (.resolved ⟨pairSideOutcome resolution.changedOurs resolution.ours,
        pairSideOutcome resolution.changedTheirs resolution.theirs⟩, m)

/-- Why the first unsafe statement of a transaction cannot replay. -/
def unresolvedReplaySafetyConflict (transaction : LoggedTransaction) : Option String :=
  transaction.statements.findSome? unresolvedReplayBlockReason

/-- The local variables of `_check_accept_current`. -/
structure Turn where
  acceptedPairKeys : Finset ConflictResolutionKey
  scan : Option RemainingCurrentConflictScan
  acceptedFollowupConflict : Option Pair

def Turn.start : Turn := ⟨∅, none, none⟩

def closeScan (scan : Option RemainingCurrentConflictScan) (m : MergeState W) : MergeState W :=
  match scan with
  | none => m
  | some scan => { m with session := scan.close surroundings.databases m.session }

/-- Where a round of the loop of `_check_accept_current` leads: another round, or the return
of the call. -/
def afterStandaloneReplay (turn : Turn) :
    StandaloneReplayOutcome × MergeState W → MergeState W × Option Turn
  | (.currentRemoved, m) => (m, none)
  | (.currentChanged, m) => (m, some { turn with scan := none })

/-- The scan of this turn, opened when there is none. -/
def openScan (m : MergeState W) (branch : BranchName) (current : LoggedTransaction)
    (turn : Turn) : RemainingCurrentConflictScan × MergeState W :=
  match turn.scan with
  | some scan => (scan, m)
  | none =>
    let index := m.metadataIndexes.get branch.other
    (.new context current branch index turn.acceptedPairKeys,
      m.record (.scan current (remainingIndividualCheckKinds context current index)))

/-- A pair conflict is shown to the user and resolved. -/
def pairConflictRound (m : MergeState W) (branch : BranchName) (turn : Turn)
    (scan : RemainingCurrentConflictScan) (conflict : Pair) :
    Except Stop (MergeState W × Option Turn) := do
  let (outcome, m) ← resolveRemainingPairConflict context surroundings m conflict
  match outcome with
  | .accepted =>
    let acceptedPairKeys := match conflict.resolutionKey with
      | none => turn.acceptedPairKeys
      | some key => insert key turn.acceptedPairKeys
    let (followup, scan, session) ← scan.acceptCurrentConflict surroundings.databases conflict
      (m.queues.get branch.other) m.session
    return ({ m with session := session }, some ⟨acceptedPairKeys, some scan, followup⟩)
  | .resolved outcomes =>
    match outcomes.get branch with
    | .deleted => return (closeScan surroundings (some scan) m, none)
    | .edited => return (closeScan surroundings (some scan) m, some { turn with scan := none })
    | .unchanged =>
      if outcomes.get branch.other = .edited then
        let scan ← scan.enableChecksAfterOtherEdit context (m.metadataIndexes.get branch.other)
        return (m, some { turn with scan := some scan })
      else return (m, some { turn with scan := some scan })

/-- Nothing is left to check: the current transaction is replayed for good. -/
def applyRound (m : MergeState W) (branch : BranchName) (turn : Turn)
    (current : LoggedTransaction) (rest : List LoggedTransaction) :
    Except Stop (MergeState W × Option Turn) :=
  let (replayError, session) := m.session.applyAcceptedTransaction surroundings.databases current
    (m.queues.get branch.other)
  let m := { m with session := session }
  match replayError with
  | some _ =>
    (afterStandaloneReplay turn <$> resolveStandaloneReplay context surroundings m branch)
  | none =>
    .ok ({ m with
        queues := m.queues.set branch rest
        metadataIndexes := m.metadataIndexes.set branch
          ((m.metadataIndexes.get branch).removeTransaction context current) }, none)

/-- The conflict to resolve in this round: one that accepting the last conflict led to, or
the next one of the scan. -/
def takeConflict (m : MergeState W) (branch : BranchName) (turn : Turn)
    (scan : RemainingCurrentConflictScan) :
    Option Pair × RemainingCurrentConflictScan × Session W :=
  match turn.acceptedFollowupConflict with
  | some followup => (some followup, scan, m.session)
  | none =>
    scan.nextConflict context surroundings.databases (m.queues.get branch.other) m.session

/-- The round after the scan has answered. -/
def scannedRound (m : MergeState W) (branch : BranchName) (turn : Turn)
    (scan : RemainingCurrentConflictScan) (current : LoggedTransaction)
    (rest : List LoggedTransaction) : Option Pair → Except Stop (MergeState W × Option Turn)
  | some conflict =>
    if conflict.isStandalone ∧ conflict.currentBranch = branch then do
      -- the current transaction does not even replay on control
      let (outcome, m) ← resolveStandaloneReplay context surroundings m branch
      return afterStandaloneReplay turn (outcome, closeScan surroundings (some scan) m)
    else pairConflictRound context surroundings m branch turn scan conflict
  | none =>
    applyRound context surroundings (closeScan surroundings (some scan) m) branch turn current rest

/-- One round of the loop of `_check_accept_current`. -/
def turnStep (m : MergeState W) (branch : BranchName) (turn : Turn) :
    Except Stop (MergeState W × Option Turn) :=
  match m.queues.get branch with
  | [] => .ok (m, none)
  | current :: rest =>
    match unresolvedReplaySafetyConflict current with
    | some _ =>
      let m := closeScan surroundings turn.scan m
      (afterStandaloneReplay turn <$> resolveStandaloneReplay context surroundings m branch)
    | none =>
      let (scan, m) := openScan context m branch current turn
      let (conflict, scan, session) := takeConflict context surroundings m branch turn scan
      scannedRound context surroundings { m with session := session } branch
        { turn with acceptedFollowupConflict := none } scan current rest conflict

/-- Where `_resolve_merge_transactions` is. -/
inductive Point
  /-- Replaying a branch on its own: the transactions that passed, the rest still queued. -/
  | branchReplay (branch : BranchName) (resolved : List LoggedTransaction)
  /-- At the test of the loop over both queues. -/
  | round
  | turn (branch : BranchName) (turn : Turn)
  | finished

structure State (W : Type) where
  merge : MergeState W
  point : Point

def acceptWarningIfStatementStillPresent (statements : List LoggedStatement)
    (warningStatement : LoggedStatement) (warning : String) : List LoggedStatement :=
  match statements with
  | [] => []
  | statement :: rest =>
    if statement = warningStatement then acceptReplayWarning statement warning :: rest
    else statement :: acceptWarningIfStatementStillPresent rest warningStatement warning

def acceptWarning (statements : List LoggedStatement) :
    Option (LoggedStatement × String) → List LoggedStatement
  | none => statements
  | some (statement, warning) => acceptWarningIfStatementStillPresent statements statement warning

/-- What the user did to a transaction that did not replay on its own branch. -/
def branchReplayEvents (transaction : LoggedTransaction) (statements : List LoggedStatement)
    (warning : Option (LoggedStatement × String)) : List Event :=
  (if statements = transaction.statements then []
    else [.edited transaction (transactionWithStatements transaction statements)]) ++
  match warning with
  | none => []
  | some (statement, warning) =>
    if statement ∈ statements then [.acceptsWarning statement warning] else []

/-- One attempt to replay the next transaction of a branch on its own. -/
def branchReplayStep (m : MergeState W) (branch : BranchName)
    (resolved : List LoggedTransaction) (current : LoggedTransaction)
    (rest : List LoggedTransaction) : Except Stop (State W) :=
  let (issue, world) := surroundings.branchTransactionReplayIssue current m.session.world
  let m := { m with session := { m.session with world := world } }
  match issue with
  | none => .ok ⟨{ m with queues := m.queues.set branch rest },
      .branchReplay branch (resolved ++ [current])⟩
  | some issue =>
    let (inputs, m) := m.readInputs surroundings
    match promptStandaloneTransactionResolution surroundings.reader issue.allowAccept branch
        current inputs with
    | none => .error .waiting
    | some none | some (some []) => .ok
      ⟨{ m with
          session := m.session.record (.deleted current)
          queues := m.queues.set branch rest }, .branchReplay branch resolved⟩
    | some (some (first :: others)) =>
      let statements := acceptWarning (first :: others) issue.warning
      .ok ⟨{ m with
          session := (branchReplayEvents current (first :: others) issue.warning).foldl
            Session.record m.session
          queues := m.queues.set branch
            (transactionWithStatements current statements :: rest) },
        .branchReplay branch resolved⟩

/-- The branch is replayed: its queue is what passed. -/
def branchReplayDone (m : MergeState W) (branch : BranchName)
    (resolved : List LoggedTransaction) : State W :=
  let m := { m with queues := m.queues.set branch resolved }
  match branch with
  | .ours => ⟨m, .branchReplay .theirs []⟩
  | .theirs =>
    ⟨{ m with metadataIndexes :=
        ⟨.fromTransactions context (m.queues.get .ours),
          .fromTransactions context (m.queues.get .theirs)⟩ }, .round⟩

/-- One step of `_resolve_merge_transactions`. -/
def step (state : State W) : Except Stop (State W) :=
  match state.point with
  | .branchReplay branch resolved =>
    match state.merge.queues.get branch with
    | [] => .ok (branchReplayDone context state.merge branch resolved)
    | current :: rest => branchReplayStep surroundings state.merge branch resolved current rest
  | .round =>
    if state.merge.queues.get .ours = [] ∧ state.merge.queues.get .theirs = [] then
      .ok { state with point := .finished }
    else .ok { state with point := .turn .ours .start }
  | .turn branch turn => do
    let (m, next) ← turnStep context surroundings state.merge branch turn
    match next, branch with
    | some turn, _ => return ⟨m, .turn branch turn⟩
    | none, .ours => return ⟨m, .turn .theirs .start⟩
    | none, .theirs => return ⟨m, .round⟩
  | .finished => .error (.raised "finished")

def initial (world : W) (rows : Sides (List LogTableRow)) : State W where
  merge :=
    { session := ⟨world, []⟩
      queues := ⟨loadLoggedTransactions surroundings.reader .ours rows.ours,
        loadLoggedTransactions surroundings.reader .theirs rows.theirs⟩
      metadataIndexes := ⟨.new, .new⟩ }
  point := .branchReplay .ours []

/-- States of a merge of the loaded branches. -/
def Reachable (world : W) (rows : Sides (List LogTableRow)) : State W → Prop :=
  Relation.ReflTransGen (fun state next => step context surroundings state = .ok next)
    (initial surroundings world rows)

def run : ℕ → State W → Except Stop (State W)
  | 0, state => .ok state
  | n + 1, state => step context surroundings state >>= run n

lemma reachable_run {world : W} {rows : Sides (List LogTableRow)} (n : ℕ) :
    ∀ {state last : State W}, Reachable context surroundings world rows state →
      run context surroundings n state = .ok last →
      Reachable context surroundings world rows last := by
  induction n with
  | zero =>
    intro state last h hrun
    cases hrun
    exact h
  | succ n ih =>
    intro state last h hrun
    simp only [run] at hrun
    cases hstep : step context surroundings state with
    | error stop =>
      rw [hstep] at hrun
      cases hrun
    | ok next =>
      rw [hstep] at hrun
      exact ih (h.tail hstep) hrun

def TurnRun (branch : BranchName) : MergeState W × Turn → MergeState W × Turn → Prop :=
  Relation.ReflTransGen fun state next =>
    turnStep context surroundings state.1 branch state.2 = .ok (next.1, some next.2)

/-- A call of `_check_accept_current` that returns. -/
def CheckAcceptCurrent (branch : BranchName) (m m' : MergeState W) : Prop :=
  ∃ state, TurnRun context surroundings branch (m, .start) state ∧
    turnStep context surroundings state.1 branch state.2 = .ok (m', none)

end

end SqliteReconcile.TerminalMergetool
