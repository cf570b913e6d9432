import SqliteReconcile.AcceptanceSoundness

/-!
# The protocol of a scan

Over every run of the merge, the databases see scans that are started, advanced and closed
in turn, and transactions are applied between them only.
-/
namespace SqliteReconcile.ScanProtocol
open Outcomes (bind_eq_ok)
open Models SqlMetadata RemainingMetadata LogMerge TerminalUi ConflictDetection TerminalMergetool
  MergeConservation ScanSoundness AcceptanceSoundness

variable {W : Type}

/-- The event of an applied transaction, or of one that could not be applied. -/
def IsApply : Event → Prop
  | .apply .. => True
  | _ => False

/-- What holds of the session while a scan is open, or while none is, and that every call
keeps it so. -/
structure Protocol (surroundings : Surroundings W) (holds : Bool → Session W → Prop) :
    Prop where
  inputs : ∀ {isOpen session}, holds isOpen session →
    holds isOpen { session with world := (surroundings.inputs session.world).2 }
  record : ∀ {isOpen session event}, ¬ IsApply event → holds isOpen session →
    holds isOpen (session.record event)
  branchReplay : ∀ {session} (transaction : LoggedTransaction), holds false session →
    holds false { session with
      world := (surroundings.branchTransactionReplayIssue transaction session.world).2 }
  start : ∀ {session} (current : LoggedTransaction), holds false session →
    holds true (session.start surroundings.databases current).2
  checkNext : ∀ {session} (enabled : Finset ConflictKind) (branch : BranchName)
    (current other : LoggedTransaction) (result : ConflictCheckResult), holds true session →
    holds true (session.checkNext surroundings.databases enabled branch current other result).2
  acceptNext : ∀ {session} (current other : LoggedTransaction) (result : ConflictCheckResult),
    holds true session →
    holds true (session.acceptNext surroundings.databases current other result).2
  close : ∀ {isOpen session}, holds isOpen session →
    holds false (session.close surroundings.databases)
  apply : ∀ {session} (current : LoggedTransaction) (opposite : List LoggedTransaction),
    holds false session →
    holds false (session.applyAcceptedTransaction surroundings.databases current opposite).2

def Started (scan : RemainingCurrentConflictScan) : Prop :=
  ∃ scanner, scan.scanner = some scanner ∧ scanner.started = true

lemma not_started {scan : RemainingCurrentConflictScan} (h : scan.scanner = none) :
    ¬ Started scan := by
  rintro ⟨scanner, hscanner, -⟩
  rw [h] at hscanner
  cases hscanner

/-- The session fits to the scan of a turn. -/
structure Holds (holds : Bool → Session W → Prop) (session : Session W)
    (scan : RemainingCurrentConflictScan) : Prop where
  opened : Started scan → holds true session
  idle : ¬ Started scan → holds false session

/-- The session fits to the local variables of a turn. -/
structure TurnHolds (holds : Bool → Session W → Prop) (session : Session W) (turn : Turn) :
    Prop where
  scanning : ∀ scan ∈ turn.scan, Holds holds session scan
  idle : turn.scan = none → holds false session
  followup : turn.acceptedFollowupConflict.isSome → ∃ scan ∈ turn.scan, Started scan

/-- A round leaves the session as its turn needs it, and idle when the turn is over. -/
def RoundHolds (holds : Bool → Session W → Prop) (result : MergeState W × Option Turn) : Prop :=
  (∀ turn ∈ result.2, TurnHolds holds result.1.session turn) ∧
    (result.2 = none → holds false result.1.session)

section
variable {context : ConflictCheckContext} {surroundings : Surroundings W}
  {holds : Bool → Session W → Prop} (protocol : Protocol surroundings holds)
  {m m' : MergeState W} {branch : BranchName} {session session' : Session W} {isOpen : Bool}
include protocol

lemma holds_scanSuffix (suffix : List LoggedTransaction) :
    ∀ {session : Session W} (scanner : OrderedRemainingConflictScanner), holds true session →
      scanner.started = true →
      holds true (scanner.scanSuffix context surroundings.databases session suffix).2.2 ∧
        (scanner.scanSuffix context surroundings.databases session suffix).2.1.started = true := by
  induction suffix with
  | nil => exact fun scanner h hstarted => ⟨h, hstarted⟩
  | cons other rest ih =>
    intro session scanner h hstarted
    have hchecked := protocol.checkNext scanner.enabledKinds scanner.currentBranch
      scanner.currentTransaction other (scanner.staticResult context other) h
    unfold OrderedRemainingConflictScanner.scanSuffix
    cases hcheck : session.checkNext surroundings.databases scanner.enabledKinds
        scanner.currentBranch scanner.currentTransaction other
        (scanner.staticResult context other) with
    | mk result checked =>
      rw [hcheck] at hchecked
      simp only
      split
      · have haccepted := protocol.acceptNext scanner.currentTransaction other result hchecked
        split
        · split
          · exact ⟨haccepted, hstarted⟩
          · exact ih scanner.advance haccepted hstarted
        · exact ⟨hchecked, hstarted⟩
      · exact ih scanner.advance hchecked hstarted

lemma holds_nextConflict {scan : RemainingCurrentConflictScan}
    (others : List LoggedTransaction) (h : Holds holds session scan) :
    Holds holds (scan.nextConflict context surroundings.databases others session).2.2
        (scan.nextConflict context surroundings.databases others session).2.1 ∧
      ((scan.nextConflict context surroundings.databases others session).1.isSome →
        Started (scan.nextConflict context surroundings.databases others session).2.1) := by
  unfold RemainingCurrentConflictScan.nextConflict
  cases hscanner : scan.scanner with
  | none =>
    simp only
    have hnot := not_started hscanner
    exact ⟨⟨fun hstarted => absurd hstarted hnot, fun _ => h.idle hnot⟩, by simp⟩
  | some scanner =>
    have hresult : holds true (scanner.nextConflict context surroundings.databases others
        session).2.2 ∧
        (scanner.nextConflict context surroundings.databases others session).2.1.started =
          true := by
      unfold OrderedRemainingConflictScanner.nextConflict
      split
      · rename_i hstarted
        exact holds_scanSuffix protocol _ scanner (h.opened ⟨scanner, hscanner, hstarted⟩) hstarted
      · rename_i hstarted
        have hidle : holds false session := by
          apply h.idle
          rintro ⟨scanner', hs, hstarted'⟩
          rw [hscanner] at hs
          cases hs
          exact hstarted hstarted'
        have hstart := protocol.start scanner.currentTransaction hidle
        simp only
        split
        · exact ⟨hstart, rfl⟩
        · exact holds_scanSuffix protocol _ _ hstart rfl
    have hstarted : Started { scan with scanner := some (scanner.nextConflict context
        surroundings.databases others session).2.1 } := ⟨_, rfl, hresult.2⟩
    exact ⟨⟨fun _ => hresult.1, fun hnot => absurd hstarted hnot⟩, fun _ => hstarted⟩

lemma holds_acceptCurrentConflict {scan scan' : RemainingCurrentConflictScan} {conflict : Pair}
    {others : List LoggedTransaction} {followup : Option Pair} (h : Holds holds session scan)
    (hstarted : Started scan)
    (haccept : scan.acceptCurrentConflict surroundings.databases conflict others session =
      .ok (followup, scan', session')) :
    Holds holds session' scan' ∧ Started scan' := by
  obtain ⟨scanner, hscanner, hstarted⟩ := hstarted
  have hopen := h.opened ⟨scanner, hscanner, hstarted⟩
  unfold RemainingCurrentConflictScan.acceptCurrentConflict at haccept
  rw [hscanner] at haccept
  cases hindex : conflict.otherIndex with
  | none =>
    rw [hindex] at haccept
    cases haccept
  | some index =>
    rw [hindex] at haccept
    obtain ⟨⟨accepted, scanner', result⟩, hinner, haccept⟩ := bind_eq_ok.mp haccept
    cases haccept
    have hresult : holds true session' ∧ scanner'.started = true := by
      unfold OrderedRemainingConflictScanner.acceptCurrentConflict at hinner
      split at hinner
      · cases hinner
      · simp only at hinner
        have hkept : (scanner.acceptResolutionKey conflict.resolutionKey).started = true := by
          cases conflict.resolutionKey <;> exact hstarted
        split at hinner
        · cases hinner
        · rename_i other hother
          have haccepted := protocol.acceptNext
            (scanner.acceptResolutionKey conflict.resolutionKey).currentTransaction other
            (.ofConflicts conflict.conflicts) hopen
          split at hinner
          · cases hinner
            exact ⟨haccepted, hkept⟩
          · cases hinner
            exact ⟨haccepted, hkept⟩
    have hstarted' : Started { scan with scanner := some scanner' } := ⟨scanner', rfl, hresult.2⟩
    exact ⟨⟨fun _ => hresult.1, fun hnot => absurd hstarted' hnot⟩, hstarted'⟩

lemma idle_closeScan {scan : RemainingCurrentConflictScan} (h : Holds holds m.session scan) :
    holds false (closeScan surroundings (some scan) m).session := by
  simp only [closeScan, RemainingCurrentConflictScan.close]
  cases hscanner : scan.scanner with
  | none => exact h.idle (not_started hscanner)
  | some scanner =>
    by_cases hstarted : Started scan
    · exact protocol.close (h.opened hstarted)
    · exact protocol.close (h.idle hstarted)

lemma holds_replaceOrDelete {index : ℕ} {replacement : Option LoggedTransaction}
    (h : holds isOpen m.session)
    (hok : m.replaceOrDeleteTransaction context branch index replacement = .ok m') :
    holds isOpen m'.session := by
  unfold MergeState.replaceOrDeleteTransaction at hok
  simp only at hok
  split at hok
  · cases hok
  · cases replacement with
    | none =>
      cases hok
      exact protocol.record id h
    | some new =>
      cases hok
      exact protocol.record id h

lemma holds_resolveStandaloneReplay {outcome : StandaloneReplayOutcome}
    (h : holds isOpen m.session)
    (hok : resolveStandaloneReplay context surroundings m branch = .ok (outcome, m')) :
    holds isOpen m'.session := by
  have hread : holds isOpen (m.readInputs surroundings).2.session := protocol.inputs h
  obtain ⟨target, rest, -, ⟨-, hdelete⟩ | ⟨new, -, -, hreplace⟩⟩ := resolveStandaloneReplay_ok hok
  · exact holds_replaceOrDelete protocol hread hdelete
  · exact holds_replaceOrDelete protocol hread hreplace

lemma holds_applyChange {conflict : Pair} {changed : Bool}
    {replacement : Option LoggedTransaction} (h : holds isOpen m.session)
    (hok : m.applyChange context conflict branch changed replacement = .ok m') :
    holds isOpen m'.session := by
  unfold MergeState.applyChange at hok
  split at hok
  · obtain ⟨index, -, hreplace⟩ := bind_eq_ok.mp hok
    exact holds_replaceOrDelete protocol h hreplace
  · cases hok
    exact h

lemma holds_resolveRemainingPairConflict {conflict : Pair} {outcome : PairConflictOutcome}
    (h : holds isOpen m.session)
    (hok : resolveRemainingPairConflict context surroundings m conflict = .ok (outcome, m')) :
    holds isOpen m'.session := by
  obtain ⟨ours, -, hok⟩ := bind_eq_ok.mp hok
  obtain ⟨theirs, -, hok⟩ := bind_eq_ok.mp hok
  have hread : holds isOpen (m.readInputs surroundings).2.session := protocol.inputs h
  simp only at hok
  split at hok
  · cases hok
  · split at hok
    · cases hok
      exact protocol.record id hread
    · obtain ⟨middle, hours, hok⟩ := bind_eq_ok.mp hok
      obtain ⟨last, htheirs, hok⟩ := bind_eq_ok.mp hok
      cases hok
      exact holds_applyChange protocol (holds_applyChange protocol hread hours) htheirs

omit protocol in
lemma roundHolds_returns (h : holds false m.session) : RoundHolds holds (m, none) := by
  refine ⟨fun turn' hturn' => ?_, fun _ => h⟩
  cases hturn'

omit protocol in
lemma roundHolds_goesOn {turn : Turn} (h : TurnHolds holds m.session turn) :
    RoundHolds holds (m, some turn) := by
  refine ⟨fun turn' hturn' => ?_, fun hnone => ?_⟩
  · cases hturn'
    exact h
  · cases hnone

omit protocol in
lemma roundHolds_standalone {turn : Turn} (outcome : StandaloneReplayOutcome)
    (h : holds false m.session) (hturn : turn.acceptedFollowupConflict = none) :
    RoundHolds holds (afterStandaloneReplay turn (outcome, m)) := by
  cases outcome with
  | currentRemoved =>
    have hresult : afterStandaloneReplay turn (.currentRemoved, m) = (m, none) := rfl
    rw [hresult]
    exact roundHolds_returns h
  | currentChanged =>
    have hresult : afterStandaloneReplay turn (.currentChanged, m) =
        (m, some { turn with scan := none }) := rfl
    rw [hresult]
    apply roundHolds_goesOn
    refine ⟨fun scan hscan => ?_, fun _ => h, fun hfollowup => ?_⟩
    · cases hscan
    simp only [hturn, Option.isSome_none] at hfollowup
    cases hfollowup

omit protocol in
lemma turnHolds_goesOn {keys : Finset ConflictResolutionKey} {followup : Option Pair}
    {scan : RemainingCurrentConflictScan} (h : Holds holds session scan)
    (hstarted : followup.isSome → Started scan) :
    TurnHolds holds session ⟨keys, some scan, followup⟩ := by
  refine ⟨fun scan' hscan' => ?_, fun hnone => ?_, fun hfollowup => ?_⟩
  · cases hscan'
    exact h
  · cases hnone
  · exact ⟨scan, rfl, hstarted hfollowup⟩

lemma roundHolds_pairConflict {turn : Turn} {scan : RemainingCurrentConflictScan}
    {conflict : Pair} {result : MergeState W × Option Turn}
    (h : Holds holds m.session scan) (hstarted : Started scan)
    (hturn : turn.acceptedFollowupConflict = none)
    (hround : pairConflictRound context surroundings m branch turn scan conflict = .ok result) :
    RoundHolds holds result := by
  obtain ⟨⟨outcome, middle⟩, hresolve, hround⟩ := bind_eq_ok.mp hround
  have hopen : holds true middle.session :=
    holds_resolveRemainingPairConflict protocol (h.opened hstarted) hresolve
  have hmiddle : ∀ scan', Started scan' → Holds holds middle.session scan' := fun scan' hs =>
    ⟨fun _ => hopen, fun hnot => absurd hs hnot⟩
  cases outcome with
  | accepted =>
    simp only at hround
    obtain ⟨⟨followup, scan', session⟩, haccept, hround⟩ := bind_eq_ok.mp hround
    cases hround
    obtain ⟨hheld, hstarted'⟩ :=
      holds_acceptCurrentConflict protocol (hmiddle scan hstarted) hstarted haccept
    exact roundHolds_goesOn (turnHolds_goesOn hheld fun _ => hstarted')
  | resolved outcomes =>
    simp only at hround
    have hclosed := idle_closeScan protocol (hmiddle scan hstarted)
    cases hcase : outcomes.get branch with
    | deleted =>
      rw [hcase] at hround
      cases hround
      exact roundHolds_returns hclosed
    | edited =>
      rw [hcase] at hround
      cases hround
      exact roundHolds_standalone .currentChanged hclosed hturn
    | unchanged =>
      rw [hcase] at hround
      have hstay : ∀ scan', Started scan' →
          RoundHolds holds (middle, some { turn with scan := some scan' }) := by
        intro scan' hs
        exact roundHolds_goesOn (turnHolds_goesOn (hmiddle scan' hs) fun _ => hs)
      simp only at hround
      split at hround
      · obtain ⟨scan', henable, hround⟩ := bind_eq_ok.mp hround
        cases hround
        apply hstay
        obtain ⟨scanner, hscanner, hs⟩ := hstarted
        simp only [RemainingCurrentConflictScan.enableChecksAfterOtherEdit, hscanner] at henable
        cases henable
        exact ⟨_, rfl, hs⟩
      · cases hround
        exact hstay scan hstarted

lemma roundHolds_apply {turn : Turn} {current : LoggedTransaction}
    {rest : List LoggedTransaction} {result : MergeState W × Option Turn}
    (h : holds false m.session) (hturn : turn.acceptedFollowupConflict = none)
    (hround : applyRound context surroundings m branch turn current rest = .ok result) :
    RoundHolds holds result := by
  have happlied := protocol.apply current (m.queues.get branch.other) h
  unfold applyRound at hround
  cases happly : m.session.applyAcceptedTransaction surroundings.databases current
      (m.queues.get branch.other) with
  | mk failure session =>
    rw [happly] at happlied
    simp only [happly] at hround
    cases failure with
    | some failure =>
      obtain ⟨⟨outcome, m'⟩, hresolve, heq⟩ := ok_of_map hround
      rw [← heq]
      have hresolved := holds_resolveStandaloneReplay protocol
        (show holds false { m with session := session }.session from happlied) hresolve
      exact roundHolds_standalone outcome hresolved hturn
    | none =>
      cases hround
      exact roundHolds_returns happlied

lemma holds_openScan {turn : Turn} (h : TurnHolds holds m.session turn)
    (current : LoggedTransaction) :
    Holds holds (openScan context m branch current turn).2.session
      (openScan context m branch current turn).1 := by
  unfold openScan
  cases hscan : turn.scan with
  | some scan => exact h.scanning scan hscan
  | none =>
    refine ⟨fun hstarted => ?_, fun _ => protocol.record id (h.idle hscan)⟩
    obtain ⟨scanner, hscanner, hs⟩ := hstarted
    simp only [RemainingCurrentConflictScan.new] at hscanner
    split at hscanner
    · cases hscanner
    · cases hscanner
      cases hs

lemma holds_takeConflict {turn : Turn} {scan scan' : RemainingCurrentConflictScan}
    {conflict : Option Pair} (h : Holds holds m.session scan)
    (hfollowup : turn.acceptedFollowupConflict.isSome → Started scan)
    (htake : takeConflict context surroundings m branch turn scan = (conflict, scan', session)) :
    Holds holds session scan' ∧ (conflict.isSome → Started scan') := by
  unfold takeConflict at htake
  cases hpending : turn.acceptedFollowupConflict with
  | some followup =>
    rw [hpending] at htake
    cases htake
    exact ⟨h, fun _ => hfollowup (by rw [hpending]; rfl)⟩
  | none =>
    rw [hpending] at htake
    simp only at htake
    have hnext : Holds holds
        (scan.nextConflict context surroundings.databases (m.queues.get branch.other)
          m.session).2.2 _ ∧ _ := holds_nextConflict protocol (m.queues.get branch.other) h
    rw [htake] at hnext
    exact hnext

/-- One round of a turn follows the protocol. -/
theorem roundHolds_turnStep {turn : Turn} {result : MergeState W × Option Turn}
    (hsound : TurnSound context m branch turn) (h : TurnHolds holds m.session turn)
    (hstep : turnStep context surroundings m branch turn = .ok result) :
    RoundHolds holds result := by
  unfold turnStep at hstep
  split at hstep
  · rename_i hqueue
    cases hstep
    -- an empty queue has no open scan
    have hnoScan : turn.scan = none := by
      apply Option.eq_none_iff_forall_ne_some.mpr
      intro scan hs
      obtain ⟨current, rest, hqueue', -⟩ := hsound.scan scan hs
      rw [hqueue] at hqueue'
      cases hqueue'
    exact roundHolds_returns (h.idle hnoScan)
  · rename_i current rest hqueue
    split at hstep
    · rename_i reason hunsafe
      have hnoScan : turn.scan = none := by
        apply Option.eq_none_iff_forall_ne_some.mpr
        intro scan hs
        obtain ⟨current', rest', hqueue', hsafe, -⟩ := hsound.scan scan hs
        rw [hqueue] at hqueue'
        cases hqueue'
        rw [hsafe] at hunsafe
        cases hunsafe
      have hnoFollowup : turn.acceptedFollowupConflict = none := by
        apply Option.eq_none_iff_forall_ne_some.mpr
        intro conflict hc
        obtain ⟨-, scan, hs, -⟩ := hsound.followup conflict hc
        rw [hnoScan] at hs
        cases hs
      rw [hnoScan] at hstep
      obtain ⟨⟨outcome, m'⟩, hresolve, heq⟩ := ok_of_map hstep
      rw [← heq]
      exact roundHolds_standalone outcome
        (holds_resolveStandaloneReplay protocol (h.idle hnoScan) hresolve) hnoFollowup
    · have hopened : Holds holds (openScan context m branch current turn).2.session
          (openScan context m branch current turn).1 := holds_openScan protocol h current
      have hfollowup : turn.acceptedFollowupConflict.isSome →
          Started (openScan context m branch current turn).1 := by
        intro hsome
        obtain ⟨scan, hs, hstarted⟩ := h.followup hsome
        have hscan : turn.scan = some scan := hs
        simp only [openScan, hscan]
        exact hstarted
      cases hopen : openScan context m branch current turn with
      | mk scan opened =>
        rw [hopen] at hopened hfollowup
        cases htake : takeConflict context surroundings opened branch turn scan with
        | mk conflict taken =>
          obtain ⟨scan', session⟩ := taken
          obtain ⟨hheld, hstarted⟩ := holds_takeConflict protocol hopened hfollowup htake
          simp only [hopen, htake] at hstep
          cases conflict with
          | none =>
            have hclosed := idle_closeScan protocol
              (show Holds holds { opened with session := session }.session scan' from hheld)
            exact roundHolds_apply protocol hclosed rfl hstep
          | some conflict =>
            simp only [scannedRound] at hstep
            have hrunning := hstarted rfl
            split at hstep
            · obtain ⟨⟨outcome, m'⟩, hresolve, hstep⟩ := bind_eq_ok.mp hstep
              cases hstep
              have hresolved := holds_resolveStandaloneReplay protocol
                (show holds true { opened with session := session }.session from
                  hheld.opened hrunning) hresolve
              have hclosed := idle_closeScan protocol
                (show Holds holds m'.session scan' from
                  ⟨fun _ => hresolved, fun hnot => absurd hrunning hnot⟩)
              exact roundHolds_standalone outcome hclosed rfl
            · exact roundHolds_pairConflict protocol hheld hrunning rfl hstep

omit protocol in
lemma turnHolds_start (h : holds false session) : TurnHolds holds session Turn.start := by
  refine ⟨fun scan hscan => ?_, fun _ => h, fun hfollowup => ?_⟩
  · cases hscan
  · cases hfollowup

end

def inTurn : Point → Bool
  | .turn .. => true
  | _ => false

/-- The session fits to where the merge is. -/
structure StateHolds (holds : Bool → Session W → Prop) (state : State W) : Prop where
  turn : ∀ branch turn, state.point = .turn branch turn →
    TurnHolds holds state.merge.session turn
  idle : inTurn state.point = false → holds false state.merge.session

section
variable {context : ConflictCheckContext} {surroundings : Surroundings W}
  {holds : Bool → Session W → Prop} (protocol : Protocol surroundings holds)
  {m : MergeState W} {branch : BranchName} {session : Session W} {isOpen : Bool}

lemma stateHolds_idle {point : Point} (h : holds false m.session)
    (hpoint : inTurn point = false) : StateHolds holds ⟨m, point⟩ := by
  refine ⟨fun branch turn heq => ?_, fun _ => h⟩
  have hpoint' : inTurn (Point.turn branch turn) = false := heq ▸ hpoint
  cases hpoint'

lemma stateHolds_turn {turn : Turn} (h : TurnHolds holds m.session turn) :
    StateHolds holds ⟨m, .turn branch turn⟩ := by
  refine ⟨fun branch' turn' heq => ?_, fun hnot => ?_⟩
  · cases heq
    exact h
  · cases hnot

include protocol

lemma holds_records {events : List Event} (h : holds isOpen session)
    (hevents : ∀ event ∈ events, ¬ IsApply event) :
    holds isOpen (events.foldl Session.record session) := by
  induction events generalizing session with
  | nil => exact h
  | cons event rest ih =>
    apply ih (protocol.record (hevents event List.mem_cons_self) h)
    exact fun e he => hevents e (List.mem_cons_of_mem _ he)

lemma holds_branchReplayStep {resolved rest : List LoggedTransaction}
    {current : LoggedTransaction} {next : State W} (h : holds false m.session)
    (hstep : branchReplayStep surroundings m branch resolved current rest = .ok next) :
    StateHolds holds next := by
  have hreplayed := protocol.branchReplay current h
  unfold branchReplayStep at hstep
  cases hissue : surroundings.branchTransactionReplayIssue current m.session.world with
  | mk issue world =>
    rw [hissue] at hreplayed
    simp only [hissue] at hstep
    cases issue with
    | none =>
      cases hstep
      exact stateHolds_idle hreplayed rfl
    | some issue =>
      have hread := protocol.inputs hreplayed
      simp only [MergeState.readInputs] at hstep
      split at hstep
      · cases hstep
      · cases hstep
        exact stateHolds_idle (protocol.record id hread) rfl
      · cases hstep
        exact stateHolds_idle (protocol.record id hread) rfl
      · rename_i first others hprompt
        cases hstep
        refine stateHolds_idle (holds_records protocol hread fun event he hisApply => ?_) rfl
        have hdecision := isDecision_branchReplayEvents he
        cases event with
        | apply => cases hdecision
        | _ => cases hisApply

lemma stateHolds_step {state next : State W} (hsound : StateSound context state)
    (h : StateHolds holds state) (hstep : step context surroundings state = .ok next) :
    StateHolds holds next := by
  obtain ⟨m, point⟩ := state
  unfold step at hstep
  split at hstep
  · rename_i branch resolved hpoint
    simp only at hpoint
    subst hpoint
    have hidle : holds false m.session := h.idle rfl
    split at hstep
    · cases hstep
      cases branch with
      | ours => exact stateHolds_idle hidle rfl
      | theirs => exact stateHolds_idle hidle rfl
    · exact holds_branchReplayStep protocol hidle hstep
  · rename_i hpoint
    simp only at hpoint
    subst hpoint
    have hidle : holds false m.session := h.idle rfl
    split at hstep
    · cases hstep
      exact stateHolds_idle hidle rfl
    · cases hstep
      exact stateHolds_turn (turnHolds_start hidle)
  · rename_i branch turn hpoint
    simp only at hpoint
    subst hpoint
    obtain ⟨⟨m', result⟩, hturn, hstep⟩ := bind_eq_ok.mp hstep
    obtain ⟨hgoesOn, hreturns⟩ :=
      roundHolds_turnStep protocol (hsound.turn branch turn rfl) (h.turn branch turn rfl) hturn
    cases result with
    | some turn' =>
      cases hstep
      exact stateHolds_turn (hgoesOn turn' rfl)
    | none =>
      have hidle := hreturns rfl
      cases branch with
      | ours =>
        cases hstep
        exact stateHolds_turn (turnHolds_start hidle)
      | theirs =>
        cases hstep
        exact stateHolds_idle hidle rfl
  · cases hstep

/-- Every state of a merge that starts idle follows the protocol. -/
theorem stateHolds_reachable {world : W} {rows : Sides (List LogTableRow)} {state : State W}
    (hstart : holds false ⟨world, []⟩) (h : Reachable context surroundings world rows state) :
    StateHolds holds state := by
  induction h with
  | refl => exact stateHolds_idle hstart rfl
  | tail hrun hstep ih => exact stateHolds_step protocol (stateSound_reachable hrun) ih hstep

end

end SqliteReconcile.ScanProtocol
