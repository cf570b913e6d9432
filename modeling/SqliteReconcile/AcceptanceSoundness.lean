import SqliteReconcile.ScanSoundness

/-!
# Soundness of acceptance

When a transaction is replayed for good, its statements can replay and its scan has passed
every transaction of the opposite queue, whatever was edited or deleted in between.
-/
namespace SqliteReconcile.AcceptanceSoundness
open Outcomes (bind_eq_ok)
open Models SqlMetadata RemainingMetadata LogMerge TerminalUi ConflictDetection TerminalMergetool
  MergeConservation ScanSoundness

def IsDecision : Event → Prop
  | .acceptsWarning .. | .deleted _ | .edited .. | .userAccepts .. => True
  | _ => False

def Decides (trace later : List Event) : Prop :=
  ∃ events, later = trace ++ events ∧ ∀ event ∈ events, IsDecision event

section
variable {trace later last : List Event} {event : Event}

lemma isScan_of_isDecision (h : IsDecision event) : isScan event = false := by
  cases event with
  | scan => cases h
  | _ => rfl

lemma passedBy_of_isDecision (h : IsDecision event) : passedBy event = none := by
  cases event with
  | checkNext => cases h
  | acceptNext => cases h
  | _ => rfl

lemma Decides.refl (trace : List Event) : Decides trace trace := ⟨[], by simp, by simp⟩

lemma decides_snoc (trace : List Event) (h : IsDecision event) :
    Decides trace (trace ++ [event]) := ⟨[event], rfl, by simpa using h⟩

lemma Decides.trans (h : Decides trace later) (h' : Decides later last) : Decides trace last := by
  obtain ⟨events, htrace, hevents⟩ := h
  obtain ⟨events', htrace', hevents'⟩ := h'
  refine ⟨events ++ events', by rw [htrace', htrace, List.append_assoc], ?_⟩
  intro event he
  rcases List.mem_append.mp he with he | he
  · exact hevents event he
  · exact hevents' event he

lemma Decides.continues (h : Decides trace later) : Continues trace later := by
  obtain ⟨events, htrace, hevents⟩ := h
  exact ⟨events, htrace, fun event he => isScan_of_isDecision (hevents event he)⟩

lemma Decides.passed_eq (h : Decides trace later) : passed later = passed trace := by
  obtain ⟨events, htrace, hevents⟩ := h
  subst htrace
  induction events using List.reverseRecOn with
  | nil => rw [List.append_nil]
  | append_singleton events event ih =>
    have hlast := hevents event (List.mem_append_right _ List.mem_cons_self)
    have hbefore := ih fun e he => hevents e (List.mem_append_left _ he)
    rw [← List.append_assoc, passed_snoc (isScan_of_isDecision hlast),
      passedBy_of_isDecision hlast, hbefore]
    simp

lemma Decides.soundTrace {context : ConflictCheckContext} (h : Decides trace later)
    (hsound : SoundTrace context trace) : SoundTrace context later := by
  obtain ⟨events, htrace, hevents⟩ := h
  rw [htrace]
  apply soundTrace_append hsound
  intro event he current opposite failure heq
  have hdecision := hevents event he
  rw [heq] at hdecision
  exact hdecision

lemma soundTrace_checks {W : Type} {context : ConflictCheckContext} {session session' : Session W}
    (h : Checks session session') (hsound : SoundTrace context session.trace) :
    SoundTrace context session'.trace := by
  obtain ⟨events, htrace, hevents⟩ := h
  rw [htrace]
  apply soundTrace_append hsound
  intro event he current opposite failure heq
  have hcheck := hevents event he
  rw [heq] at hcheck
  exact hcheck

end

/-- The user accepted every warning that a statement carries as accepted. -/
def Warned (trace : List Event) (transaction : LoggedTransaction) : Prop :=
  ∀ statement ∈ transaction.statements, ∀ warning ∈ statement.acceptedReplayWarnings,
    ∃ shown, .acceptsWarning shown warning ∈ trace ∧
      { shown with acceptedReplayWarnings := ∅ } = { statement with acceptedReplayWarnings := ∅ }

lemma Warned.mono {trace later : List Event} {transaction : LoggedTransaction}
    (h : Warned trace transaction) (hmem : ∀ event ∈ trace, event ∈ later) :
    Warned later transaction := by
  intro statement hs warning hw
  obtain ⟨shown, hevent, hsame⟩ := h statement hs warning hw
  exact ⟨shown, hmem _ hevent, hsame⟩

lemma Warned.drafts {trace : List Event} {old new : LoggedTransaction} (h : Warned trace old)
    (hnew : Drafts old new) : Warned trace new := by
  intro statement hs warning hw
  rcases hnew.statements statement hs with hold | hnone
  · exact h statement hold warning hw
  · rw [hnone] at hw
    cases hw

lemma replayable_of_warned {trace : List Event} {transaction : LoggedTransaction}
    (h : Warned trace transaction) (hsafe : unresolvedReplaySafetyConflict transaction = none) :
    ∀ statement ∈ transaction.statements, Replayable trace statement := by
  intro statement hs
  have hnone := List.findSome?_eq_none_iff.mp hsafe statement hs
  rcases unresolvedReplayBlockReason_eq_none hnone with hsafe | ⟨warning, hw, hreason⟩
  · exact .inl hsafe
  · obtain ⟨shown, hevent, hsame⟩ := h statement hs warning hw
    exact .inr ⟨warning, shown, hreason, hevent, hsame⟩

variable {W : Type}

/-- The queues, their indexes and the trace fit together. -/
structure MergeSound (context : ConflictCheckContext) (m : MergeState W) : Prop where
  queued : WellQueued m
  indexed : ∀ target, m.metadataIndexes.get target = .fromTransactions context (m.queues.get target)
  warned : ∀ target, ∀ transaction ∈ m.queues.get target, Warned m.session.trace transaction
  sound : SoundTrace context m.session.trace

section
variable {context : ConflictCheckContext} {surroundings : Surroundings W}
  {m m' : MergeState W} {branch : BranchName} {index : ℕ}

lemma MergeSound.session {session : Session W} (h : MergeSound context m)
    (hmem : ∀ event ∈ m.session.trace, event ∈ session.trace)
    (hsound : SoundTrace context session.trace) :
    MergeSound context { m with session := session } where
  queued := h.queued
  indexed := h.indexed
  warned := fun target transaction ht => (h.warned target transaction ht).mono hmem
  sound := hsound

lemma MergeSound.decides {session : Session W} (h : MergeSound context m)
    (hdecides : Decides m.session.trace session.trace) :
    MergeSound context { m with session := session } :=
  h.session (fun _ he => hdecides.continues.mem he) (hdecides.soundTrace h.sound)

lemma MergeSound.replace {old new : LoggedTransaction} (h : MergeSound context m)
    (hold : (m.queues.get branch)[index]? = some old) (hnew : Revises old new)
    (hok : m.replaceOrDeleteTransaction context branch index (some new) = .ok m') :
    MergeSound context m' ∧ Decides m.session.trace m'.session.trace := by
  obtain ⟨found, hfound, htrace, hqueues, hindexes⟩ := replace_ok hok
  have heq : found = old := Option.some.inj (hfound.symm.trans hold)
  subst heq
  have hdecides : Decides m.session.trace m'.session.trace := by
    rw [htrace]
    exact decides_snoc _ trivial
  refine ⟨⟨wellQueued_replace h.queued hold hnew hok, fun target => ?_, fun target tx htx => ?_,
    hdecides.soundTrace h.sound⟩, hdecides⟩
  · rw [hqueues, hindexes, Sides.get_set, Sides.get_set]
    split
    · rename_i htarget
      subst htarget
      obtain ⟨hlt, -⟩ := List.getElem?_eq_some_iff.mp hold
      rw [h.indexed, removeTransaction_fromTransactions hold, addTransaction_fromTransactions hlt]
    · exact h.indexed target
  · have hmono : Warned m.session.trace tx → Warned m'.session.trace tx := fun hw =>
      hw.mono fun _ he => hdecides.continues.mem he
    apply hmono
    rw [hqueues, Sides.get_set] at htx
    split at htx
    · rename_i htarget
      subst htarget
      rcases List.mem_or_eq_of_mem_set htx with htx | htx
      · exact h.warned target tx htx
      · rw [htx]
        exact (h.warned target found (List.mem_of_getElem? hold)).drafts hnew.toDrafts
    · exact h.warned target tx htx

lemma MergeSound.delete (h : MergeSound context m)
    (hok : m.replaceOrDeleteTransaction context branch index none = .ok m') :
    MergeSound context m' ∧ Decides m.session.trace m'.session.trace := by
  obtain ⟨old, hold, htrace, hqueues, hindexes⟩ := delete_ok hok
  have hdecides : Decides m.session.trace m'.session.trace := by
    rw [htrace]
    exact decides_snoc _ trivial
  refine ⟨⟨wellQueued_delete h.queued hok, fun target => ?_, fun target tx htx => ?_,
    hdecides.soundTrace h.sound⟩, hdecides⟩
  · rw [hqueues, hindexes, Sides.get_set, Sides.get_set]
    split
    · rename_i htarget
      subst htarget
      rw [h.indexed, removeTransaction_fromTransactions hold]
    · exact h.indexed target
  · have hold : tx ∈ m.queues.get target := by
      rw [hqueues, Sides.get_set] at htx
      split at htx
      · rename_i htarget
        subst htarget
        exact List.mem_of_mem_eraseIdx htx
      · exact htx
    exact (h.warned target tx hold).mono fun _ he => hdecides.continues.mem he

lemma MergeSound.standalone {outcome : StandaloneReplayOutcome} (h : MergeSound context m)
    (hok : resolveStandaloneReplay context surroundings m branch = .ok (outcome, m')) :
    MergeSound context m' ∧ Decides m.session.trace m'.session.trace := by
  have hread : MergeSound context (m.readInputs surroundings).2 := h.decides (.refl _)
  obtain ⟨target, rest, hqueue, ⟨-, hdelete⟩ | ⟨new, -, hnew, hreplace⟩⟩ :=
    resolveStandaloneReplay_ok hok
  · exact hread.delete hdelete
  · have hhead : ((m.readInputs surroundings).2.queues.get branch)[0]? = some target := by
      have hqueue' : (m.readInputs surroundings).2.queues.get branch = target :: rest := hqueue
      rw [hqueue']
      rfl
    exact hread.replace hhead hnew hreplace

def SideChange (index : ℕ) (queue queue' : List LoggedTransaction) : PairSideOutcome → Prop
  | .unchanged => queue' = queue
  | .edited => ∃ new, queue' = queue.set index new
  | .deleted => queue' = queue.eraseIdx index

lemma MergeSound.applyChange {conflict : Pair} {changed : Bool}
    {replacement : Option LoggedTransaction} {old : LoggedTransaction} (h : MergeSound context m)
    (hindex : indexForBranch conflict branch = .ok index)
    (hold : (m.queues.get branch)[index]? = some old)
    (hnew : ∀ new, replacement = some new → Revises old new)
    (hok : m.applyChange context conflict branch changed replacement = .ok m') :
    MergeSound context m' ∧ Decides m.session.trace m'.session.trace ∧
      m'.queues.get branch.other = m.queues.get branch.other ∧
      SideChange index (m.queues.get branch) (m'.queues.get branch)
        (pairSideOutcome changed replacement) := by
  unfold MergeState.applyChange at hok
  cases changed with
  | false =>
    cases hok
    exact ⟨h, .refl _, rfl, rfl⟩
  | true =>
    simp only [if_true] at hok
    obtain ⟨found, hfound, hok⟩ := bind_eq_ok.mp hok
    rw [hindex] at hfound
    cases hfound
    cases replacement with
    | none =>
      obtain ⟨-, -, -, hqueues, -⟩ := delete_ok hok
      obtain ⟨hsound, hdecides⟩ := h.delete hok
      refine ⟨hsound, hdecides, ?_, ?_⟩
      · rw [hqueues, Sides.get_set_other]
      · rw [hqueues, Sides.get_set_self]
        rfl
    | some new =>
      obtain ⟨-, -, -, hqueues, -⟩ := replace_ok hok
      obtain ⟨hsound, hdecides⟩ := h.replace hold (hnew new rfl) hok
      refine ⟨hsound, hdecides, ?_, ?_⟩
      · rw [hqueues, Sides.get_set_other]
      · rw [hqueues, Sides.get_set_self]
        exact ⟨new, rfl⟩

lemma MergeSound.pairConflict {conflict : Pair} {outcome : PairConflictOutcome}
    (h : MergeSound context m)
    (hok : resolveRemainingPairConflict context surroundings m conflict = .ok (outcome, m')) :
    MergeSound context m' ∧ Decides m.session.trace m'.session.trace ∧
      match outcome with
      | .accepted => m'.queues = m.queues ∧ isReviewablePairConflict conflict.conflicts ∧
          ∃ ours theirs, queuedTransaction m conflict .ours = .ok ours ∧
            queuedTransaction m conflict .theirs = .ok theirs ∧
            .userAccepts (orderedPair conflict.currentBranch ours theirs).1
              (orderedPair conflict.currentBranch ours theirs).2 conflict.conflicts ∈
                m'.session.trace
      | .resolved outcomes => ∀ target index, indexForBranch conflict target = .ok index →
          SideChange index (m.queues.get target) (m'.queues.get target) (outcomes.get target) := by
  have hread : MergeSound context (m.readInputs surroundings).2 := h.decides (.refl _)
  obtain ⟨ours, theirs, hours, htheirs, ⟨houtcome, hreviewable, heq⟩ |
    ⟨resolution, middle, hresolution, haction, hfirst, hsecond, houtcome⟩⟩ :=
    resolveRemainingPairConflict_ok hok
  · subst houtcome heq
    have hdecides : ∀ event, IsDecision event → Decides m.session.trace
        ((m.readInputs surroundings).2.record event).session.trace :=
      fun event he => decides_snoc _ he
    refine ⟨hread.decides (hdecides _ trivial), hdecides _ trivial, rfl, hreviewable, ours, theirs,
      hours, htheirs, ?_⟩
    exact List.mem_append_right _ List.mem_cons_self
  · subst houtcome
    obtain ⟨oursIndex, hoursIndex, hoursAt⟩ := queuedTransaction_ok hours
    obtain ⟨theirsIndex, htheirsIndex, htheirsAt⟩ := queuedTransaction_ok htheirs
    obtain ⟨hmiddle, hdecides, hkept, hchange⟩ := hread.applyChange hoursIndex hoursAt
      (hresolution.revisesOurs haction) hfirst
    have hqueue : middle.queues.get .theirs = m.queues.get .theirs := hkept
    have htheirsAt' : (middle.queues.get .theirs)[theirsIndex]? = some theirs := by
      rw [hqueue]
      exact htheirsAt
    obtain ⟨hlast, hdecides', hkept', hchange'⟩ := hmiddle.applyChange htheirsIndex htheirsAt'
      (hresolution.revisesTheirs haction) hsecond
    have hqueue' : m'.queues.get .ours = middle.queues.get .ours := hkept'
    refine ⟨hlast, hdecides.trans hdecides', fun target index hindex => ?_⟩
    cases target with
    | ours =>
      have hi : oursIndex = index := Except.ok.inj (hoursIndex.symm.trans hindex)
      subst hi
      rw [hqueue']
      exact hchange
    | theirs =>
      have hi : theirsIndex = index := Except.ok.inj (htheirsIndex.symm.trans hindex)
      subst hi
      rw [← hqueue]
      exact hchange'

/-- The local variables of a turn fit to the queues and the trace. -/
structure TurnSound (context : ConflictCheckContext) (m : MergeState W) (branch : BranchName)
    (turn : Turn) : Prop where
  keys : ∀ key ∈ turn.acceptedPairKeys, UserAccepted m.session.trace branch key
  scan : ∀ scan ∈ turn.scan, ∃ current rest, m.queues.get branch = current :: rest ∧
    unresolvedReplaySafetyConflict current = none ∧
    ScanSound context m.session.trace (m.queues.get branch.other) current scan
  followup : ∀ conflict ∈ turn.acceptedFollowupConflict, conflict.currentBranch = branch ∧
    ∃ scan ∈ turn.scan,
      PausedPair context m.session.trace (m.queues.get branch.other) scan.current scan conflict

def SoundRound (context : ConflictCheckContext) (branch : BranchName)
    (result : MergeState W × Option Turn) : Prop :=
  MergeSound context result.1 ∧ ∀ turn ∈ result.2, TurnSound context result.1 branch turn

lemma turnSound_restart {turn : Turn} (hturn : turn.acceptedFollowupConflict = none)
    (hkeys : ∀ key ∈ turn.acceptedPairKeys, UserAccepted m.session.trace branch key) :
    TurnSound context m branch { turn with scan := none } := by
  refine ⟨hkeys, fun scan hscan => ?_, fun conflict hconflict => ?_⟩
  · cases hscan
  · simp only at hconflict
    rw [hturn] at hconflict
    cases hconflict

lemma soundRound_standalone {turn : Turn} (outcome : StandaloneReplayOutcome)
    (hm : MergeSound context m) (hturn : turn.acceptedFollowupConflict = none)
    (hkeys : ∀ key ∈ turn.acceptedPairKeys, UserAccepted m.session.trace branch key) :
    SoundRound context branch (afterStandaloneReplay turn (outcome, m)) := by
  cases outcome with
  | currentRemoved =>
    have hresult : afterStandaloneReplay turn (.currentRemoved, m) = (m, none) := rfl
    rw [hresult]
    exact ⟨hm, fun turn' hturn' => by cases hturn'⟩
  | currentChanged =>
    have hresult : afterStandaloneReplay turn (.currentChanged, m) =
        (m, some { turn with scan := none }) := rfl
    rw [hresult]
    refine ⟨hm, fun turn' hturn' => ?_⟩
    cases hturn'
    exact turnSound_restart hturn hkeys

lemma MergeSound.closeScan (h : MergeSound context m) (surroundings : Surroundings W)
    (scan : Option RemainingCurrentConflictScan) :
    MergeSound context (closeScan surroundings scan m) := by
  refine ⟨wellQueued_closeScan h.queued scan, fun target => ?_, fun target tx htx => ?_, ?_⟩
  · rw [metadataIndexes_closeScan, queues_closeScan]
    exact h.indexed target
  · rw [queues_closeScan] at htx
    rw [trace_closeScan]
    exact h.warned target tx htx
  · rw [trace_closeScan]
    exact h.sound

lemma orderedPair_queued {conflict : Pair} {current other ours theirs : LoggedTransaction}
    {rest : List LoggedTransaction} (hbranch : conflict.currentBranch = branch)
    (hindex : conflict.otherIndex = some index) (hqueue : m.queues.get branch = current :: rest)
    (hother : (m.queues.get branch.other)[index]? = some other)
    (hours : queuedTransaction m conflict .ours = .ok ours)
    (htheirs : queuedTransaction m conflict .theirs = .ok theirs) :
    orderedPair conflict.currentBranch ours theirs = (current, other) := by
  have hcurrent : ∀ {tx}, queuedTransaction m conflict branch = .ok tx → tx = current := by
    intro tx htx
    obtain ⟨i, hi, hat⟩ := queuedTransaction_ok htx
    rw [indexForBranch_current hbranch] at hi
    cases hi
    rw [hqueue] at hat
    exact (Option.some.inj hat).symm
  have hopposite : ∀ {tx}, queuedTransaction m conflict branch.other = .ok tx → tx = other := by
    intro tx htx
    obtain ⟨i, hi, hat⟩ := queuedTransaction_ok htx
    rw [indexForBranch_other hbranch hindex] at hi
    cases hi
    exact Option.some.inj (hat.symm.trans hother)
  rw [hbranch]
  cases branch with
  | ours => rw [orderedPair, hcurrent hours, hopposite htheirs]
  | theirs => rw [orderedPair, hcurrent htheirs, hopposite hours]

section
variable {trace later : List Event} {others : List LoggedTransaction}
  {current : LoggedTransaction} {scan : RemainingCurrentConflictScan}

lemma scanSound_decides (h : ScanSound context trace others current scan)
    (hlater : Decides trace later) : ScanSound context later others current scan := by
  refine ⟨h.current_eq, h.branch_eq, fun hnone => ?_, fun scanner hs => ?_⟩
  · rw [hlater.continues.scan.1]
    exact h.idle hnone
  · exact (h.active scanner hs).continues hlater.continues hlater.passed_eq

lemma pausedPair_continues {conflict : Pair}
    (h : PausedPair context trace others current scan conflict) (hlater : Continues trace later) :
    PausedPair context later others current scan conflict := by
  obtain ⟨scanner, hs, found, hconflict, other, enabled, result, hnext, hother, hevent, hrest⟩ := h
  exact ⟨scanner, hs, found, hconflict, other, enabled, result, hnext, hother,
    hlater.mem_sinceScan hevent, hrest⟩

lemma scanSound_sideChange {others' : List LoggedTransaction} {conflict : Pair}
    {outcome : PairSideOutcome} (h : ScanSound context trace others current scan)
    (hpaused : PausedPair context trace others current scan conflict)
    (hindex : conflict.otherIndex = some index) (hlater : Decides trace later)
    (hchange : SideChange index others others' outcome) (hedited : outcome ≠ .edited) :
    ScanSound context later others' current scan := by
  obtain ⟨scanner, hs, found, hconflict, other, -, -, hnext, hother, -⟩ := hpaused
  have hposition : index = scanner.nextOtherIndex := by
    rw [hconflict] at hindex
    exact Option.some.inj (hindex.symm.trans hnext)
  subst hposition
  have hold := scanSound_decides h hlater
  cases outcome with
  | unchanged =>
    rw [show others' = others from hchange]
    exact hold
  | edited => exact absurd rfl hedited
  | deleted =>
    have heq : others' = others.eraseIdx scanner.nextOtherIndex := hchange
    obtain ⟨hlt, -⟩ := List.getElem?_eq_some_iff.mp hother
    refine ⟨hold.current_eq, hold.branch_eq, fun hnone => ?_, fun scanner' hs' => ?_⟩
    · rw [hs] at hnone
      cases hnone
    · rw [hs] at hs'
      cases hs'
      have hat := h.active scanner hs
      refine hat.requeue hlater.continues hlater.passed_eq ?_ ?_ fun tx htx => ?_
      · rw [heq, List.length_eraseIdx_of_lt hlt]
        omega
      · rw [heq, List.take_eraseIdx_eq_take_of_le _ _ _ (Nat.le_refl _)]
      · rw [heq] at htx
        exact hat.enabled tx (List.mem_of_mem_eraseIdx htx)

lemma scanSound_enableChecks {others' : List LoggedTransaction} {conflict : Pair}
    {scan' : RemainingCurrentConflictScan} (h : ScanSound context trace others current scan)
    (hpaused : PausedPair context trace others current scan conflict)
    (hindex : conflict.otherIndex = some index) (hlater : Decides trace later)
    (hchange : SideChange index others others' .edited)
    (hok : scan.enableChecksAfterOtherEdit context (.fromTransactions context others') =
      .ok scan') : ScanSound context later others' current scan' := by
  obtain ⟨scanner, hs, found, hconflict, other, -, -, hnext, hother, -⟩ := hpaused
  have hposition : index = scanner.nextOtherIndex := by
    rw [hconflict] at hindex
    exact Option.some.inj (hindex.symm.trans hnext)
  subst hposition
  obtain ⟨new, heq⟩ : ∃ new, others' = others.set scanner.nextOtherIndex new := hchange
  obtain ⟨hlt, -⟩ := List.getElem?_eq_some_iff.mp hother
  unfold RemainingCurrentConflictScan.enableChecksAfterOtherEdit at hok
  rw [hs] at hok
  cases hok
  refine ⟨h.current_eq, h.branch_eq, nofun, fun scanner' hs' => ?_⟩
  cases hs'
  have hat := h.active scanner hs
  refine hat.requeue hlater.continues hlater.passed_eq ?_ ?_ fun tx htx => ?_
  · rw [heq, List.length_set]
    omega
  · rw [heq, List.take_set_of_le (Nat.le_refl _)]
  · rw [h.current_eq]
    intro kind hkind
    exact Finset.mem_union_right _ (kinds_subset htx current hkind)

end

section
variable {turn : Turn} {current : LoggedTransaction} {rest : List LoggedTransaction}
  {scan : RemainingCurrentConflictScan} {result : MergeState W × Option Turn}

lemma userAccepted_key {conflict : Pair} {trace : List Event}
    {others : List LoggedTransaction} {later : List Event}
    (hscan : ScanSound context trace others current scan)
    (hpaused : PausedPair context trace others current scan conflict)
    (hmem : ∀ event ∈ trace, event ∈ later)
    (hreviewable : isReviewablePairConflict conflict.conflicts)
    (hevent : ∀ index other, conflict.otherIndex = some index → others[index]? = some other →
      .userAccepts current other conflict.conflicts ∈ later) :
    ∀ key ∈ conflict.resolutionKey, UserAccepted later current.branch key := by
  obtain ⟨scanner, hs, found, hconflict, other, enabled, checked, hnext, hother, -, -, hkey,
    hsame⟩ := hpaused
  have hindex : conflict.otherIndex = some scanner.nextOtherIndex := by
    rw [hconflict]
    exact hnext
  have hresolution : conflict.resolutionKey =
      some (pairKey current.branch current other checked.conflicts) := by
    rw [hconflict]
    exact hkey
  intro key hk
  rw [hresolution] at hk
  cases hk
  rcases hsame with hsame | haccepted
  · have hconflicts : conflict.conflicts = checked.conflicts := by
      rw [hconflict]
      exact hsame
    rw [hconflicts] at hreviewable hevent
    exact ⟨current, other, _, hevent _ other hindex hother, hreviewable, rfl⟩
  · exact ((hscan.active scanner hs).keys _ haccepted).mono hmem

lemma soundRound_pairConflict {conflict : Pair} (hm : MergeSound context m)
    (hqueue : m.queues.get branch = current :: rest)
    (hsafe : unresolvedReplaySafetyConflict current = none)
    (hkeys : ∀ key ∈ turn.acceptedPairKeys, UserAccepted m.session.trace branch key)
    (hturn : turn.acceptedFollowupConflict = none)
    (hscan : ScanSound context m.session.trace (m.queues.get branch.other) current scan)
    (hpaused : PausedPair context m.session.trace (m.queues.get branch.other) current scan
      conflict)
    (h : pairConflictRound context surroundings m branch turn scan conflict = .ok result) :
    SoundRound context branch result := by
  have hcurrentBranch : current.branch = branch :=
    (hm.queued branch current (by rw [hqueue]; exact List.mem_cons_self)).1
  obtain ⟨index, hindex, other, hother, hbranch⟩ : ∃ index,
      conflict.otherIndex = some index ∧ ∃ other,
        (m.queues.get branch.other)[index]? = some other ∧ conflict.currentBranch = branch := by
    obtain ⟨scanner, -, found, hconflict, other, -, -, hnext, hother, -⟩ := hpaused
    refine ⟨scanner.nextOtherIndex, ?_, other, hother, ?_⟩
    · rw [hconflict]
      exact hnext
    · rw [hconflict]
      exact hcurrentBranch
  obtain ⟨⟨outcome, middle⟩, hresolve, h⟩ := bind_eq_ok.mp h
  obtain ⟨hmiddle, hdecides, heffect⟩ := hm.pairConflict hresolve
  have hmem : ∀ event ∈ m.session.trace, event ∈ middle.session.trace :=
    fun _ he => hdecides.continues.mem he
  have hkeys' : ∀ key ∈ turn.acceptedPairKeys, UserAccepted middle.session.trace branch key :=
    fun key hk => (hkeys key hk).mono hmem
  cases outcome with
  | accepted =>
    obtain ⟨hqueues, hreviewable, ours, theirs, hours, htheirs, hevent⟩ := heffect
    have hpair := orderedPair_queued hbranch hindex hqueue hother hours htheirs
    have haccepted := userAccepted_key hscan hpaused hmem hreviewable (by
      intro index' other' hindex' hother'
      have hi : index = index' := Option.some.inj (hindex.symm.trans hindex')
      subst hi
      have ho : other = other' := Option.some.inj (hother.symm.trans hother')
      rw [hpair, ho] at hevent
      exact hevent)
    simp only at h
    obtain ⟨⟨followup, scan', session⟩, haccept, h⟩ := bind_eq_ok.mp h
    cases h
    have hchecks := checks_acceptCurrentConflict haccept
    rw [hqueues] at haccept
    obtain ⟨hcontinues, hscan', hfollowup⟩ := scanSound_acceptCurrentConflict
      (scanSound_decides hscan hdecides) (pausedPair_continues hpaused hdecides.continues)
      haccepted haccept
    have hmem' : ∀ event ∈ middle.session.trace, event ∈ session.trace :=
      fun _ he => hcontinues.mem he
    refine ⟨hmiddle.session hmem' (soundTrace_checks hchecks hmiddle.sound), fun turn' hturn' => ?_⟩
    cases hturn'
    refine ⟨fun key hk => ?_, fun scan'' hs => ?_, fun pair hp => ?_⟩
    · cases hresolution : conflict.resolutionKey with
      | none =>
        rw [hresolution] at hk
        exact (hkeys' key hk).mono hmem'
      | some accepted =>
        rw [hresolution] at hk
        rcases Finset.mem_insert.mp hk with hk | hk
        · rw [hk, ← hcurrentBranch]
          exact (haccepted accepted hresolution).mono hmem'
        · exact (hkeys' key hk).mono hmem'
    · cases hs
      refine ⟨current, rest, ?_, hsafe, ?_⟩
      · rw [hqueues]
        exact hqueue
      · rw [hqueues]
        exact hscan'
    · have hpausedFollowup := hfollowup pair hp
      refine ⟨?_, scan', rfl, ?_⟩
      · obtain ⟨-, -, found, hpairEq, -⟩ := hpausedFollowup
        rw [hpairEq]
        exact hcurrentBranch
      · rw [hqueues, hscan'.current_eq]
        exact hpausedFollowup
  | resolved outcomes =>
    have hcurrentChange := heffect branch 0 (indexForBranch_current hbranch)
    have hotherChange := heffect branch.other index (indexForBranch_other hbranch hindex)
    simp only at h
    cases hcase : outcomes.get branch with
    | deleted =>
      rw [hcase] at h
      cases h
      have hclosed := hmiddle.closeScan surroundings (some scan)
      exact ⟨hclosed, fun turn' hturn' => by cases hturn'⟩
    | edited =>
      rw [hcase] at h
      cases h
      have hclosed := hmiddle.closeScan surroundings (some scan)
      refine ⟨hclosed, fun turn' hturn' => ?_⟩
      cases hturn'
      apply turnSound_restart hturn
      rw [trace_closeScan]
      exact hkeys'
    | unchanged =>
      rw [hcase] at h hcurrentChange
      have hqueue' : middle.queues.get branch = current :: rest :=
        Eq.trans hcurrentChange hqueue
      have hstay : ∀ scan', ScanSound context middle.session.trace (middle.queues.get branch.other)
          current scan' →
          SoundRound context branch (middle, some { turn with scan := some scan' }) := by
        intro scan' hscan'
        refine ⟨hmiddle, fun turn' hturn' => ?_⟩
        cases hturn'
        refine ⟨hkeys', fun scan'' hs => ?_, fun pair hp => ?_⟩
        · cases hs
          exact ⟨current, rest, hqueue', hsafe, hscan'⟩
        · simp only at hp
          rw [hturn] at hp
          cases hp
      simp only at h
      split at h
      · rename_i hedited
        obtain ⟨scan', henable, h⟩ := bind_eq_ok.mp h
        cases h
        rw [hedited] at hotherChange
        rw [hmiddle.indexed] at henable
        exact hstay scan' (scanSound_enableChecks hscan hpaused hindex hdecides hotherChange henable)
      · rename_i hedited
        cases h
        exact hstay scan (scanSound_sideChange hscan hpaused hindex hdecides hotherChange hedited)

lemma acceptedSoundly_of_finished {trace : List Event} {others : List LoggedTransaction}
    (hwarned : Warned trace current) (hsafe : unresolvedReplaySafetyConflict current = none)
    (hscan : ScanSound context trace others current scan) (hfinished : Finished others scan) :
    AcceptedSoundly context trace current others := by
  refine ⟨replayable_of_warned hwarned hsafe, ?_⟩
  cases hs : scan.scanner with
  | none =>
    obtain ⟨hlast, hkinds⟩ := hscan.idle hs
    refine ⟨∅, hlast, .inl ⟨rfl, hkinds, fun other ho => ?_⟩⟩
    apply Finset.subset_empty.mp
    rw [← hkinds]
    exact kinds_subset ho current
  | some scanner =>
    have hat := hscan.active scanner hs
    have hend := hfinished scanner hs
    obtain ⟨kinds, hlast⟩ := hat.scan
    have htake : others.take scanner.nextOtherIndex = others := by
      rw [hend, List.take_length]
    refine ⟨kinds, hlast, .inr ⟨?_, fun other ho => ?_⟩⟩
    · rw [hat.passed_eq, htake]
    · apply hat.cleared
      rw [htake]
      exact ho

lemma soundRound_apply (hm : MergeSound context m)
    (hqueue : m.queues.get branch = current :: rest)
    (hkeys : ∀ key ∈ turn.acceptedPairKeys, UserAccepted m.session.trace branch key)
    (hturn : turn.acceptedFollowupConflict = none)
    (hsound : AcceptedSoundly context m.session.trace current (m.queues.get branch.other))
    (h : applyRound context surroundings m branch turn current rest = .ok result) :
    SoundRound context branch result := by
  unfold applyRound at h
  simp only at h
  cases happly : surroundings.databases.applyAcceptedTransaction current m.session.world with
  | mk failure world =>
    simp only [Session.applyAcceptedTransaction, happly] at h
    have happlied : ∀ failure, MergeSound context
        ⟨(Session.mk world m.session.trace).record
          (.apply current (m.queues.get branch.other) failure), m.queues, m.metadataIndexes⟩ := by
      intro failure
      apply hm.session
      · intro event he
        exact List.mem_append_left _ he
      · apply soundTrace_snoc hm.sound
        intro current' opposite failure' heq
        cases heq
        exact hsound
    cases failure with
    | some failure =>
      obtain ⟨⟨outcome, m'⟩, hresolve, heq⟩ := ok_of_map h
      rw [← heq]
      obtain ⟨hm', hdecides⟩ := (happlied (some failure)).standalone hresolve
      apply soundRound_standalone outcome hm' hturn
      intro key hk
      apply (hkeys key hk).mono
      intro event he
      exact hdecides.continues.mem (List.mem_append_left _ he)
    | none =>
      cases h
      have hbefore := happlied none
      have hhead : (m.queues.get branch)[0]? = some current := by
        rw [hqueue]
        rfl
      have herase : rest = (m.queues.get branch).eraseIdx 0 := by
        rw [hqueue]
        rfl
      refine ⟨⟨?_, fun target => ?_, fun target tx htx => ?_, hbefore.sound⟩,
        fun turn' hturn' => by cases hturn'⟩
      · intro target tx htx
        simp only [Sides.get_set] at htx
        split at htx
        · rename_i htarget
          subst htarget
          apply hm.queued target tx
          rw [hqueue]
          exact List.mem_cons_of_mem _ htx
        · exact hm.queued target tx htx
      · simp only [Sides.get_set]
        split
        · rename_i htarget
          subst htarget
          rw [hm.indexed, removeTransaction_fromTransactions hhead, herase]
        · exact hm.indexed target
      · simp only [Sides.get_set] at htx
        apply hbefore.warned target tx
        split at htx
        · rename_i htarget
          subst htarget
          simp only [hqueue]
          exact List.mem_cons_of_mem _ htx
        · exact htx

end

lemma openScan_sound {turn : Turn} {current : LoggedTransaction} {rest : List LoggedTransaction}
    (hm : MergeSound context m) (hturn : TurnSound context m branch turn)
    (hqueue : m.queues.get branch = current :: rest)
    {scan : RemainingCurrentConflictScan} {opened : MergeState W}
    (hopen : openScan context m branch current turn = (scan, opened)) :
    MergeSound context opened ∧ opened.queues = m.queues ∧
      (∀ event ∈ m.session.trace, event ∈ opened.session.trace) ∧
      ScanSound context opened.session.trace (opened.queues.get branch.other) current scan ∧
      ∀ conflict ∈ turn.acceptedFollowupConflict, conflict.currentBranch = branch ∧
        PausedPair context opened.session.trace (opened.queues.get branch.other) current scan
          conflict := by
  have hbranch : current.branch = branch :=
    (hm.queued branch current (by rw [hqueue]; exact List.mem_cons_self)).1
  unfold openScan at hopen
  cases hscan : turn.scan with
  | some before =>
    rw [hscan] at hopen
    cases hopen
    obtain ⟨current', rest', hqueue', -, hsound⟩ := hturn.scan scan hscan
    have hcurrent : current' = current := by
      rw [hqueue] at hqueue'
      exact (List.cons.inj hqueue').1.symm
    subst hcurrent
    refine ⟨hm, rfl, fun _ he => he, hsound, fun conflict hc => ?_⟩
    obtain ⟨hconflict, scan', hs, hpaused⟩ := hturn.followup conflict hc
    rw [hscan] at hs
    cases hs
    rw [hsound.current_eq] at hpaused
    exact ⟨hconflict, hpaused⟩
  | none =>
    rw [hscan] at hopen
    cases hopen
    have hmem : ∀ kinds, ∀ event ∈ m.session.trace,
        event ∈ (m.record (.scan current kinds)).session.trace :=
      fun kinds event he => List.mem_append_left _ he
    refine ⟨hm.session (hmem _) ?_, rfl, hmem _, ?_, fun conflict hc => ?_⟩
    · apply soundTrace_snoc hm.sound
      intro current' opposite failure heq
      cases heq
    · rw [hm.indexed, ← hbranch]
      apply scanSound_new
      rw [hbranch]
      exact hturn.keys
    · obtain ⟨-, scan', hs, -⟩ := hturn.followup conflict hc
      rw [hscan] at hs
      cases hs

lemma takeConflict_sound {turn : Turn} {current : LoggedTransaction}
    {scan scan' : RemainingCurrentConflictScan} {conflict : Option Pair} {session : Session W}
    (hscan : ScanSound context m.session.trace (m.queues.get branch.other) current scan)
    (hfollowup : ∀ pair ∈ turn.acceptedFollowupConflict,
      PausedPair context m.session.trace (m.queues.get branch.other) current scan pair)
    (h : takeConflict context surroundings m branch turn scan = (conflict, scan', session)) :
    Checks m.session session ∧ Continues m.session.trace session.trace ∧
      ScanSound context session.trace (m.queues.get branch.other) current scan' ∧
      (conflict = none → Finished (m.queues.get branch.other) scan') ∧
      ∀ pair ∈ conflict, pair.isStandalone ∧ pair.currentBranch = current.branch ∨
        PausedPair context session.trace (m.queues.get branch.other) current scan' pair := by
  unfold takeConflict at h
  split at h
  · rename_i followup hfound
    cases h
    refine ⟨.refl _, .refl _, hscan, nofun, fun pair hpair => ?_⟩
    cases hpair
    exact .inr (hfollowup followup hfound)
  · obtain ⟨hcontinues, hscan', hfinished, hpairs⟩ := scanSound_nextConflict hscan h
    have hchecks : Checks m.session (scan.nextConflict context surroundings.databases
        (m.queues.get branch.other) m.session).2.2 := checks_nextConflict _ _ _
    rw [h] at hchecks
    refine ⟨hchecks, hcontinues, hscan', hfinished, fun pair hpair => ?_⟩
    obtain ⟨hbranch, hstandalone | hpaused⟩ := hpairs pair hpair
    · exact .inl ⟨hstandalone, hbranch⟩
    · exact .inr hpaused

theorem soundRound_turnStep {turn : Turn} {result : MergeState W × Option Turn}
    (hm : MergeSound context m) (hturn : TurnSound context m branch turn)
    (h : turnStep context surroundings m branch turn = .ok result) :
    SoundRound context branch result := by
  unfold turnStep at h
  split at h
  · cases h
    exact ⟨hm, fun turn' hturn' => by cases hturn'⟩
  · rename_i current rest hqueue
    have hbranch : current.branch = branch :=
      (hm.queued branch current (by rw [hqueue]; exact List.mem_cons_self)).1
    split at h
    · rename_i reason hunsafe
      -- an unsafe head has no open scan: the scan would have been opened for a safe one
      have hnoScan : turn.scan = none := by
        apply Option.eq_none_iff_forall_ne_some.mpr
        intro scan hs
        obtain ⟨current', rest', hqueue', hsafe, -⟩ := hturn.scan scan hs
        rw [hqueue] at hqueue'
        cases hqueue'
        rw [hsafe] at hunsafe
        cases hunsafe
      have hnoFollowup : turn.acceptedFollowupConflict = none := by
        apply Option.eq_none_iff_forall_ne_some.mpr
        intro conflict hc
        obtain ⟨-, scan, hs, -⟩ := hturn.followup conflict hc
        rw [hnoScan] at hs
        cases hs
      obtain ⟨⟨outcome, m'⟩, hresolve, heq⟩ := ok_of_map h
      rw [← heq]
      obtain ⟨hm', hdecides⟩ := (hm.closeScan surroundings turn.scan).standalone hresolve
      apply soundRound_standalone outcome hm' hnoFollowup
      intro key hk
      apply (hturn.keys key hk).mono
      intro event he
      apply hdecides.continues.mem
      rw [trace_closeScan]
      exact he
    · rename_i hsafe
      cases hopen : openScan context m branch current turn with
      | mk scan opened =>
        obtain ⟨hopened, hqueues, hmem, hscan, hfollowup⟩ := openScan_sound hm hturn hqueue hopen
        cases htake : takeConflict context surroundings opened branch turn scan with
        | mk conflict taken =>
          obtain ⟨scan', session⟩ := taken
          obtain ⟨hchecks, hcontinues, hscan', hfinished, hpairs⟩ := takeConflict_sound hscan
            (fun pair hpair => (hfollowup pair hpair).2) htake
          simp only [hopen, htake] at h
          have htaken : MergeSound context { opened with session := session } :=
            hopened.session (fun _ he => hcontinues.mem he)
              (soundTrace_checks hchecks hopened.sound)
          have hqueue' : opened.queues.get branch = current :: rest := by
            rw [hqueues]
            exact hqueue
          have hkeys : ∀ key ∈ turn.acceptedPairKeys, UserAccepted session.trace branch key :=
            fun key hk => (hturn.keys key hk).mono fun _ he => hcontinues.mem (hmem _ he)
          cases conflict with
          | none =>
            have hclosed := htaken.closeScan surroundings (some scan')
            have hwarned := htaken.warned branch current (by
              simp only [hqueue']
              exact List.mem_cons_self)
            have haccepted := acceptedSoundly_of_finished hwarned hsafe hscan' (hfinished rfl)
            refine soundRound_apply hclosed ?_ ?_ rfl ?_ h
            · rw [queues_closeScan]
              exact hqueue'
            · rw [trace_closeScan]
              exact hkeys
            · rw [trace_closeScan, queues_closeScan]
              exact haccepted
          | some conflict =>
            simp only [scannedRound] at h
            split at h
            · obtain ⟨⟨outcome, m'⟩, hresolve, h⟩ := bind_eq_ok.mp h
              cases h
              obtain ⟨hm', hdecides⟩ := htaken.standalone hresolve
              apply soundRound_standalone outcome (hm'.closeScan surroundings (some scan')) rfl
              intro key hk
              rw [trace_closeScan]
              exact (hkeys key hk).mono fun _ he => hdecides.continues.mem he
            · rename_i hpair
              rcases hpairs conflict rfl with ⟨hstandalone, hcurrent⟩ | hpaused
              · exact absurd ⟨hstandalone, hcurrent.trans hbranch⟩ hpair
              · refine soundRound_pairConflict htaken hqueue' hsafe ?_ ?_ hscan' hpaused h
                · exact hkeys
                · rfl

/-- What holds in every state of a merge, besides the conservation of its transactions. -/
structure StateSound (context : ConflictCheckContext) (state : State W) : Prop where
  warned : ∀ target, ∀ transaction ∈ pending state target,
    Warned state.merge.session.trace transaction
  sound : SoundTrace context state.merge.session.trace
  indexed : AfterBranchReplay state → ∀ target, state.merge.metadataIndexes.get target =
    .fromTransactions context (state.merge.queues.get target)
  turn : ∀ branch turn, state.point = .turn branch turn →
    TurnSound context state.merge branch turn

lemma isDecision_branchReplayEvents {transaction : LoggedTransaction}
    {statements : List LoggedStatement} {warning : Option (LoggedStatement × String)}
    {event : Event} (h : event ∈ branchReplayEvents transaction statements warning) :
    IsDecision event := by
  unfold branchReplayEvents at h
  rcases List.mem_append.mp h with h | h
  · split at h
    · cases h
    · rw [List.mem_singleton.mp h]
      trivial
  · split at h
    · cases h
    · split at h
      · rw [List.mem_singleton.mp h]
        trivial
      · cases h

/-- Only the statement that the warning was shown for gets it accepted. -/
lemma mem_acceptWarning {warned statement : LoggedStatement} {reason : String}
    {statements : List LoggedStatement}
    (h : statement ∈ acceptWarningIfStatementStillPresent statements warned reason) :
    statement ∈ statements ∨
      warned ∈ statements ∧ statement = acceptReplayWarning warned reason := by
  induction statements with
  | nil => cases h
  | cons first rest ih =>
    simp only [acceptWarningIfStatementStillPresent] at h
    split at h
    · rename_i heq
      subst heq
      rcases List.mem_cons.mp h with h | h
      · exact .inr ⟨List.mem_cons_self, h⟩
      · exact .inl (List.mem_cons_of_mem _ h)
    · rcases List.mem_cons.mp h with h | h
      · exact .inl (h ▸ List.mem_cons_self)
      · rcases ih h with h | ⟨hwarned, h⟩
        · exact .inl (List.mem_cons_of_mem _ h)
        · exact .inr ⟨List.mem_cons_of_mem _ hwarned, h⟩

lemma warned_acceptWarning {trace : List Event} {transaction : LoggedTransaction}
    {statements : List LoggedStatement} {warning : Option (LoggedStatement × String)}
    (h : Warned trace (transactionWithStatements transaction statements)) :
    Warned (trace ++ branchReplayEvents transaction statements warning)
      (transactionWithStatements transaction (acceptWarning statements warning)) := by
  have hbefore : Warned (trace ++ branchReplayEvents transaction statements warning)
      (transactionWithStatements transaction statements) :=
    h.mono fun _ he => List.mem_append_left _ he
  cases warning with
  | none => exact hbefore
  | some warning =>
    obtain ⟨warned, reason⟩ := warning
    intro statement hs accepted haccepted
    rcases mem_acceptWarning hs with hold | ⟨hwarned, heq⟩
    · exact hbefore statement hold accepted haccepted
    · subst heq
      rcases Finset.mem_insert.mp haccepted with hnew | hold
      · refine ⟨warned, ?_, rfl⟩
        rw [hnew]
        apply List.mem_append_right
        apply List.mem_append_right
        simp [hwarned]
      · exact hbefore warned hwarned accepted hold

variable {loaded : Sides (List LoggedTransaction)} {state next : State W}

lemma stateSound_branchReplayStep {resolved rest : List LoggedTransaction}
    {current : LoggedTransaction} (h : StateSound context state)
    (hpoint : state.point = .branchReplay branch resolved)
    (hqueue : state.merge.queues.get branch = current :: rest)
    (hstep : branchReplayStep surroundings state.merge branch resolved current rest = .ok next) :
    StateSound context next := by
  have hbefore : ∀ target, pending state target =
      if target = branch then resolved ++ current :: rest else state.merge.queues.get target := by
    intro target
    simp only [pending, hpoint]
    split
    · rename_i heq
      rw [heq, hqueue]
    · rfl
  have hcurrent : Warned state.merge.session.trace current := by
    apply h.warned branch current
    rw [hbefore, if_pos rfl]
    exact List.mem_append_right _ List.mem_cons_self
  have hkept : ∀ {transactions : List LoggedTransaction} {target},
      (∀ tx ∈ transactions, tx ∈ resolved ++ current :: rest) →
      ∀ tx ∈ (if target = branch then transactions else state.merge.queues.get target),
        Warned state.merge.session.trace tx := by
    intro transactions target hsub tx htx
    apply h.warned target tx
    rw [hbefore]
    split at htx
    · rename_i heq
      rw [if_pos heq]
      exact hsub tx htx
    · rename_i hne
      rw [if_neg hne]
      exact htx
  have hnext : ∀ {resolved'}, next.point = .branchReplay branch resolved' →
      (∀ target, ∀ tx ∈ pending next target, Warned next.merge.session.trace tx) →
      SoundTrace context next.merge.session.trace → StateSound context next := by
    intro resolved' hpoint' hwarned hsound
    refine ⟨hwarned, hsound, fun hafter => absurd hpoint' (hafter _ _), fun _ _ hturn => ?_⟩
    rw [hpoint'] at hturn
    cases hturn
  obtain ⟨-, ⟨htrace, hqueues, hpoint'⟩ | ⟨htrace, hqueues, hpoint'⟩ |
    ⟨first, others, warning, hdrafts, htrace, hqueues, hpoint'⟩⟩ := branchReplayStep_cases hstep
  · apply hnext hpoint'
    · intro target tx htx
      rw [pending_branchReplay hpoint' hqueues] at htx
      rw [htrace]
      apply hkept _ tx htx
      intro tx' htx'
      rwa [List.append_assoc] at htx'
    · rw [htrace]
      exact h.sound
  · have hdecides : Decides state.merge.session.trace next.merge.session.trace := by
      rw [htrace]
      exact decides_snoc _ trivial
    apply hnext hpoint'
    · intro target tx htx
      rw [pending_branchReplay hpoint' hqueues] at htx
      have hwarned := hkept (fun tx' htx' => ?_) tx htx
      · exact hwarned.mono fun _ he => hdecides.continues.mem he
      · rcases List.mem_append.mp htx' with htx' | htx'
        · exact List.mem_append_left _ htx'
        · exact List.mem_append_right _ (List.mem_cons_of_mem _ htx')
    · exact hdecides.soundTrace h.sound
  · have hdecides : Decides state.merge.session.trace next.merge.session.trace := by
      rw [htrace]
      exact ⟨_, rfl, fun event he => isDecision_branchReplayEvents he⟩
    have hmono : ∀ {tx}, Warned state.merge.session.trace tx →
        Warned next.merge.session.trace tx :=
      fun hw => hw.mono fun _ he => hdecides.continues.mem he
    apply hnext hpoint'
    · intro target tx htx
      rw [pending_branchReplay hpoint' hqueues] at htx
      by_cases htarget : target = branch
      · rw [if_pos htarget] at htx
        have hresolved : ∀ tx' ∈ resolved ++ rest, Warned next.merge.session.trace tx' := by
          intro tx' htx'
          apply hmono
          apply h.warned branch tx'
          rw [hbefore, if_pos rfl]
          rcases List.mem_append.mp htx' with htx' | htx'
          · exact List.mem_append_left _ htx'
          · exact List.mem_append_right _ (List.mem_cons_of_mem _ htx')
        rcases List.mem_append.mp htx with htx | htx
        · exact hresolved tx (List.mem_append_left _ htx)
        · rcases List.mem_cons.mp htx with htx | htx
          · rw [htx, htrace]
            exact warned_acceptWarning (hcurrent.drafts hdrafts)
          · exact hresolved tx (List.mem_append_right _ htx)
      · rw [if_neg htarget] at htx
        apply hmono
        apply h.warned target tx
        rw [hbefore, if_neg htarget]
        exact htx
    · exact hdecides.soundTrace h.sound

lemma stateSound_branchReplayDone {resolved : List LoggedTransaction}
    (h : StateSound context state) (hpoint : state.point = .branchReplay branch resolved)
    (hqueue : state.merge.queues.get branch = []) :
    StateSound context (branchReplayDone context state.merge branch resolved) := by
  have hpending := @pending_branchReplayDone W context branch state resolved hpoint hqueue
  have htrace : (branchReplayDone context state.merge branch resolved).merge.session.trace =
      state.merge.session.trace := by
    cases branch <;> rfl
  refine ⟨fun target tx htx => ?_, ?_, fun hafter target => ?_, fun target turn hturn => ?_⟩
  · rw [hpending] at htx
    rw [htrace]
    exact h.warned target tx htx
  · rw [htrace]
    exact h.sound
  · cases branch with
    | ours => exact absurd rfl (hafter .theirs [])
    | theirs => cases target <;> rfl
  · cases branch <;> cases hturn

lemma turnSound_start : TurnSound context m branch Turn.start := by
  refine ⟨fun key hk => ?_, fun scan hs => ?_, fun conflict hc => ?_⟩
  · cases hk
  · cases hs
  · cases hc

lemma stateSound_turn {turn : Turn} {result : MergeState W × Option Turn}
    (hinvariant : MergeInvariant loaded ⟨m, .turn branch turn⟩)
    (h : StateSound context ⟨m, .turn branch turn⟩)
    (hstep : turnStep context surroundings m branch turn = .ok result) :
    StateSound context ⟨result.1, match result.2 with
      | some turn => .turn branch turn
      | none => afterTurn branch⟩ := by
  have hwell : WellQueued m := wellQueued_of_pending hinvariant fun _ => rfl
  have hm : MergeSound context m := ⟨hwell, h.indexed nofun, h.warned, h.sound⟩
  obtain ⟨hm', hturn'⟩ := soundRound_turnStep hm (h.turn branch turn rfl) hstep
  obtain ⟨m', result⟩ := result
  cases result with
  | some turn' =>
    refine ⟨hm'.warned, hm'.sound, fun _ => hm'.indexed, fun target turn'' hpoint => ?_⟩
    cases hpoint
    exact hturn' turn' rfl
  | none =>
    refine ⟨fun target tx htx => ?_, hm'.sound, fun _ => hm'.indexed, fun target turn'' hpoint => ?_⟩
    · rw [pending_afterTurn] at htx
      exact hm'.warned target tx htx
    · cases branch with
      | ours =>
        cases hpoint
        exact turnSound_start
      | theirs => cases hpoint

lemma stateSound_initial (world : W) (rows : Sides (List LogTableRow)) :
    StateSound context (initial surroundings world rows) := by
  have htrace : (initial surroundings world rows).merge.session.trace = [] := rfl
  have hpoint : (initial surroundings world rows).point = .branchReplay .ours [] := rfl
  refine ⟨fun target tx htx => ?_, ?_, fun hafter => absurd hpoint (hafter _ _),
    fun target turn hturn => ?_⟩
  · have hloaded : tx ∈ loadLoggedTransactions surroundings.reader target (rows.get target) := by
      cases target <;> exact htx
    obtain ⟨-, -, hnone⟩ := mem_loadLoggedTransactions hloaded
    intro statement hs warning hw
    rw [hnone statement hs] at hw
    cases hw
  · rw [htrace]
    intro earlier current opposite failure later heq
    have hlength := congrArg List.length heq
    simp at hlength
  · rw [hpoint] at hturn
    cases hturn

lemma stateSound_step (hinvariant : MergeInvariant loaded state) (h : StateSound context state)
    (hstep : step context surroundings state = .ok next) : StateSound context next := by
  obtain ⟨m, point⟩ := state
  unfold step at hstep
  split at hstep
  · rename_i branch resolved hpoint
    simp only at hpoint
    split at hstep
    · rename_i hqueue
      cases hstep
      exact stateSound_branchReplayDone h hpoint hqueue
    · rename_i current rest hqueue
      exact stateSound_branchReplayStep h hpoint hqueue hstep
  · rename_i hpoint
    simp only at hpoint
    subst hpoint
    split at hstep
    · cases hstep
      refine ⟨h.warned, h.sound, fun _ => h.indexed nofun, fun target turn hturn => ?_⟩
      cases hturn
    · cases hstep
      refine ⟨h.warned, h.sound, fun _ => h.indexed nofun, fun target turn hturn => ?_⟩
      cases hturn
      exact turnSound_start
  · rename_i branch turn hpoint
    simp only at hpoint
    subst hpoint
    obtain ⟨⟨m', result⟩, hturn, hstep⟩ := bind_eq_ok.mp hstep
    have hsound := stateSound_turn hinvariant h hturn
    cases result with
    | some turn' =>
      cases hstep
      exact hsound
    | none =>
      cases branch with
      | ours =>
        cases hstep
        exact hsound
      | theirs =>
        cases hstep
        exact hsound
  · cases hstep

/-- Every state of a merge is sound. -/
theorem stateSound_reachable {world : W} {rows : Sides (List LogTableRow)}
    (h : Reachable context surroundings world rows state) : StateSound context state := by
  induction h with
  | refl => exact stateSound_initial world rows
  | tail hrun hstep ih => exact stateSound_step (invariant_reachable hrun) ih hstep

/-- Whenever a transaction is replayed for good, its statements are replayable, and against
every transaction of the opposite queue, in its version of that moment, there was nothing to
check or a check that found nothing or that the user accepted. -/
theorem applied_soundly {world : W} {rows : Sides (List LogTableRow)}
    (h : Reachable context surroundings world rows state) {earlier later : List Event}
    {current : LoggedTransaction} {opposite : List LoggedTransaction}
    {failure : Option StatementConflict}
    (happly : state.merge.session.trace = earlier ++ .apply current opposite failure :: later) :
    AcceptedSoundly context earlier current opposite :=
  (stateSound_reachable h).sound earlier current opposite failure later happly

end

def updateMetadata : StatementMetadata :=
  parseStatementMetadataForContext twoTables ⟨"", none, false⟩
    ⟨.update, some "a", [.column "x"], none, ∅, by simp⟩

def updateSurroundings : Surroundings Unit :=
  { quietSurroundings with
    reader :=
      { neutralizeRollback := id
        parse := fun _ => .ok updateMetadata
        unsupported := fun _ => updateMetadata } }

def twoUpdates : Sides (List LogTableRow) where
  ours := [⟨1, "", "UPDATE a SET x = 1", "UPDATE a SET x = 1", true, none⟩]
  theirs := [⟨1, "", "UPDATE a SET x = 1", "UPDATE a SET x = 1", true, none⟩]

def updateTransaction (branch : BranchName) : LoggedTransaction :=
  loggedTransaction (makeLoggedStatement updateSurroundings.reader branch 0 1 ""
    ⟨"UPDATE a SET x = 1", "UPDATE a SET x = 1", true, none⟩) [] 0

def updatesTrace : List Event :=
  [.scan (updateTransaction .ours) {.writeWrite},
    .checkNext {.writeWrite} (updateTransaction .ours) (updateTransaction .theirs) .empty,
    .apply (updateTransaction .ours) [updateTransaction .theirs] none]

def twoUpdatesMerged : State Unit where
  merge :=
    { session := ⟨(), updatesTrace⟩
      queues := ⟨[], [updateTransaction .theirs]⟩
      metadataIndexes :=
        ⟨(RemainingMetadataIndex.fromTransactions twoTables
            [updateTransaction .ours]).removeTransaction twoTables (updateTransaction .ours),
          .fromTransactions twoTables [updateTransaction .theirs]⟩ }
  point := .turn .theirs .start

lemma twoUpdatesMerged_reachable :
    Reachable twoTables updateSurroundings () twoUpdates twoUpdatesMerged :=
  reachable_run twoTables updateSurroundings 6 .refl rfl

/-- The local update is applied after the one check that the pair needs. -/
theorem update_applied_soundly :
    AcceptedSoundly twoTables
        [.scan (updateTransaction .ours) {.writeWrite},
          .checkNext {.writeWrite} (updateTransaction .ours) (updateTransaction .theirs) .empty]
        (updateTransaction .ours) [updateTransaction .theirs] := by
  have happly : twoUpdatesMerged.merge.session.trace =
      [.scan (updateTransaction .ours) {.writeWrite},
        .checkNext {.writeWrite} (updateTransaction .ours) (updateTransaction .theirs) .empty] ++
        .apply (updateTransaction .ours) [updateTransaction .theirs] none :: [] := rfl
  exact applied_soundly twoUpdatesMerged_reachable happly

/-- Every transaction is checked alone with every transaction of the opposite queue. -/
def CheckedOneByOne (context : ConflictCheckContext) (trace : List Event) : Prop :=
  ∀ earlier current opposite failure later,
    trace = earlier ++ .apply current opposite failure :: later →
    (∀ statement ∈ current.statements, Replayable earlier statement) ∧
      ∀ other ∈ opposite, Cleared context earlier current other

/-- The first of two inserts into different tables is applied without a check of the pair. -/
theorem insert_applied_unchecked :
    Reachable twoTables quietSurroundings () twoInserts twoInsertsMerged ∧
      ¬ CheckedOneByOne twoTables twoInsertsMerged.merge.session.trace := by
  refine ⟨twoInsertsMerged_reachable, fun h => ?_⟩
  have hinsert := h [.scan oursInsert ∅] oursInsert [theirsInsert] none _ rfl
  obtain ⟨enabled, result, hevent, -⟩ := hinsert.2 theirsInsert List.mem_cons_self
  cases hevent

end SqliteReconcile.AcceptanceSoundness
