import SqliteReconcile.MergeConservation
import SqliteReconcile.RemainingKinds

/-! What the trace of a merge says about the open scan, and that the position of the rolling
scanner never runs ahead of it. -/
namespace SqliteReconcile.ScanSoundness
open Outcomes (bind_eq_ok)
open Models SqlMetadata RemainingMetadata LogMerge TerminalUi ConflictDetection TerminalMergetool
  MergeConservation

def isScan : Event → Bool
  | .scan .. => true
  | _ => false

def scanned : Event → Option (LoggedTransaction × Finset ConflictKind)
  | .scan current kinds => some (current, kinds)
  | _ => none

def lastScan (trace : List Event) : Option (LoggedTransaction × Finset ConflictKind) :=
  trace.foldl (fun last event => if isScan event then scanned event else last) none

def sinceScan (trace : List Event) : List Event :=
  trace.foldl (fun since event => if isScan event then [] else since ++ [event]) []

/-- The opposite transaction that a call moves the scan past. -/
def passedBy : Event → Option LoggedTransaction
  | .checkNext _ _ other result => if result.hasConflict then none else some other
  | .acceptNext _ other result => if result.hasConflict then none else some other
  | _ => none

/-- The opposite transactions that the open scan has passed, in order. -/
def passed (trace : List Event) : List LoggedTransaction :=
  (sinceScan trace).filterMap passedBy

/-- The user accepted a conflict with this key, and it was reviewable. -/
def UserAccepted (trace : List Event) (branch : BranchName) (key : ConflictResolutionKey) :
    Prop :=
  ∃ current other conflicts, .userAccepts current other conflicts ∈ trace ∧
    isReviewablePairConflict conflicts ∧ pairKey branch current other conflicts = key

/-- The open scan checked a pair with all kinds it needs, and found no conflict or one that
the user accepted. -/
def Cleared (context : ConflictCheckContext) (trace : List Event)
    (current other : LoggedTransaction) : Prop :=
  ∃ enabled result, .checkNext enabled current other result ∈ sinceScan trace ∧
    remainingIndividualCheckKinds context current (.fromTransactions context [other]) ⊆ enabled ∧
    (result.hasConflict = false ∨ isReviewablePairConflict result.conflicts ∧
      UserAccepted trace current.branch (pairKey current.branch current other result.conflicts))

/-- A statement is safe for replay, or the user accepted the reason why it is not. -/
def Replayable (trace : List Event) (statement : LoggedStatement) : Prop :=
  statement.isReplaySafe ∨ ∃ reason shown, statement.replayBlockReason = some reason ∧
    .acceptsWarning shown reason ∈ trace ∧
    { shown with acceptedReplayWarnings := ∅ } = { statement with acceptedReplayWarnings := ∅ }

/-- What has to hold when a transaction is applied: each statement is replayable, and the
open scan is one of this version. It needs no checks against the opposite queue or any
transaction of it, or it has passed exactly the opposite queue, each pair cleared. -/
structure AcceptedSoundly (context : ConflictCheckContext) (trace : List Event)
    (current : LoggedTransaction) (opposite : List LoggedTransaction) : Prop where
  replayable : ∀ statement ∈ current.statements, Replayable trace statement
  checked : ∃ kinds, lastScan trace = some (current, kinds) ∧
    (kinds = ∅ ∧
        remainingIndividualCheckKinds context current (.fromTransactions context opposite) = ∅ ∧
        (∀ other ∈ opposite, remainingIndividualCheckKinds context current
          (.fromTransactions context [other]) = ∅) ∨
      passed trace = opposite ∧ ∀ other ∈ opposite, Cleared context trace current other)

/-- Every transaction was applied soundly. -/
def SoundTrace (context : ConflictCheckContext) (trace : List Event) : Prop :=
  ∀ earlier current opposite failure later,
    trace = earlier ++ .apply current opposite failure :: later →
    AcceptedSoundly context earlier current opposite

lemma lastScan_snoc (trace : List Event) (event : Event) :
    lastScan (trace ++ [event]) = if isScan event then scanned event else lastScan trace := by
  simp [lastScan]

lemma sinceScan_snoc (trace : List Event) (event : Event) :
    sinceScan (trace ++ [event]) = if isScan event then [] else sinceScan trace ++ [event] := by
  simp [sinceScan]

def Continues (trace later : List Event) : Prop :=
  ∃ events, later = trace ++ events ∧ ∀ event ∈ events, isScan event = false

lemma Continues.refl (trace : List Event) : Continues trace trace := ⟨[], by simp, by simp⟩

lemma continues_snoc (trace : List Event) {event : Event} (h : isScan event = false) :
    Continues trace (trace ++ [event]) := ⟨[event], rfl, by simpa using h⟩

lemma Continues.trans {first second third : List Event} (h : Continues first second)
    (h' : Continues second third) : Continues first third := by
  obtain ⟨events, htrace, hevents⟩ := h
  obtain ⟨events', htrace', hevents'⟩ := h'
  refine ⟨events ++ events', by rw [htrace', htrace, List.append_assoc], ?_⟩
  intro event he
  rcases List.mem_append.mp he with he | he
  · exact hevents event he
  · exact hevents' event he

lemma Continues.scan {trace later : List Event} (h : Continues trace later) :
    lastScan later = lastScan trace ∧ ∃ events, later = trace ++ events ∧
      sinceScan later = sinceScan trace ++ events := by
  obtain ⟨events, htrace, hevents⟩ := h
  subst htrace
  induction events using List.reverseRecOn with
  | nil => exact ⟨by simp, [], rfl, by simp⟩
  | append_singleton events event ih =>
    have hlast := hevents event (List.mem_append_right _ List.mem_cons_self)
    obtain ⟨hscan, added, happend, hsince⟩ :=
      ih fun e he => hevents e (List.mem_append_left _ he)
    have hadded : events = added := List.append_cancel_left happend
    subst hadded
    rw [← List.append_assoc, lastScan_snoc, sinceScan_snoc, hlast]
    refine ⟨hscan, events ++ [event], by rw [List.append_assoc], ?_⟩
    simp [hsince]

lemma UserAccepted.mono {trace later : List Event} {branch : BranchName}
    {key : ConflictResolutionKey} (h : UserAccepted trace branch key)
    (hmem : ∀ event ∈ trace, event ∈ later) : UserAccepted later branch key := by
  obtain ⟨current, other, conflicts, hevent, hrest⟩ := h
  exact ⟨current, other, conflicts, hmem _ hevent, hrest⟩

lemma Continues.mem {trace later : List Event} (h : Continues trace later) {event : Event}
    (he : event ∈ trace) : event ∈ later := by
  obtain ⟨events, htrace, -⟩ := h
  rw [htrace]
  exact List.mem_append_left _ he

lemma Continues.mem_sinceScan {trace later : List Event} (h : Continues trace later)
    {event : Event} (he : event ∈ sinceScan trace) : event ∈ sinceScan later := by
  obtain ⟨-, events, -, hsince⟩ := h.scan
  rw [hsince]
  exact List.mem_append_left _ he

lemma Cleared.continues {context : ConflictCheckContext} {trace later : List Event}
    {current other : LoggedTransaction} (h : Cleared context trace current other)
    (hlater : Continues trace later) : Cleared context later current other := by
  obtain ⟨enabled, result, hevent, hkinds, hresult⟩ := h
  refine ⟨enabled, result, hlater.mem_sinceScan hevent, hkinds, ?_⟩
  rcases hresult with hresult | ⟨hreviewable, haccepted⟩
  · exact .inl hresult
  · exact .inr ⟨hreviewable, haccepted.mono fun _ he => hlater.mem he⟩

lemma reviewable_of_key {branch : BranchName} {current other current' other' : LoggedTransaction}
    {conflicts conflicts' : List StatementConflict}
    (hkey : pairKey branch current other conflicts = pairKey branch current' other' conflicts')
    (h : isReviewablePairConflict conflicts) : isReviewablePairConflict conflicts' := by
  have hkinds : conflicts.map (·.kind) = conflicts'.map (·.kind) := by
    have hconflicts := congrArg ConflictResolutionKey.conflicts hkey
    have hmap := congrArg (List.map Prod.fst) hconflicts
    simp only [pairKey, conflictResolutionKey, List.map_map] at hmap
    exact hmap
  have hread : ∀ cs : List StatementConflict, isReviewablePairConflict cs =
      (!(cs.map (·.kind)).isEmpty && (cs.map (·.kind)).all fun kind =>
        kind != .integrity && kind != .replayError) := by
    intro cs
    rw [isReviewablePairConflict, List.all_map]
    cases cs <;> rfl
  rw [hread, ← hkinds, ← hread]
  exact h

lemma soundTrace_snoc {context : ConflictCheckContext} {trace : List Event} {event : Event}
    (h : SoundTrace context trace)
    (happly : ∀ current opposite failure, event = .apply current opposite failure →
      AcceptedSoundly context trace current opposite) :
    SoundTrace context (trace ++ [event]) := by
  intro earlier current opposite failure later heq
  rcases List.eq_nil_or_concat later with hlater | ⟨later', last, hlater⟩
  · subst hlater
    obtain ⟨htrace, hevent⟩ := List.append_inj' heq rfl
    rw [← htrace]
    exact happly current opposite failure (List.cons.inj hevent).1
  · rw [hlater, List.concat_eq_append, ← List.cons_append, ← List.append_assoc] at heq
    obtain ⟨htrace, -⟩ := List.append_inj' heq rfl
    exact h earlier current opposite failure later' htrace

lemma soundTrace_append {context : ConflictCheckContext} {trace : List Event}
    (h : SoundTrace context trace) (events : List Event)
    (hevents : ∀ event ∈ events, ∀ current opposite failure,
      event ≠ .apply current opposite failure) :
    SoundTrace context (trace ++ events) := by
  induction events using List.reverseRecOn with
  | nil => rwa [List.append_nil]
  | append_singleton events event ih =>
    rw [← List.append_assoc]
    apply soundTrace_snoc (ih fun e he => hevents e (List.mem_append_left _ he))
    intro current opposite failure heq
    exact absurd heq (hevents event (List.mem_append_right _ List.mem_cons_self) _ _ _)

section
variable {context : ConflictCheckContext} {trace later : List Event}
  {others : List LoggedTransaction} {current other : LoggedTransaction}
  {scanner scanner' : OrderedRemainingConflictScanner}

lemma passed_snoc {event : Event} (h : isScan event = false) :
    passed (trace ++ [event]) = passed trace ++ (passedBy event).toList := by
  unfold passed
  rw [sinceScan_snoc, h]
  cases hp : passedBy event <;> simp [hp]

/-- The scanner stands after a cleared front part of the opposite queue. -/
structure ScannerAt (context : ConflictCheckContext) (trace : List Event)
    (others : List LoggedTransaction) (current : LoggedTransaction)
    (scanner : OrderedRemainingConflictScanner) : Prop where
  current_eq : scanner.currentTransaction = current
  branch_eq : scanner.currentBranch = current.branch
  scan : ∃ kinds, lastScan trace = some (current, kinds)
  position : scanner.nextOtherIndex ≤ others.length
  passed_eq : passed trace = others.take scanner.nextOtherIndex
  cleared : ∀ other ∈ others.take scanner.nextOtherIndex, Cleared context trace current other
  enabled : ∀ other ∈ others,
    remainingIndividualCheckKinds context current (.fromTransactions context [other]) ⊆
      scanner.enabledKinds
  keys : ∀ key ∈ scanner.acceptedPairKeys, UserAccepted trace current.branch key

/-- The scanner is paused on a conflict of the transaction at its position. -/
def PausedAt (context : ConflictCheckContext) (trace : List Event)
    (others : List LoggedTransaction) (current : LoggedTransaction)
    (scanner : OrderedRemainingConflictScanner) (found : FoundConflict) : Prop :=
  ∃ other enabled result, found.1 = some scanner.nextOtherIndex ∧
    others[scanner.nextOtherIndex]? = some other ∧
    .checkNext enabled current other result ∈ sinceScan trace ∧
    remainingIndividualCheckKinds context current (.fromTransactions context [other]) ⊆ enabled ∧
    found.2.2 = some (pairKey current.branch current other result.conflicts) ∧
    (found.2.1.conflicts = result.conflicts ∨
      pairKey current.branch current other result.conflicts ∈ scanner.acceptedPairKeys)

lemma ScannerAt.continues (h : ScannerAt context trace others current scanner)
    (hlater : Continues trace later) (hpassed : passed later = passed trace) :
    ScannerAt context later others current scanner where
  current_eq := h.current_eq
  branch_eq := h.branch_eq
  scan := by
    rw [hlater.scan.1]
    exact h.scan
  position := h.position
  passed_eq := hpassed.trans h.passed_eq
  cleared := fun other ho => (h.cleared other ho).continues hlater
  enabled := h.enabled
  keys := fun key hk => (h.keys key hk).mono fun _ he => hlater.mem he

lemma ScannerAt.requeue {others' : List LoggedTransaction} {enabled : Finset ConflictKind}
    (h : ScannerAt context trace others current scanner) (hlater : Continues trace later)
    (hpassed : passed later = passed trace)
    (hposition : scanner.nextOtherIndex ≤ others'.length)
    (htake : others'.take scanner.nextOtherIndex = others.take scanner.nextOtherIndex)
    (henabled : ∀ other ∈ others', remainingIndividualCheckKinds context current
      (.fromTransactions context [other]) ⊆ enabled) :
    ScannerAt context later others' current { scanner with enabledKinds := enabled } := by
  have hat := h.continues hlater hpassed
  refine ⟨hat.current_eq, hat.branch_eq, hat.scan, hposition, ?_, ?_, henabled, hat.keys⟩
  · rw [htake]
    exact hat.passed_eq
  · rw [htake]
    exact hat.cleared

lemma ScannerAt.advance (h : ScannerAt context trace others current scanner)
    (hlater : Continues trace later) (hother : others[scanner.nextOtherIndex]? = some other)
    (hpassed : passed later = passed trace ++ [other])
    (hcleared : Cleared context later current other) :
    ScannerAt context later others current scanner.advance := by
  obtain ⟨hlt, heq⟩ := List.getElem?_eq_some_iff.mp hother
  have htake : others.take (scanner.nextOtherIndex + 1) =
      others.take scanner.nextOtherIndex ++ [other] := by
    rw [List.take_add_one, hother]
    rfl
  constructor
  · exact h.current_eq
  · exact h.branch_eq
  · rw [hlater.scan.1]
    exact h.scan
  · exact hlt
  · simp only [OrderedRemainingConflictScanner.advance]
    rw [hpassed, h.passed_eq, htake]
  · intro other' ho
    simp only [OrderedRemainingConflictScanner.advance] at ho
    rw [htake] at ho
    rcases List.mem_append.mp ho with ho | ho
    · exact (h.cleared other' ho).continues hlater
    · rw [List.mem_singleton.mp ho]
      exact hcleared
  · exact h.enabled
  · exact fun key hk => (h.keys key hk).mono fun _ he => hlater.mem he

/-- A transaction with an accepted conflict is cleared once the scan moves on. -/
lemma cleared_of_accepted {enabled : Finset ConflictKind} {result : ConflictCheckResult}
    (hevent : .checkNext enabled current other result ∈ sinceScan trace)
    (hkinds : remainingIndividualCheckKinds context current (.fromTransactions context [other]) ⊆
      enabled)
    (haccepted : UserAccepted trace current.branch
      (pairKey current.branch current other result.conflicts)) :
    Cleared context trace current other := by
  refine ⟨enabled, result, hevent, hkinds, .inr ⟨?_, haccepted⟩⟩
  obtain ⟨current', other', conflicts, -, hreviewable, hkey⟩ := haccepted
  exact reviewable_of_key hkey hreviewable

variable {W : Type} (databases : Databases W)

/-- Scanning on keeps the scanner in step with the queue, and stops at its end or paused. -/
lemma scannerAt_scanSuffix (suffix : List LoggedTransaction) :
    ∀ {scanner : OrderedRemainingConflictScanner} {session : Session W},
      ScannerAt context session.trace others current scanner →
      suffix = others.drop scanner.nextOtherIndex →
      ∃ found scanner' session',
        scanner.scanSuffix context databases session suffix = (found, scanner', session') ∧
        Continues session.trace session'.trace ∧
        ScannerAt context session'.trace others current scanner' ∧
        (found = none → scanner'.nextOtherIndex = others.length) ∧
        ∀ conflict ∈ found,
          PausedAt context session'.trace others current scanner' conflict := by
  induction suffix with
  | nil =>
    intro scanner session hat hsuffix
    refine ⟨none, scanner, session, rfl, .refl _, hat, fun _ => ?_, fun conflict hc => ?_⟩
    · have hlength := congrArg List.length hsuffix
      rw [List.length_nil, List.length_drop] at hlength
      have hposition := hat.position
      omega
    · cases hc
  | cons next rest ih =>
    intro scanner session hat hsuffix
    have hnext : others[scanner.nextOtherIndex]? = some next := by
      have hhead := congrArg (fun xs => xs[0]?) hsuffix
      simp only [List.getElem?_cons_zero, List.getElem?_drop, Nat.add_zero] at hhead
      exact hhead.symm
    have hrest : rest = others.drop scanner.advance.nextOtherIndex := by
      have htail := congrArg List.tail hsuffix
      rw [List.tail_cons, List.tail_drop] at htail
      exact htail
    have hkinds := hat.enabled next (List.mem_of_getElem? hnext)
    cases hresult : (session.checkNext databases scanner.enabledKinds scanner.currentBranch
        scanner.currentTransaction next (scanner.staticResult context next)) with
    | mk result session₁ =>
      have htrace₁ : session₁.trace =
          session.trace ++ [.checkNext scanner.enabledKinds current next result] := by
        have heq := congrArg (fun r => r.2.trace) hresult
        have hfirst := congrArg Prod.fst hresult
        simp only [Session.checkNext, Session.trace_record] at heq hfirst
        rw [← heq, hfirst, hat.current_eq]
      have hcontinues₁ : Continues session.trace session₁.trace := by
        rw [htrace₁]
        exact continues_snoc _ rfl
      have hevent₁ : .checkNext scanner.enabledKinds current next result ∈
          sinceScan session₁.trace := by
        rw [htrace₁, sinceScan_snoc]
        exact List.mem_append_right _ List.mem_cons_self
      simp only [OrderedRemainingConflictScanner.scanSuffix, hresult]
      cases hconflict : result.hasConflict with
      | false =>
        have hat₁ : ScannerAt context session₁.trace others current scanner.advance := by
          apply hat.advance hcontinues₁ hnext
          · rw [htrace₁, passed_snoc rfl]
            simp [passedBy, hconflict]
          · exact ⟨_, result, hevent₁, hkinds, .inl hconflict⟩
        obtain ⟨found, scanner', session', heq, hcontinues, hat', hend, hpaused⟩ := ih hat₁ hrest
        exact ⟨found, scanner', session', heq, hcontinues₁.trans hcontinues, hat', hend, hpaused⟩
      | true =>
        have hpassed₁ : passed session₁.trace = passed session.trace := by
          rw [htrace₁, passed_snoc rfl]
          simp [passedBy, hconflict]
        have hat₁ := hat.continues hcontinues₁ hpassed₁
        simp only [if_true]
        rw [hat.branch_eq, hat.current_eq]
        split
        · rename_i hkey
          cases hadvance : session₁.acceptNext databases current next result with
          | mk advanceResult session₂ =>
            have htrace₂ : session₂.trace =
                session₁.trace ++ [.acceptNext current next advanceResult] := by
              have heq := congrArg (fun r => r.2.trace) hadvance
              have hfirst := congrArg Prod.fst hadvance
              simp only [Session.acceptNext, Session.trace_record] at heq hfirst
              rw [← heq, hfirst]
            have hcontinues₂ : Continues session₁.trace session₂.trace := by
              rw [htrace₂]
              exact continues_snoc _ rfl
            have hevent₂ := hcontinues₂.mem_sinceScan hevent₁
            simp only
            cases hfails : advanceResult.hasConflict with
            | true =>
              have hpassed₂ : passed session₂.trace = passed session₁.trace := by
                rw [htrace₂, passed_snoc rfl]
                simp [passedBy, hfails]
              refine ⟨_, scanner, session₂, rfl, hcontinues₁.trans hcontinues₂,
                hat₁.continues hcontinues₂ hpassed₂, fun hnone => ?_, fun conflict hc => ?_⟩
              · cases hnone
              · cases hc
                exact ⟨next, _, result, rfl, hnext, hevent₂, hkinds, rfl, .inr hkey⟩
            | false =>
              have hat₂ : ScannerAt context session₂.trace others current scanner.advance := by
                apply hat₁.advance hcontinues₂ hnext
                · rw [htrace₂, passed_snoc rfl]
                  simp [passedBy, hfails]
                · apply cleared_of_accepted hevent₂ hkinds
                  exact (hat₁.keys _ hkey).mono fun _ he => hcontinues₂.mem he
              obtain ⟨found, scanner', session', heq, hcontinues, hat', hend, hpaused⟩ :=
                ih hat₂ hrest
              exact ⟨found, scanner', session', heq,
                (hcontinues₁.trans hcontinues₂).trans hcontinues, hat', hend, hpaused⟩
        · refine ⟨_, scanner, session₁, rfl, hcontinues₁, hat₁, fun hnone => ?_,
            fun conflict hc => ?_⟩
          · cases hnone
          · cases hc
            exact ⟨next, _, result, rfl, hnext, hevent₁, hkinds, rfl, .inl rfl⟩

variable {databases}

lemma scannerAt_nextConflict {session session' : Session W} {found : Option FoundConflict}
    (hat : ScannerAt context session.trace others current scanner)
    (h : scanner.nextConflict context databases others session = (found, scanner', session')) :
    Continues session.trace session'.trace ∧
      ScannerAt context session'.trace others current scanner' ∧
      (found = none → scanner'.nextOtherIndex = others.length) ∧
      ∀ conflict ∈ found, conflict.1 = none ∨
        PausedAt context session'.trace others current scanner' conflict := by
  have hscanned : ∀ {start : OrderedRemainingConflictScanner} {first : Session W},
      ScannerAt context session.trace others current start → first.trace = session.trace →
      start.scanSuffix context databases first (others.drop start.nextOtherIndex) =
        (found, scanner', session') →
      Continues session.trace session'.trace ∧
        ScannerAt context session'.trace others current scanner' ∧
        (found = none → scanner'.nextOtherIndex = others.length) ∧
        ∀ conflict ∈ found, conflict.1 = none ∨
          PausedAt context session'.trace others current scanner' conflict := by
    intro start first hstart htrace hrun
    rw [← htrace] at hstart ⊢
    obtain ⟨found', scanner'', last', heq, hcontinues, hat', hend, hpaused⟩ :=
      scannerAt_scanSuffix databases _ hstart rfl
    rw [hrun] at heq
    cases heq
    exact ⟨hcontinues, hat', hend, fun conflict hc => .inr (hpaused conflict hc)⟩
  unfold OrderedRemainingConflictScanner.nextConflict at h
  have hstarted : ScannerAt context session.trace others current
      { scanner with started := true } :=
    ⟨hat.current_eq, hat.branch_eq, hat.scan, hat.position, hat.passed_eq, hat.cleared,
      hat.enabled, hat.keys⟩
  split at h
  · exact hscanned hat rfl h
  · simp only at h
    split at h
    · cases h
      refine ⟨.refl _, hstarted, fun hnone => ?_, fun conflict hc => ?_⟩
      · cases hnone
      · cases hc
        exact .inl rfl
    · exact hscanned hstarted (Session.trace_start databases _ session) h

lemma scannerAt_acceptCurrentConflict {session session' : Session W} {paused : FoundConflict}
    {index : ℕ} {result : ConflictCheckResult} {found : Option FoundConflict}
    (hat : ScannerAt context session.trace others current scanner)
    (hpaused : PausedAt context session.trace others current scanner paused)
    (hindex : paused.1 = some index) (haccepted : ∀ key ∈ paused.2.2,
      UserAccepted session.trace current.branch key)
    (h : scanner.acceptCurrentConflict databases others index result paused.2.2 session =
      .ok (found, scanner', session')) :
    Continues session.trace session'.trace ∧
      ScannerAt context session'.trace others current scanner' ∧
      ∀ conflict ∈ found, PausedAt context session'.trace others current scanner' conflict := by
  obtain ⟨other, enabled, checked, hnext, hother, hevent, hkinds, hkey, -⟩ := hpaused
  have heq : index = scanner.nextOtherIndex := Option.some.inj (hindex.symm.trans hnext)
  subst heq
  have hpair := haccepted _ hkey
  unfold OrderedRemainingConflictScanner.acceptCurrentConflict at h
  rw [if_neg (fun hne => hne rfl), hkey] at h
  simp only [OrderedRemainingConflictScanner.acceptResolutionKey, hother] at h
  have hinserted : ScannerAt context session.trace others current
      { scanner with acceptedPairKeys := insert (pairKey current.branch current other
          checked.conflicts) scanner.acceptedPairKeys } := by
    refine ⟨hat.current_eq, hat.branch_eq, hat.scan, hat.position, hat.passed_eq, hat.cleared,
      hat.enabled, fun key hk => ?_⟩
    rcases Finset.mem_insert.mp hk with hk | hk
    · rw [hk]
      exact hpair
    · exact hat.keys key hk
  cases hadvance : session.acceptNext databases scanner.currentTransaction other result with
  | mk advanceResult session₁ =>
    have htrace : session₁.trace =
        session.trace ++ [.acceptNext current other advanceResult] := by
      have heq := congrArg (fun r => r.2.trace) hadvance
      have hfirst := congrArg Prod.fst hadvance
      simp only [Session.acceptNext, Session.trace_record] at heq hfirst
      rw [← heq, hfirst, hat.current_eq]
    have hcontinues : Continues session.trace session₁.trace := by
      rw [htrace]
      exact continues_snoc _ rfl
    simp only [hadvance] at h
    cases hfails : advanceResult.hasConflict with
    | true =>
      have hpassed : passed session₁.trace = passed session.trace := by
        rw [htrace, passed_snoc rfl]
        simp [passedBy, hfails]
      rw [hfails] at h
      cases h
      refine ⟨hcontinues, hinserted.continues hcontinues hpassed, fun conflict hc => ?_⟩
      cases hc
      exact ⟨other, enabled, checked, rfl, hother, hcontinues.mem_sinceScan hevent, hkinds, rfl,
        .inr (Finset.mem_insert_self _ _)⟩
    | false =>
      rw [hfails] at h
      cases h
      refine ⟨hcontinues, ?_, fun conflict hc => by cases hc⟩
      apply hinserted.advance hcontinues hother
      · rw [htrace, passed_snoc rfl]
        simp [passedBy, hfails]
      · apply cleared_of_accepted (hcontinues.mem_sinceScan hevent) hkinds
        exact hpair.mono fun _ he => hcontinues.mem he

/-- The scan of a queue head has nothing to check, or its scanner stands in the queue. -/
structure ScanSound (context : ConflictCheckContext) (trace : List Event)
    (others : List LoggedTransaction) (current : LoggedTransaction)
    (scan : RemainingCurrentConflictScan) : Prop where
  current_eq : scan.current = current
  branch_eq : scan.currentBranch = current.branch
  idle : scan.scanner = none → lastScan trace = some (current, ∅) ∧
    remainingIndividualCheckKinds context current (.fromTransactions context others) = ∅
  active : ∀ scanner ∈ scan.scanner, ScannerAt context trace others current scanner

def PausedPair (context : ConflictCheckContext) (trace : List Event)
    (others : List LoggedTransaction) (current : LoggedTransaction)
    (scan : RemainingCurrentConflictScan) (conflict : Pair) : Prop :=
  ∃ scanner ∈ scan.scanner, ∃ found, conflict = conflictPair current.branch found ∧
    PausedAt context trace others current scanner found

/-- The scan of a queue head has passed everything that it has to check. -/
def Finished (others : List LoggedTransaction) (scan : RemainingCurrentConflictScan) : Prop :=
  ∀ scanner ∈ scan.scanner, scanner.nextOtherIndex = others.length

variable {scan : RemainingCurrentConflictScan}

lemma scanSound_new {keys : Finset ConflictResolutionKey}
    (hkeys : ∀ key ∈ keys, UserAccepted trace current.branch key) :
    ScanSound context (trace ++ [.scan current (remainingIndividualCheckKinds context current
        (.fromTransactions context others))]) others current
      (.new context current current.branch (.fromTransactions context others) keys) := by
  have hlast : ∀ kinds, lastScan (trace ++ [.scan current kinds]) = some (current, kinds) := by
    intro kinds
    rw [lastScan_snoc]
    rfl
  refine ⟨rfl, rfl, fun hnone => ?_, fun scanner hscanner => ?_⟩
  · simp only [RemainingCurrentConflictScan.new] at hnone
    split at hnone
    · rename_i hempty
      rw [hlast, hempty]
      exact ⟨rfl, rfl⟩
    · cases hnone
  · simp only [RemainingCurrentConflictScan.new] at hscanner
    split at hscanner
    · cases hscanner
    · cases hscanner
      constructor
      · rfl
      · rfl
      · exact ⟨_, hlast _⟩
      · exact Nat.zero_le _
      · simp [passed, sinceScan_snoc, isScan, OrderedRemainingConflictScanner.new]
      · intro other ho
        cases ho
      · intro other ho
        exact kinds_subset ho current
      · intro key hk
        exact (hkeys key hk).mono fun _ he => List.mem_append_left _ he

lemma scanSound_nextConflict {session session' : Session W} {conflict : Option Pair}
    {scan' : RemainingCurrentConflictScan}
    (hscan : ScanSound context session.trace others current scan)
    (h : scan.nextConflict context databases others session = (conflict, scan', session')) :
    Continues session.trace session'.trace ∧
      ScanSound context session'.trace others current scan' ∧
      (conflict = none → Finished others scan') ∧
      ∀ pair ∈ conflict, pair.currentBranch = current.branch ∧
        (pair.isStandalone ∨ PausedPair context session'.trace others current scan' pair) := by
  obtain ⟨hcurrent, hbranch, hidle, hactive⟩ := hscan
  unfold RemainingCurrentConflictScan.nextConflict at h
  cases hs : scan.scanner with
  | none =>
    rw [hs] at h
    cases h
    refine ⟨.refl _, ⟨hcurrent, hbranch, hidle, hactive⟩, fun _ scanner hscanner => ?_,
      fun pair hpair => by cases hpair⟩
    rw [hs] at hscanner
    cases hscanner
  | some scanner =>
    rw [hs] at h
    cases hnext : scanner.nextConflict context databases others session with
    | mk found rest =>
      obtain ⟨scanner', session₁⟩ := rest
      obtain ⟨hcontinues, hat, hend, hpaused⟩ := scannerAt_nextConflict (hactive scanner hs) hnext
      simp only [hnext] at h
      cases h
      refine ⟨hcontinues, ⟨hcurrent, hbranch, nofun, fun s hs' => ?_⟩,
        fun hnone s hs' => ?_, fun pair hpair => ?_⟩
      · cases hs'
        exact hat
      · cases hs'
        exact hend (Option.map_eq_none_iff.mp hnone)
      · obtain ⟨conflict, hc, heq⟩ := Option.mem_map.mp hpair
        subst heq
        refine ⟨hbranch, ?_⟩
        rcases hpaused conflict hc with hstandalone | hpaused
        · exact .inl (by simp [conflictPair, hstandalone])
        · exact .inr ⟨scanner', rfl, conflict, by rw [hbranch], hpaused⟩

lemma scanSound_acceptCurrentConflict {session session' : Session W} {conflict : Pair}
    {followup : Option Pair} {scan' : RemainingCurrentConflictScan}
    (hscan : ScanSound context session.trace others current scan)
    (hpaused : PausedPair context session.trace others current scan conflict)
    (haccepted : ∀ key ∈ conflict.resolutionKey, UserAccepted session.trace current.branch key)
    (h : scan.acceptCurrentConflict databases conflict others session =
      .ok (followup, scan', session')) :
    Continues session.trace session'.trace ∧
      ScanSound context session'.trace others current scan' ∧
      ∀ pair ∈ followup, PausedPair context session'.trace others current scan' pair := by
  obtain ⟨scanner, hs, found, hconflict, hat⟩ := hpaused
  subst hconflict
  unfold RemainingCurrentConflictScan.acceptCurrentConflict at h
  split at h
  · cases h
  · cases h
  · rename_i scanner' index hs' hindex
    rw [hs] at hs'
    cases hs'
    obtain ⟨⟨accepted, scanner', session₁⟩, haccept, h⟩ := bind_eq_ok.mp h
    cases h
    obtain ⟨hcontinues, hat', hpaused⟩ := scannerAt_acceptCurrentConflict (hscan.active scanner hs)
      hat hindex haccepted haccept
    refine ⟨hcontinues, ⟨hscan.current_eq, hscan.branch_eq, nofun,
      fun s hs' => ?_⟩, fun pair hpair => ?_⟩
    · cases hs'
      exact hat'
    · obtain ⟨conflict, hc, heq⟩ := Option.mem_map.mp hpair
      exact ⟨scanner', rfl, conflict, by rw [← heq, hscan.branch_eq], hpaused conflict hc⟩

end

end SqliteReconcile.ScanSoundness
