import SqliteReconcile.Outcomes
import SqliteReconcile.TerminalMergetool

/-!
# Conservation of the transactions

Where each transaction is: in its queue, applied, or deleted by the user. The places are
followed by identity, which edits keep.
-/
namespace SqliteReconcile.MergeConservation
open Outcomes (bind_eq_ok)
open Models SqlMetadata RemainingMetadata LogMerge TerminalUi ConflictDetection TerminalMergetool

abbrev TransactionId := BranchName × ℕ × ℕ × String

def appliedBy : Event → Option LoggedTransaction
  | .apply current _ none => some current
  | _ => none

def deletedBy : Event → Option LoggedTransaction
  | .deleted transaction => some transaction
  | _ => none

def applied (trace : List Event) : List LoggedTransaction := trace.filterMap appliedBy

def deleted (trace : List Event) : List LoggedTransaction := trace.filterMap deletedBy

def idsOf (branch : BranchName) (transactions : List LoggedTransaction) : List TransactionId :=
  (transactions.map identity).filter (·.1 = branch)

structure Places where
  queued : List TransactionId
  applied : List TransactionId
  deleted : List TransactionId

def Places.all (p : Places) : List TransactionId := p.applied ++ p.queued ++ p.deleted

def placesOf (queue : List LoggedTransaction) (trace : List Event) (branch : BranchName) :
    Places where
  queued := queue.map identity
  applied := idsOf branch (applied trace)
  deleted := idsOf branch (deleted trace)

variable {W : Type}

def places (m : MergeState W) (branch : BranchName) : Places :=
  placesOf (m.queues.get branch) m.session.trace branch

/-- Queues hold transactions of their branch, each with a statement. -/
def WellQueued (m : MergeState W) : Prop :=
  ∀ branch, ∀ transaction ∈ m.queues.get branch,
    transaction.branch = branch ∧ transaction.statements ≠ []

structure Dropped (p q : Places) : Prop where
  queued : q.queued.Sublist p.queued
  applied : q.applied = p.applied
  perm : (q.queued ++ q.deleted).Perm (p.queued ++ p.deleted)

def Removed (p q : Places) : Prop :=
  ∃ id, p.queued = id :: q.queued ∧
    (q.applied = p.applied ++ [id] ∧ q.deleted = p.deleted ∨
      q.applied = p.applied ∧ q.deleted = p.deleted ++ [id])

lemma Dropped.refl (p : Places) : Dropped p p := ⟨List.Sublist.refl _, rfl, List.Perm.refl _⟩

lemma Dropped.of_eq {p q : Places} (h : q = p) : Dropped p q := h ▸ Dropped.refl p

lemma Dropped.trans {p q r : Places} (h : Dropped p q) (h' : Dropped q r) : Dropped p r :=
  ⟨h'.queued.trans h.queued, h'.applied.trans h.applied, h'.perm.trans h.perm⟩

/-- Every loaded transaction is in exactly one place, and order is kept. -/
structure Accounted (loaded : List TransactionId) (p : Places) : Prop where
  perm : p.all.Perm loaded
  ordered : (p.applied ++ p.queued).Sublist loaded

lemma Accounted.dropped {loaded : List TransactionId} {p q : Places} (h : Accounted loaded p)
    (hd : Dropped p q) : Accounted loaded q := by
  have hqueued := hd.queued
  constructor
  · have hp := h.perm
    unfold Places.all at hp ⊢
    rw [List.append_assoc] at hp
    rw [hd.applied, List.append_assoc]
    exact (hd.perm.append_left p.applied).trans hp
  · rw [hd.applied]
    exact (hqueued.append_left p.applied).trans h.ordered

lemma Accounted.removed {loaded : List TransactionId} {p q : Places} (h : Accounted loaded p)
    (hr : Removed p q) : Accounted loaded q := by
  obtain ⟨id, hqueued, ⟨happlied, hdeleted⟩ | ⟨happlied, hdeleted⟩⟩ := hr
  · have hmove : q.applied ++ q.queued = p.applied ++ p.queued := by
      rw [happlied, hqueued]
      simp
    constructor
    · unfold Places.all
      rw [hmove, hdeleted]
      exact h.perm
    · rw [hmove]
      exact h.ordered
  · have hmove : (q.applied ++ q.queued ++ q.deleted).Perm
        (p.applied ++ p.queued ++ p.deleted) := by
      rw [happlied, hdeleted, hqueued, List.append_assoc, List.append_assoc]
      apply List.Perm.append_left
      rw [← List.append_assoc]
      exact List.perm_append_comm.trans (by simp)
    constructor
    · exact hmove.trans h.perm
    · have hsub : (q.applied ++ q.queued).Sublist (p.applied ++ p.queued) := by
        rw [happlied, hqueued]
        exact (List.sublist_cons_self id q.queued).append_left p.applied
      exact hsub.trans h.ordered

/-- An event that neither applies nor deletes. -/
def Neutral (event : Event) : Prop := appliedBy event = none ∧ deletedBy event = none

lemma placesOf_neutral (queue : List LoggedTransaction) (trace : List Event) {event : Event}
    (h : Neutral event) (branch : BranchName) :
    placesOf queue (trace ++ [event]) branch = placesOf queue trace branch := by
  simp [placesOf, applied, deleted, h.1, h.2]

lemma placesOf_neutrals (queue : List LoggedTransaction) (trace : List Event)
    (events : List Event) (h : ∀ event ∈ events, Neutral event) (branch : BranchName) :
    placesOf queue (trace ++ events) branch = placesOf queue trace branch := by
  induction events generalizing trace with
  | nil => rw [List.append_nil]
  | cons event events ih =>
    have hevent := h event List.mem_cons_self
    have hrest := ih (trace ++ [event]) fun e he => h e (List.mem_cons_of_mem _ he)
    rw [List.append_assoc, List.singleton_append] at hrest
    rw [hrest, placesOf_neutral _ _ hevent]

lemma places_record {m : MergeState W} {event : Event} (h : Neutral event)
    (branch : BranchName) : places (m.record event) branch = places m branch :=
  placesOf_neutral _ _ h branch

lemma places_congr {m m' : MergeState W} {branch : BranchName}
    (hq : m'.queues.get branch = m.queues.get branch)
    (ht : m'.session.trace = m.session.trace) : places m' branch = places m branch := by
  unfold places
  rw [hq, ht]

lemma idsOf_single (branch : BranchName) (transaction : LoggedTransaction) :
    idsOf branch [transaction] = if transaction.branch = branch then [identity transaction]
      else [] := by
  by_cases h : transaction.branch = branch <;> simp [idsOf, identity, h]

lemma placesOf_deleted (queue : List LoggedTransaction) (trace : List Event)
    (transaction : LoggedTransaction) (branch : BranchName) :
    placesOf queue (trace ++ [.deleted transaction]) branch =
      { placesOf queue trace branch with
        deleted := idsOf branch (deleted trace) ++ idsOf branch [transaction] } := by
  simp [placesOf, applied, deleted, appliedBy, deletedBy, idsOf, List.filterMap_append]

lemma placesOf_applied (queue : List LoggedTransaction) (trace : List Event)
    (transaction : LoggedTransaction) (opposite : List LoggedTransaction)
    (branch : BranchName) :
    placesOf queue (trace ++ [.apply transaction opposite none]) branch =
      { placesOf queue trace branch with
        applied := idsOf branch (applied trace) ++ idsOf branch [transaction] } := by
  simp [placesOf, applied, deleted, appliedBy, deletedBy, idsOf, List.filterMap_append]

lemma ne_other (branch : BranchName) : branch.other ≠ branch := by
  cases branch <;> simp [BranchName.other]

lemma eq_or_eq_other (target branch : BranchName) : target = branch ∨ target = branch.other := by
  cases target <;> cases branch <;> simp [BranchName.other]

section
variable {context : ConflictCheckContext} {m m' : MergeState W} {branch : BranchName}
  {index : ℕ}

lemma replace_ok {new : LoggedTransaction}
    (h : m.replaceOrDeleteTransaction context branch index (some new) = .ok m') :
    ∃ old, (m.queues.get branch)[index]? = some old ∧
      m'.session.trace = m.session.trace ++ [.edited old new] ∧
      m'.queues = m.queues.set branch ((m.queues.get branch).set index new) ∧
      m'.metadataIndexes = m.metadataIndexes.set branch
        (((m.metadataIndexes.get branch).removeTransaction context old).addTransaction context
          new) := by
  simp only [MergeState.replaceOrDeleteTransaction] at h
  split at h
  · cases h
  · rename_i old hold
    cases h
    exact ⟨old, hold, rfl, rfl, rfl⟩

lemma delete_ok (h : m.replaceOrDeleteTransaction context branch index none = .ok m') :
    ∃ old, (m.queues.get branch)[index]? = some old ∧
      m'.session.trace = m.session.trace ++ [.deleted old] ∧
      m'.queues = m.queues.set branch ((m.queues.get branch).eraseIdx index) ∧
      m'.metadataIndexes = m.metadataIndexes.set branch
        ((m.metadataIndexes.get branch).removeTransaction context old) := by
  simp only [MergeState.replaceOrDeleteTransaction] at h
  split at h
  · cases h
  · rename_i old hold
    cases h
    exact ⟨old, hold, rfl, rfl, rfl⟩

lemma places_replace {old new : LoggedTransaction}
    (hold : (m.queues.get branch)[index]? = some old) (hnew : Revises old new)
    (h : m.replaceOrDeleteTransaction context branch index (some new) = .ok m')
    (target : BranchName) : places m' target = places m target := by
  obtain ⟨found, hfound, htrace, hqueues, -⟩ := replace_ok h
  have heq : found = old := Option.some.inj (hfound.symm.trans hold)
  have hids : ((m.queues.get branch).set index new).map identity =
      (m.queues.get branch).map identity := by
    obtain ⟨hlt, hold⟩ := List.getElem?_eq_some_iff.mp hold
    rw [List.map_set, hnew.identity_eq, ← hold, ← List.map_set, List.set_getElem_self]
  unfold places
  rw [htrace, hqueues, placesOf_neutral _ _ ⟨rfl, rfl⟩, Sides.get_set]
  split
  · rename_i htarget
    subst htarget
    simp only [placesOf, hids]
  · rfl

lemma wellQueued_replace {old new : LoggedTransaction} (hm : WellQueued m)
    (hold : (m.queues.get branch)[index]? = some old) (hnew : Revises old new)
    (h : m.replaceOrDeleteTransaction context branch index (some new) = .ok m') :
    WellQueued m' := by
  obtain ⟨-, -, -, hqueues, -⟩ := replace_ok h
  intro target transaction htx
  rw [hqueues, Sides.get_set] at htx
  split at htx
  · rename_i htarget
    subst htarget
    rcases List.mem_or_eq_of_mem_set htx with htx | htx
    · exact hm target transaction htx
    · rw [htx]
      have hbranch := congrArg Prod.fst hnew.identity_eq
      have hold' := (hm target old (List.mem_of_getElem? hold)).1
      exact ⟨hbranch.trans hold', hnew.nonempty⟩
  · exact hm target transaction htx

lemma dropped_delete (hm : WellQueued m)
    (h : m.replaceOrDeleteTransaction context branch index none = .ok m')
    (target : BranchName) : Dropped (places m target) (places m' target) := by
  obtain ⟨old, hold, htrace, hqueues, -⟩ := delete_ok h
  have hbranch := (hm branch old (List.mem_of_getElem? hold)).1
  unfold places
  rw [htrace, hqueues, placesOf_deleted, Sides.get_set, idsOf_single]
  split
  · rename_i htarget
    subst htarget
    rw [if_pos hbranch]
    have hperm : (old :: (m.queues.get target).eraseIdx index).Perm (m.queues.get target) := by
      obtain ⟨hlt, heq⟩ := List.getElem?_eq_some_iff.mp hold
      rw [← heq]
      exact List.getElem_cons_eraseIdx_perm hlt
    refine ⟨(List.eraseIdx_sublist _ _).map identity, rfl, ?_⟩
    have hids := hperm.map identity
    have hswap : ((m.queues.get target).eraseIdx index).map identity ++
        (idsOf target (deleted m.session.trace) ++ [identity old]) |>.Perm
        ((identity old :: ((m.queues.get target).eraseIdx index).map identity) ++
          idsOf target (deleted m.session.trace)) := by
      rw [← List.append_assoc]
      exact List.perm_append_comm.trans (by simp)
    exact hswap.trans (hids.append_right _)
  · rename_i htarget
    have hne : old.branch ≠ target := fun heq => htarget (heq.symm.trans hbranch)
    rw [if_neg hne, List.append_nil]
    exact Dropped.refl _

lemma places_delete_other (hm : WellQueued m)
    (h : m.replaceOrDeleteTransaction context branch index none = .ok m') :
    places m' branch.other = places m branch.other := by
  obtain ⟨old, hold, htrace, hqueues, -⟩ := delete_ok h
  have hbranch := (hm branch old (List.mem_of_getElem? hold)).1
  have hne : old.branch ≠ branch.other := by
    rw [hbranch]
    exact (ne_other branch).symm
  unfold places
  rw [htrace, hqueues, placesOf_deleted, Sides.get_set_other, idsOf_single, if_neg hne]
  simp [placesOf]

lemma removed_delete_head (hm : WellQueued m)
    (h : m.replaceOrDeleteTransaction context branch 0 none = .ok m') :
    Removed (places m branch) (places m' branch) := by
  obtain ⟨old, hold, htrace, hqueues, -⟩ := delete_ok h
  have hbranch := (hm branch old (List.mem_of_getElem? hold)).1
  unfold places
  rw [htrace, hqueues, placesOf_deleted, Sides.get_set_self, idsOf_single, if_pos hbranch]
  refine ⟨identity old, ?_, .inr ⟨rfl, rfl⟩⟩
  cases hq : m.queues.get branch with
  | nil => simp [hq] at hold
  | cons first rest =>
    have hfirst : first = old := by simpa [hq] using hold
    simp [placesOf, hfirst]

lemma wellQueued_delete (hm : WellQueued m)
    (h : m.replaceOrDeleteTransaction context branch index none = .ok m') : WellQueued m' := by
  obtain ⟨-, -, -, hqueues, -⟩ := delete_ok h
  intro target transaction htx
  rw [hqueues, Sides.get_set] at htx
  split at htx
  · rename_i htarget
    subst htarget
    exact hm target transaction (List.mem_of_mem_eraseIdx htx)
  · exact hm target transaction htx

end

section
variable {context : ConflictCheckContext} {surroundings : Surroundings W}
  {m m' : MergeState W} {branch : BranchName}

lemma places_readInputs (target : BranchName) :
    places (m.readInputs surroundings).2 target = places m target :=
  places_congr rfl rfl

@[simp] lemma queues_closeScan (scan : Option RemainingCurrentConflictScan) :
    (closeScan surroundings scan m).queues = m.queues := by
  cases scan <;> rfl

@[simp] lemma metadataIndexes_closeScan (scan : Option RemainingCurrentConflictScan) :
    (closeScan surroundings scan m).metadataIndexes = m.metadataIndexes := by
  cases scan <;> rfl

@[simp] lemma trace_closeScan (scan : Option RemainingCurrentConflictScan) :
    (closeScan surroundings scan m).session.trace = m.session.trace := by
  cases scan with
  | none => rfl
  | some scan =>
    simp only [closeScan, RemainingCurrentConflictScan.close]
    split <;> rfl

lemma places_closeScan (scan : Option RemainingCurrentConflictScan) (target : BranchName) :
    places (closeScan surroundings scan m) target = places m target :=
  places_congr (by rw [queues_closeScan]) (trace_closeScan scan)

lemma resolveStandaloneReplay_ok {outcome : StandaloneReplayOutcome}
    (h : resolveStandaloneReplay context surroundings m branch = .ok (outcome, m')) :
    ∃ target rest, m.queues.get branch = target :: rest ∧
      (outcome = .currentRemoved ∧
          (m.readInputs surroundings).2.replaceOrDeleteTransaction context branch 0 none =
            .ok m' ∨
        ∃ new, outcome = .currentChanged ∧ Revises target new ∧
          (m.readInputs surroundings).2.replaceOrDeleteTransaction context branch 0 (some new) =
            .ok m') := by
  simp only [resolveStandaloneReplay] at h
  split at h
  · cases h
  · rename_i target rest hqueue
    refine ⟨target, rest, hqueue, ?_⟩
    have hdelete : ∀ {n : Except Stop (MergeState W)},
        (do let m ← n; return (StandaloneReplayOutcome.currentRemoved, m)) =
          (.ok (outcome, m') : Except Stop (StandaloneReplayOutcome × MergeState W)) →
        outcome = .currentRemoved ∧ n = .ok m' := by
      intro n hn
      cases n with
      | error stop => cases hn
      | ok result =>
        cases hn
        exact ⟨rfl, rfl⟩
    split at h
    · cases h
    · exact .inl (hdelete h)
    · exact .inl (hdelete h)
    · rename_i first others hprompt
      have hdraft := drafts_standalonePrompt hprompt
      refine .inr ⟨_, ?_, ⟨hdraft, List.cons_ne_nil first others⟩, ?_⟩
      all_goals
        cases hr : (m.readInputs surroundings).2.replaceOrDeleteTransaction context branch 0
            (some (transactionWithStatements target (first :: others))) with
        | error stop =>
          rw [hr] at h
          cases h
        | ok result =>
          rw [hr] at h
          cases h
          rfl

lemma places_resolveStandaloneReplay {outcome : StandaloneReplayOutcome} (hm : WellQueued m)
    (h : resolveStandaloneReplay context surroundings m branch = .ok (outcome, m')) :
    WellQueued m' ∧ places m' branch.other = places m branch.other ∧
      match outcome with
      | .currentChanged => places m' branch = places m branch
      | .currentRemoved => Removed (places m branch) (places m' branch) := by
  obtain ⟨target, rest, hqueue, ⟨houtcome, hdelete⟩ | ⟨new, houtcome, hnew, hreplace⟩⟩ :=
    resolveStandaloneReplay_ok h
  · subst houtcome
    have hread : WellQueued (m.readInputs surroundings).2 := hm
    have hremoved := removed_delete_head hread hdelete
    have hother := places_delete_other hread hdelete
    rw [places_readInputs] at hremoved hother
    exact ⟨wellQueued_delete hread hdelete, hother, hremoved⟩
  · subst houtcome
    have hhead : (((m.readInputs surroundings).2.queues.get branch)[0]?) = some target := by
      have hqueue' : (m.readInputs surroundings).2.queues.get branch = target :: rest := hqueue
      rw [hqueue']
      rfl
    have hplaces := places_replace hhead hnew hreplace
    have hread : WellQueued (m.readInputs surroundings).2 := hm
    refine ⟨wellQueued_replace hread hhead hnew hreplace, ?_, ?_⟩
    · exact (hplaces _).trans (places_readInputs _)
    · exact (hplaces _).trans (places_readInputs _)

lemma queuedTransaction_ok {conflict : Pair} {transaction : LoggedTransaction}
    (h : queuedTransaction m conflict branch = .ok transaction) :
    ∃ index, indexForBranch conflict branch = .ok index ∧
      (m.queues.get branch)[index]? = some transaction := by
  obtain ⟨index, hindex, h⟩ := bind_eq_ok.mp h
  refine ⟨index, hindex, ?_⟩
  split at h
  · cases h
  · rename_i found hfound
    cases h
    exact hfound

/-- A resolved pair conflict: the user accepts it, or changes one side after the other. -/
lemma resolveRemainingPairConflict_ok {conflict : Pair} {outcome : PairConflictOutcome}
    (h : resolveRemainingPairConflict context surroundings m conflict = .ok (outcome, m')) :
    ∃ ours theirs, queuedTransaction m conflict .ours = .ok ours ∧
      queuedTransaction m conflict .theirs = .ok theirs ∧
      ((outcome = .accepted ∧ isReviewablePairConflict conflict.conflicts ∧
          m' = (m.readInputs surroundings).2.record
            (.userAccepts (orderedPair conflict.currentBranch ours theirs).1
              (orderedPair conflict.currentBranch ours theirs).2 conflict.conflicts)) ∨
        ∃ resolution middle, ResolutionOf (isReviewablePairConflict conflict.conflicts) ours theirs
            resolution ∧ resolution.action = .replace ∧
          (m.readInputs surroundings).2.applyChange context conflict .ours
            resolution.changedOurs resolution.ours = .ok middle ∧
          middle.applyChange context conflict .theirs resolution.changedTheirs
            resolution.theirs = .ok m' ∧
          outcome = .resolved ⟨pairSideOutcome resolution.changedOurs resolution.ours,
            pairSideOutcome resolution.changedTheirs resolution.theirs⟩) := by
  obtain ⟨ours, hours, h⟩ := bind_eq_ok.mp h
  obtain ⟨theirs, htheirs, h⟩ := bind_eq_ok.mp h
  refine ⟨ours, theirs, hours, htheirs, ?_⟩
  simp only at h
  split at h
  · cases h
  · rename_i resolution hprompt
    have hresolution := resolutionOf_prompt hprompt
    split at h
    · rename_i haction
      cases h
      exact .inl ⟨rfl, hresolution.allowed haction, rfl⟩
    · rename_i haction
      obtain ⟨middle, hmiddle, h⟩ := bind_eq_ok.mp h
      obtain ⟨last, hlast, h⟩ := bind_eq_ok.mp h
      cases h
      exact .inr ⟨resolution, middle, hresolution, haction, hmiddle, hlast, rfl⟩

lemma places_applyChange {conflict : Pair} {changed : Bool}
    {replacement : Option LoggedTransaction} {old : LoggedTransaction} {index : ℕ}
    (hm : WellQueued m) (hindex : indexForBranch conflict branch = .ok index)
    (hold : (m.queues.get branch)[index]? = some old)
    (hnew : ∀ new, replacement = some new → Revises old new)
    (h : m.applyChange context conflict branch changed replacement = .ok m') :
    WellQueued m' ∧ m'.queues.get branch.other = m.queues.get branch.other ∧
      places m' branch.other = places m branch.other ∧
      Dropped (places m branch) (places m' branch) ∧
      match pairSideOutcome changed replacement with
      | .deleted => index = 0 → Removed (places m branch) (places m' branch)
      | _ => places m' branch = places m branch := by
  unfold MergeState.applyChange at h
  cases changed with
  | false =>
    cases h
    exact ⟨hm, rfl, rfl, Dropped.refl _, rfl⟩
  | true =>
    simp only [if_true] at h
    obtain ⟨found, hfound, h⟩ := bind_eq_ok.mp h
    rw [hindex] at hfound
    cases hfound
    cases replacement with
    | none =>
      obtain ⟨-, -, -, hqueues, -⟩ := delete_ok h
      have hqueue : m'.queues.get branch.other = m.queues.get branch.other := by
        rw [hqueues, Sides.get_set_other]
      refine ⟨wellQueued_delete hm h, hqueue, places_delete_other hm h,
        dropped_delete hm h branch, ?_⟩
      intro hzero
      subst hzero
      exact removed_delete_head hm h
    | some new =>
      have hrevises := hnew new rfl
      have hplaces := places_replace hold hrevises h
      obtain ⟨-, -, -, hqueues, -⟩ := replace_ok h
      have hqueue : m'.queues.get branch.other = m.queues.get branch.other := by
        rw [hqueues, Sides.get_set_other]
      exact ⟨wellQueued_replace hm hold hrevises h, hqueue, hplaces _,
        Dropped.of_eq (hplaces branch), hplaces branch⟩

/-- Whether an outcome removed the head of a queue, and what else it can do. -/
def SideEffect (p q : Places) (index : ℕ) : PairSideOutcome → Prop
  | .deleted => index = 0 → Removed p q
  | _ => q = p

lemma places_resolveRemainingPairConflict {conflict : Pair} {outcome : PairConflictOutcome}
    (hm : WellQueued m)
    (h : resolveRemainingPairConflict context surroundings m conflict = .ok (outcome, m')) :
    WellQueued m' ∧
      match outcome with
      | .accepted => m'.queues = m.queues ∧ ∀ target, places m' target = places m target
      | .resolved outcomes => ∀ target index, indexForBranch conflict target = .ok index →
          Dropped (places m target) (places m' target) ∧
            SideEffect (places m target) (places m' target) index (outcomes.get target) := by
  obtain ⟨ours, theirs, hours, htheirs, ⟨houtcome, -, heq⟩ |
    ⟨resolution, middle, hresolution, haction, hfirst, hsecond, houtcome⟩⟩ :=
    resolveRemainingPairConflict_ok h
  · subst houtcome heq
    exact ⟨hm, rfl, fun target => (places_record ⟨rfl, rfl⟩ target).trans (places_readInputs _)⟩
  · subst houtcome
    obtain ⟨oursIndex, hoursIndex, hoursAt⟩ := queuedTransaction_ok hours
    obtain ⟨theirsIndex, htheirsIndex, htheirsAt⟩ := queuedTransaction_ok htheirs
    have hread : WellQueued (m.readInputs surroundings).2 := hm
    obtain ⟨hmiddle, hqueue, hkept, hdropped, heffect⟩ := places_applyChange hread hoursIndex
      hoursAt (hresolution.revisesOurs haction) hfirst
    have htheirsAt' : (middle.queues.get .theirs)[theirsIndex]? = some theirs := by
      have hqueue' : middle.queues.get .theirs = m.queues.get .theirs := hqueue
      rw [hqueue']
      exact htheirsAt
    obtain ⟨hlast, -, hkept', hdropped', heffect'⟩ := places_applyChange hmiddle htheirsIndex
      htheirsAt' (hresolution.revisesTheirs haction) hsecond
    have hours' : places m' .ours = places middle .ours := hkept'
    have htheirs' : places middle .theirs = places m .theirs :=
      hkept.trans (places_readInputs _)
    rw [places_readInputs] at hdropped heffect
    rw [htheirs'] at hdropped' heffect'
    refine ⟨hlast, fun target index hindex => ?_⟩
    cases target with
    | ours =>
      have hi : oursIndex = index := Except.ok.inj (hoursIndex.symm.trans hindex)
      subst hi
      rw [hours']
      refine ⟨hdropped, ?_⟩
      simp only [Sides.get]
      split at heffect <;> simp_all [SideEffect]
    | theirs =>
      have hi : theirsIndex = index := Except.ok.inj (htheirsIndex.symm.trans hindex)
      subst hi
      refine ⟨hdropped', ?_⟩
      simp only [Sides.get]
      split at heffect' <;> simp_all [SideEffect]

def IsCheck : Event → Prop
  | .checkNext .. | .acceptNext .. => True
  | _ => False

lemma neutral_of_isCheck {event : Event} (h : IsCheck event) : Neutral event := by
  cases event with
  | checkNext => exact ⟨rfl, rfl⟩
  | acceptNext => exact ⟨rfl, rfl⟩
  | _ => cases h

def Checks (session session' : Session W) : Prop :=
  ∃ events, session'.trace = session.trace ++ events ∧ ∀ event ∈ events, IsCheck event

lemma Checks.refl (session : Session W) : Checks session session := ⟨[], by simp, by simp⟩

lemma Checks.of_trace {session session' : Session W} (h : session'.trace = session.trace) :
    Checks session session' := ⟨[], by simp [h], by simp⟩

lemma Checks.one {session session' : Session W} {event : Event}
    (h : session'.trace = session.trace ++ [event]) (he : IsCheck event) :
    Checks session session' := ⟨[event], h, by simpa using he⟩

lemma Checks.trans {first second third : Session W} (h : Checks first second)
    (h' : Checks second third) : Checks first third := by
  obtain ⟨events, htrace, hevents⟩ := h
  obtain ⟨events', htrace', hevents'⟩ := h'
  refine ⟨events ++ events', by rw [htrace', htrace, List.append_assoc], ?_⟩
  intro event he
  rcases List.mem_append.mp he with he | he
  · exact hevents event he
  · exact hevents' event he

variable {databases : Databases W}

lemma checks_checkNext (enabled : Finset ConflictKind) (current other : LoggedTransaction)
    (staticResult : ConflictCheckResult) (session : Session W) :
    Checks session (session.checkNext databases enabled branch current other staticResult).2 :=
  .one rfl trivial

lemma checks_acceptNext (current other : LoggedTransaction) (result : ConflictCheckResult)
    (session : Session W) :
    Checks session (session.acceptNext databases current other result).2 :=
  .one rfl trivial

lemma checks_scanSuffix (suffix : List LoggedTransaction) :
    ∀ (scanner : OrderedRemainingConflictScanner) (session : Session W),
      Checks session (scanner.scanSuffix context databases session suffix).2.2 := by
  induction suffix with
  | nil => exact fun _ session => .refl session
  | cons other rest ih =>
    intro scanner session
    have hcheck := @checks_checkNext W scanner.currentBranch databases scanner.enabledKinds
      scanner.currentTransaction other (scanner.staticResult context other) session
    simp only [OrderedRemainingConflictScanner.scanSuffix]
    split
    · split
      · have haccept := fun result => hcheck.trans (@checks_acceptNext W databases
          scanner.currentTransaction other result _)
        split
        · exact haccept _
        · exact (haccept _).trans (ih _ _)
      · exact hcheck
    · exact hcheck.trans (ih _ _)

lemma checks_nextConflict (scan : RemainingCurrentConflictScan)
    (remainingOther : List LoggedTransaction) (session : Session W) :
    Checks session (scan.nextConflict context databases remainingOther session).2.2 := by
  unfold RemainingCurrentConflictScan.nextConflict
  split
  · exact .refl session
  · unfold OrderedRemainingConflictScanner.nextConflict
    simp only
    split
    · exact checks_scanSuffix _ _ _
    · split
      · exact .of_trace rfl
      · exact checks_scanSuffix _ _ _

lemma checks_acceptCurrentConflict {scan scan' : RemainingCurrentConflictScan}
    {conflict : Pair} {remainingOther : List LoggedTransaction} {session session' : Session W}
    {followup : Option Pair}
    (h : scan.acceptCurrentConflict databases conflict remainingOther session =
      .ok (followup, scan', session')) : Checks session session' := by
  unfold RemainingCurrentConflictScan.acceptCurrentConflict at h
  split at h
  · cases h
  · cases h
  · obtain ⟨⟨accepted, scanner, result⟩, haccept, h⟩ := bind_eq_ok.mp h
    cases h
    unfold OrderedRemainingConflictScanner.acceptCurrentConflict at haccept
    split at haccept
    · cases haccept
    · simp only at haccept
      split at haccept
      · cases haccept
      · split at haccept
        · cases haccept
          exact checks_acceptNext _ _ _ _
        · cases haccept
          exact checks_acceptNext _ _ _ _

lemma places_session {session : Session W} (h : Checks m.session session)
    (target : BranchName) : places { m with session := session } target = places m target := by
  obtain ⟨events, htrace, hevents⟩ := h
  unfold places
  rw [htrace]
  exact placesOf_neutrals _ _ _ (fun e he => neutral_of_isCheck (hevents e he)) _

/-- The scan and the pending conflict of a turn belong to its branch. -/
structure TurnOf (branch : BranchName) (turn : Turn) : Prop where
  scan : ∀ scan ∈ turn.scan, scan.currentBranch = branch
  followup : ∀ conflict ∈ turn.acceptedFollowupConflict, conflict.currentBranch = branch ∧
    conflict.isStandalone = conflict.otherIndex.isNone

/-- What one round of `_check_accept_current` does: it goes on with its queue as it is, or
returns after the head of its queue is applied or deleted. The other queue can lose
transactions that the user deletes. -/
structure RoundEffect (branch : BranchName) (m : MergeState W)
    (result : MergeState W × Option Turn) : Prop where
  wellQueued : WellQueued result.1
  other : Dropped (places m branch.other) (places result.1 branch.other)
  goesOn : ∀ turn, result.2 = some turn →
    TurnOf branch turn ∧ places result.1 branch = places m branch
  returns : result.2 = none → m.queues.get branch ≠ [] →
    Removed (places m branch) (places result.1 branch)

lemma RoundEffect.congr {result : MergeState W × Option Turn}
    (h : RoundEffect branch m' result) (hplaces : ∀ target, places m' target = places m target)
    (hqueue : m'.queues = m.queues) : RoundEffect branch m result := by
  obtain ⟨hwell, hother, hgoes, hreturns⟩ := h
  rw [hplaces] at hother
  refine ⟨hwell, hother, ?_, ?_⟩
  · intro turn hturn
    rw [← hplaces branch]
    exact hgoes turn hturn
  · intro hnone hne
    rw [← hplaces branch]
    rw [← hqueue] at hne
    exact hreturns hnone hne

lemma roundEffect_goesOn {turn : Turn} (hm : WellQueued m')
    (hother : Dropped (places m branch.other) (places m' branch.other))
    (hturn : TurnOf branch turn) (hplaces : places m' branch = places m branch) :
    RoundEffect branch m (m', some turn) := by
  refine ⟨hm, hother, fun turn' hturn' => ?_, fun hnone => ?_⟩
  · cases hturn'
    exact ⟨hturn, hplaces⟩
  · cases hnone

lemma roundEffect_returns (hm : WellQueued m')
    (hother : Dropped (places m branch.other) (places m' branch.other))
    (hremoved : Removed (places m branch) (places m' branch)) :
    RoundEffect branch m (m', none) := by
  refine ⟨hm, hother, fun turn' hturn' => ?_, fun _ _ => hremoved⟩
  cases hturn'

lemma roundEffect_standalone {turn : Turn} {outcome : StandaloneReplayOutcome}
    (hm : WellQueued m) (hturn : TurnOf branch turn)
    (h : resolveStandaloneReplay context surroundings m branch = .ok (outcome, m')) :
    RoundEffect branch m (afterStandaloneReplay turn (outcome, m')) := by
  obtain ⟨hwell, hother, heffect⟩ := places_resolveStandaloneReplay hm h
  cases outcome with
  | currentRemoved => exact roundEffect_returns hwell (.of_eq hother) heffect
  | currentChanged =>
    apply roundEffect_goesOn hwell (.of_eq hother) _ heffect
    exact ⟨fun scan hscan => (Option.not_mem_none scan hscan).elim, hturn.followup⟩

lemma RoundEffect.closeScan {next : Option Turn} (h : RoundEffect branch m (m', next))
    (scan : Option RemainingCurrentConflictScan) :
    RoundEffect branch m (closeScan surroundings scan m', next) := by
  have hplaces := @places_closeScan W surroundings m' scan
  constructor
  · intro target transaction htx
    rw [queues_closeScan] at htx
    exact h.wellQueued target transaction htx
  · rw [hplaces]
    exact h.other
  · intro turn hturn
    rw [hplaces]
    exact h.goesOn turn hturn
  · intro hnone hne
    rw [hplaces]
    exact h.returns hnone hne

lemma openScan_places (current : LoggedTransaction) (turn : Turn) (target : BranchName) :
    places (openScan context m branch current turn).2 target = places m target := by
  unfold openScan
  split
  · rfl
  · exact places_record ⟨rfl, rfl⟩ target

lemma openScan_queues (current : LoggedTransaction) (turn : Turn) :
    (openScan context m branch current turn).2.queues = m.queues := by
  unfold openScan
  split <;> rfl

lemma openScan_branch {turn : Turn} (h : TurnOf branch turn) (current : LoggedTransaction) :
    (openScan context m branch current turn).1.currentBranch = branch := by
  unfold openScan
  split
  · rename_i scan hscan
    exact h.scan scan hscan
  · rfl

lemma nextConflict_branch (scan : RemainingCurrentConflictScan)
    (remainingOther : List LoggedTransaction) (session : Session W) :
    (scan.nextConflict context databases remainingOther session).2.1.currentBranch =
        scan.currentBranch ∧
      ∀ conflict ∈ (scan.nextConflict context databases remainingOther session).1,
        conflict.currentBranch = scan.currentBranch ∧
          conflict.isStandalone = conflict.otherIndex.isNone := by
  unfold RemainingCurrentConflictScan.nextConflict
  split
  · exact ⟨rfl, fun conflict hc => (Option.not_mem_none conflict hc).elim⟩
  · refine ⟨rfl, fun conflict hc => ?_⟩
    obtain ⟨found, -, heq⟩ := Option.mem_map.mp hc
    rw [← heq]
    exact ⟨rfl, rfl⟩

lemma acceptCurrentConflict_branch {scan scan' : RemainingCurrentConflictScan}
    {conflict : Pair} {remainingOther : List LoggedTransaction} {session session' : Session W}
    {followup : Option Pair}
    (h : scan.acceptCurrentConflict databases conflict remainingOther session =
      .ok (followup, scan', session')) :
    scan'.currentBranch = scan.currentBranch ∧
      ∀ conflict ∈ followup, conflict.currentBranch = scan.currentBranch ∧
        conflict.isStandalone = conflict.otherIndex.isNone := by
  unfold RemainingCurrentConflictScan.acceptCurrentConflict at h
  split at h
  · cases h
  · cases h
  · obtain ⟨⟨accepted, scanner, result⟩, -, h⟩ := bind_eq_ok.mp h
    cases h
    refine ⟨rfl, fun conflict hc => ?_⟩
    obtain ⟨found, -, heq⟩ := Option.mem_map.mp hc
    rw [← heq]
    exact ⟨rfl, rfl⟩

lemma indexForBranch_current {conflict : Pair} (h : conflict.currentBranch = branch) :
    indexForBranch conflict branch = .ok 0 := by
  unfold indexForBranch
  rw [if_pos h.symm]

lemma indexForBranch_other {conflict : Pair} (h : conflict.currentBranch = branch) {index : ℕ}
    (hindex : conflict.otherIndex = some index) :
    indexForBranch conflict branch.other = .ok index := by
  unfold indexForBranch
  rw [h, if_neg (ne_other branch), hindex]

lemma roundEffect_pairConflict {turn : Turn} {scan : RemainingCurrentConflictScan}
    {conflict : Pair} {result : MergeState W × Option Turn} (hm : WellQueued m)
    (hscan : scan.currentBranch = branch) (hconflict : conflict.currentBranch = branch)
    {index : ℕ} (hindex : conflict.otherIndex = some index)
    (hturn : turn.acceptedFollowupConflict = none)
    (h : pairConflictRound context surroundings m branch turn scan conflict = .ok result) :
    RoundEffect branch m result := by
  obtain ⟨⟨outcome, middle⟩, hresolve, h⟩ := bind_eq_ok.mp h
  obtain ⟨hwell, heffect⟩ := places_resolveRemainingPairConflict hm hresolve
  have hnoFollowup : ∀ conflict ∈ turn.acceptedFollowupConflict, conflict.currentBranch = branch ∧
      conflict.isStandalone = conflict.otherIndex.isNone := by
    rw [hturn]
    nofun
  cases outcome with
  | accepted =>
    obtain ⟨hqueues, hplaces⟩ := heffect
    simp only at h
    obtain ⟨⟨followup, scan', session⟩, haccept, h⟩ := bind_eq_ok.mp h
    cases h
    have hchecks := places_session (checks_acceptCurrentConflict haccept)
    obtain ⟨hbranch, hfollowup⟩ := acceptCurrentConflict_branch haccept
    rw [hscan] at hbranch hfollowup
    have hsame : ∀ target, places { middle with session := session } target =
        places m target := fun target => (hchecks target).trans (hplaces target)
    have hwell' : WellQueued { middle with session := session } := hwell
    refine roundEffect_goesOn hwell' (.of_eq (hsame _)) ⟨fun scan'' hs => ?_, hfollowup⟩ (hsame _)
    cases hs
    exact hbranch
  | resolved outcomes =>
    obtain ⟨hdropped, -⟩ := heffect _ _ (indexForBranch_other hconflict hindex)
    obtain ⟨-, hside⟩ := heffect _ _ (indexForBranch_current hconflict)
    simp only at h
    cases hcase : outcomes.get branch with
    | deleted =>
      rw [hcase] at h hside
      cases h
      exact (roundEffect_returns hwell hdropped (hside rfl)).closeScan _
    | edited =>
      rw [hcase] at h hside
      cases h
      apply RoundEffect.closeScan
      exact roundEffect_goesOn hwell hdropped
        ⟨fun scan hscan => (Option.not_mem_none scan hscan).elim, hnoFollowup⟩ hside
    | unchanged =>
      rw [hcase] at h hside
      simp only at h
      have hstay : ∀ scan' : RemainingCurrentConflictScan, scan'.currentBranch = branch →
          RoundEffect branch m (middle, some { turn with scan := some scan' }) := by
        intro scan' hscan'
        have hturnOf : TurnOf branch { turn with scan := some scan' } := by
          refine ⟨fun scan'' hs => ?_, hnoFollowup⟩
          cases hs
          exact hscan'
        exact roundEffect_goesOn hwell hdropped hturnOf hside
      split at h
      · obtain ⟨scan', henable, h⟩ := bind_eq_ok.mp h
        cases h
        apply hstay
        unfold RemainingCurrentConflictScan.enableChecksAfterOtherEdit at henable
        split at henable
        · cases henable
        · cases henable
          exact hscan
      · cases h
        exact hstay scan hscan

lemma ok_of_map {α β : Type} {x : Except Stop α} {f : α → β} {result : β}
    (h : f <$> x = .ok result) : ∃ a, x = .ok a ∧ f a = result := by
  cases x with
  | error stop => cases h
  | ok a =>
    cases h
    exact ⟨a, rfl, rfl⟩

lemma wellQueued_closeScan (hm : WellQueued m) (scan : Option RemainingCurrentConflictScan) :
    WellQueued (closeScan surroundings scan m) := by
  intro target transaction htx
  rw [queues_closeScan] at htx
  exact hm target transaction htx

lemma roundEffect_apply {turn : Turn} {current : LoggedTransaction}
    {rest : List LoggedTransaction} {result : MergeState W × Option Turn} (hm : WellQueued m)
    (hturn : TurnOf branch turn) (hqueue : m.queues.get branch = current :: rest)
    (h : applyRound context surroundings m branch turn current rest = .ok result) :
    RoundEffect branch m result := by
  have hbranch : current.branch = branch :=
    (hm branch current (by rw [hqueue]; exact List.mem_cons_self)).1
  unfold applyRound at h
  simp only at h
  cases happly : surroundings.databases.applyAcceptedTransaction current m.session.world with
  | mk failure world =>
    simp only [Session.applyAcceptedTransaction, happly] at h
    cases failure with
    | some failure =>
      obtain ⟨⟨outcome, m'⟩, hresolve, heq⟩ := ok_of_map h
      rw [← heq]
      have hread : ∀ session : Session W, WellQueued { m with session := session } :=
        fun _ => hm
      have heffect := roundEffect_standalone (hread _) hturn hresolve
      exact heffect.congr (fun target => placesOf_neutral _ _ ⟨rfl, rfl⟩ target) rfl
    | none =>
      cases h
      have hne : current.branch ≠ branch.other := by
        rw [hbranch]
        exact (ne_other branch).symm
      refine roundEffect_returns ?_ (.of_eq ?_) ?_
      · intro target transaction htx
        simp only [Sides.get_set] at htx
        split at htx
        · rename_i htarget
          subst htarget
          apply hm target transaction
          rw [hqueue]
          exact List.mem_cons_of_mem _ htx
        · exact hm target transaction htx
      · unfold places
        simp only [Session.trace_record, Sides.get_set_other, placesOf_applied, idsOf_single,
          if_neg hne, List.append_nil]
        rfl
      · refine ⟨identity current, ?_, .inl ⟨?_, ?_⟩⟩
        · simp [places, placesOf, hqueue]
        · simp only [places, Session.trace_record, placesOf_applied, idsOf_single, if_pos hbranch]
          rfl
        · simp only [places, Session.trace_record, placesOf_applied]
          rfl

lemma TurnOf.withoutFollowup {turn : Turn} (h : TurnOf branch turn) :
    TurnOf branch { turn with acceptedFollowupConflict := none } :=
  ⟨h.scan, fun conflict hc => (Option.not_mem_none conflict hc).elim⟩

/-- One round keeps every transaction in one place. -/
theorem roundEffect_turnStep {turn : Turn} {result : MergeState W × Option Turn}
    (hm : WellQueued m) (hturn : TurnOf branch turn)
    (h : turnStep context surroundings m branch turn = .ok result) :
    RoundEffect branch m result := by
  unfold turnStep at h
  split at h
  · rename_i hqueue
    cases h
    refine ⟨hm, Dropped.refl _, fun turn' hturn' => ?_, fun _ hne => absurd hqueue hne⟩
    cases hturn'
  · rename_i current rest hqueue
    split at h
    · obtain ⟨⟨outcome, m'⟩, hresolve, heq⟩ := ok_of_map h
      rw [← heq]
      apply (roundEffect_standalone (wellQueued_closeScan hm _) hturn hresolve).congr
        (places_closeScan _)
      rw [queues_closeScan]
    · simp only at h
      have hopenQueues := @openScan_queues W context m branch current turn
      have hopenPlaces := @openScan_places W context m branch current turn
      have hopenBranch := @openScan_branch W context m branch turn hturn current
      revert h
      generalize openScan context m branch current turn = opened at *
      obtain ⟨scan, opened⟩ := opened
      simp only at hopenQueues hopenPlaces hopenBranch ⊢
      have htake : (takeConflict context surroundings opened branch turn scan).2.1.currentBranch =
          branch ∧ Checks opened.session
            (takeConflict context surroundings opened branch turn scan).2.2 ∧
          ∀ conflict ∈ (takeConflict context surroundings opened branch turn scan).1,
            conflict.currentBranch = branch ∧
              conflict.isStandalone = conflict.otherIndex.isNone := by
        unfold takeConflict
        split
        · rename_i followup hfollowup
          refine ⟨hopenBranch, Checks.refl _, fun conflict hc => ?_⟩
          cases hc
          exact hturn.followup followup hfollowup
        · obtain ⟨hscan, hconflict⟩ := @nextConflict_branch W context surroundings.databases scan
            (opened.queues.get branch.other) opened.session
          rw [hopenBranch] at hscan hconflict
          exact ⟨hscan, checks_nextConflict _ _ _, hconflict⟩
      generalize takeConflict context surroundings opened branch turn scan = taken at *
      obtain ⟨conflict, scan', session⟩ := taken
      obtain ⟨hscan', hchecks, hconflict⟩ := htake
      intro h
      have hplaces : ∀ target, places { opened with session := session } target =
          places m target := fun target => (places_session hchecks target).trans (hopenPlaces target)
      have hwell : WellQueued { opened with session := session } := by
        intro target transaction htx
        simp only [hopenQueues] at htx
        exact hm target transaction htx
      refine RoundEffect.congr ?_ hplaces hopenQueues
      cases conflict with
      | none =>
        have hqueue' : (closeScan surroundings (some scan')
            { opened with session := session }).queues.get branch = current :: rest := by
          rw [queues_closeScan]
          simp only [hopenQueues, hqueue]
        apply (roundEffect_apply (wellQueued_closeScan hwell _) hturn.withoutFollowup hqueue'
          h).congr (places_closeScan _)
        rw [queues_closeScan]
      | some conflict =>
        obtain ⟨hbranch, hstandalone⟩ := hconflict conflict rfl
        simp only [scannedRound] at h
        split at h
        · obtain ⟨⟨outcome, m'⟩, hresolve, h⟩ := bind_eq_ok.mp h
          cases h
          have heffect := roundEffect_standalone hwell hturn.withoutFollowup hresolve
          cases outcome with
          | currentRemoved => exact heffect.closeScan _
          | currentChanged => exact heffect.closeScan _
        · rename_i hpair
          cases hindex : conflict.otherIndex with
          | none =>
            rw [hindex] at hstandalone
            exact absurd ⟨hstandalone, hbranch⟩ hpair
          | some index => exact roundEffect_pairConflict hwell hscan' hbranch hindex rfl h

lemma turnOf_start : TurnOf branch Turn.start :=
  ⟨fun scan hs => (Option.not_mem_none scan hs).elim,
    fun conflict hc => (Option.not_mem_none conflict hc).elim⟩

lemma effect_turnRun {state : MergeState W × Turn} (hm : WellQueued m)
    (h : TurnRun context surroundings branch (m, .start) state) :
    WellQueued state.1 ∧ TurnOf branch state.2 ∧ places state.1 branch = places m branch ∧
      Dropped (places m branch.other) (places state.1 branch.other) := by
  induction h with
  | refl => exact ⟨hm, turnOf_start, rfl, Dropped.refl _⟩
  | tail _ hstep ih =>
    obtain ⟨hwell, hturn, hplaces, hdropped⟩ := ih
    have heffect := roundEffect_turnStep hwell hturn hstep
    obtain ⟨hturn', hplaces'⟩ := heffect.goesOn _ rfl
    exact ⟨heffect.wellQueued, hturn', hplaces'.trans hplaces, hdropped.trans heffect.other⟩

/-- A call of `_check_accept_current` that returns applies or deletes the head of its queue,
when it has one; the other queue can only lose transactions that the user deletes. -/
lemma removed_of_call (hm : WellQueued m) (hne : m.queues.get branch ≠ [])
    (h : CheckAcceptCurrent context surroundings branch m m') :
    Removed (places m branch) (places m' branch) ∧
      Dropped (places m branch.other) (places m' branch.other) := by
  obtain ⟨last, hrun, hreturn⟩ := h
  obtain ⟨hwell, hturn, hplaces, hdropped⟩ := effect_turnRun hm hrun
  have heffect := roundEffect_turnStep hwell hturn hreturn
  have hqueued : last.1.queues.get branch ≠ [] := by
    intro hempty
    have hids := congrArg Places.queued hplaces
    simp only [places, placesOf, hempty, List.map_nil] at hids
    exact hne (List.map_eq_nil_iff.mp hids.symm)
  have hremoved := heffect.returns rfl hqueued
  rw [hplaces] at hremoved
  exact ⟨hremoved, hdropped.trans heffect.other⟩

/-- The user edits or deletes a transaction. -/
def Touches : Event → Prop
  | .edited .. | .deleted _ => True
  | _ => False

def Untouched (session : Session W) : Prop := ∀ event ∈ session.trace, ¬ Touches event

lemma Untouched.of_append {session session' : Session W} (h : Untouched session')
    {events : List Event} (htrace : session'.trace = session.trace ++ events) :
    Untouched session := by
  intro event he
  apply h event
  rw [htrace]
  exact List.mem_append_left _ he

lemma Untouched.of_checks {session session' : Session W} (h : Untouched session')
    (hchecks : Checks session session') : Untouched session := by
  obtain ⟨events, htrace, -⟩ := hchecks
  exact h.of_append htrace

lemma applied_of_checks {session session' : Session W} (h : Checks session session') :
    applied session'.trace = applied session.trace := by
  obtain ⟨events, htrace, hevents⟩ := h
  have hnone : applied events = [] := by
    apply List.filterMap_eq_nil_iff.mpr
    intro event he
    exact (neutral_of_isCheck (hevents event he)).1
  rw [htrace, applied, List.filterMap_append, ← applied, ← applied, hnone, List.append_nil]

lemma touched_replaceOrDelete {index : ℕ} {replacement : Option LoggedTransaction}
    (h : m.replaceOrDeleteTransaction context branch index replacement = .ok m') :
    ¬ Untouched m'.session := by
  intro huntouched
  cases replacement with
  | none =>
    obtain ⟨old, -, htrace, -, -⟩ := delete_ok h
    apply huntouched (.deleted old)
    · rw [htrace]
      exact List.mem_append_right _ List.mem_cons_self
    · trivial
  | some new =>
    obtain ⟨old, -, htrace, -, -⟩ := replace_ok h
    apply huntouched (.edited old new)
    · rw [htrace]
      exact List.mem_append_right _ List.mem_cons_self
    · trivial

lemma touched_resolveStandaloneReplay {outcome : StandaloneReplayOutcome}
    (h : resolveStandaloneReplay context surroundings m branch = .ok (outcome, m')) :
    ¬ Untouched m'.session := by
  obtain ⟨-, -, -, ⟨-, hdelete⟩ | ⟨new, -, -, hreplace⟩⟩ := resolveStandaloneReplay_ok h
  · exact touched_replaceOrDelete hdelete
  · exact touched_replaceOrDelete hreplace

/-- Without an edit or a deletion a round goes on with both queues, or applies the head. -/
structure UntouchedRound (branch : BranchName) (m : MergeState W)
    (result : MergeState W × Option Turn) : Prop where
  before : Untouched m.session
  goesOn : result.2 ≠ none → result.1.queues = m.queues ∧
    applied result.1.session.trace = applied m.session.trace
  returns : result.2 = none → (m.queues.get branch = [] ∧ result.1 = m) ∨
    ∃ current rest, m.queues.get branch = current :: rest ∧
      result.1.queues = m.queues.set branch rest ∧
      applied result.1.session.trace = applied m.session.trace ++ [current]

lemma applyChange_untouched {conflict : Pair} {changed : Bool}
    {replacement : Option LoggedTransaction}
    (h : m.applyChange context conflict branch changed replacement = .ok m')
    (huntouched : Untouched m'.session) : m' = m ∧ changed = false := by
  unfold MergeState.applyChange at h
  cases changed with
  | false =>
    cases h
    exact ⟨rfl, rfl⟩
  | true =>
    simp only [if_true] at h
    obtain ⟨index, -, h⟩ := bind_eq_ok.mp h
    exact absurd huntouched (touched_replaceOrDelete h)

lemma untouchedRound_pairConflict {turn : Turn} {scan : RemainingCurrentConflictScan}
    {conflict : Pair} {result : MergeState W × Option Turn}
    (h : pairConflictRound context surroundings m branch turn scan conflict = .ok result)
    (huntouched : Untouched result.1.session) : UntouchedRound branch m result := by
  obtain ⟨⟨outcome, middle⟩, hresolve, h⟩ := bind_eq_ok.mp h
  obtain ⟨ours, theirs, -, -, ⟨houtcome, -, heq⟩ |
    ⟨resolution, first, -, -, hfirst, hsecond, houtcome⟩⟩ := resolveRemainingPairConflict_ok hresolve
  · subst houtcome
    simp only at h
    obtain ⟨⟨followup, scan', session⟩, haccept, h⟩ := bind_eq_ok.mp h
    cases h
    have hchecks := checks_acceptCurrentConflict haccept
    have hmiddle := huntouched.of_checks hchecks
    have happlied := applied_of_checks hchecks
    subst heq
    refine ⟨hmiddle.of_append rfl, fun _ => ⟨rfl, happlied.trans ?_⟩, fun hnone => by cases hnone⟩
    simp [MergeState.record, MergeState.readInputs, applied, appliedBy]
  · subst houtcome
    have hstays : Untouched middle.session →
        middle = (m.readInputs surroundings).2 ∧ resolution.changedOurs = false ∧
          resolution.changedTheirs = false := by
      intro hmiddle
      obtain ⟨heq, htheirs⟩ := applyChange_untouched hsecond hmiddle
      subst heq
      obtain ⟨heq, hours⟩ := applyChange_untouched hfirst hmiddle
      exact ⟨heq, hours, htheirs⟩
    have hunchanged : Untouched middle.session → ∀ target,
        (Sides.mk (pairSideOutcome resolution.changedOurs resolution.ours)
          (pairSideOutcome resolution.changedTheirs resolution.theirs)).get target =
            .unchanged := by
      intro hmiddle target
      obtain ⟨-, hours, htheirs⟩ := hstays hmiddle
      rw [hours, htheirs]
      cases target <;> rfl
    have hgoes : Untouched middle.session → ∀ turn',
        UntouchedRound branch m (middle, some turn') := by
      intro hmiddle turn'
      obtain ⟨heq, -, -⟩ := hstays hmiddle
      subst heq
      exact ⟨hmiddle, fun _ => ⟨rfl, rfl⟩, fun hnone => by cases hnone⟩
    simp only at h
    split at h
    · rename_i hcase
      cases h
      rw [Untouched, trace_closeScan, ← Untouched] at huntouched
      rw [hunchanged huntouched] at hcase
      cases hcase
    · rename_i hcase
      cases h
      rw [Untouched, trace_closeScan, ← Untouched] at huntouched
      rw [hunchanged huntouched] at hcase
      cases hcase
    · split at h
      · obtain ⟨scan', -, h⟩ := bind_eq_ok.mp h
        cases h
        exact hgoes huntouched _
      · cases h
        exact hgoes huntouched _

lemma untouchedRound_apply {turn : Turn} {current : LoggedTransaction}
    {rest : List LoggedTransaction} {result : MergeState W × Option Turn}
    (hqueue : m.queues.get branch = current :: rest)
    (h : applyRound context surroundings m branch turn current rest = .ok result)
    (huntouched : Untouched result.1.session) : UntouchedRound branch m result := by
  unfold applyRound at h
  simp only at h
  cases happly : surroundings.databases.applyAcceptedTransaction current m.session.world with
  | mk failure world =>
    simp only [Session.applyAcceptedTransaction, happly] at h
    cases failure with
    | some failure =>
      obtain ⟨⟨outcome, m'⟩, hresolve, heq⟩ := ok_of_map h
      subst heq
      cases outcome with
      | currentRemoved => exact absurd huntouched (touched_resolveStandaloneReplay hresolve)
      | currentChanged => exact absurd huntouched (touched_resolveStandaloneReplay hresolve)
    | none =>
      cases h
      refine ⟨huntouched.of_append rfl, fun hsome => absurd rfl hsome, fun _ => .inr ?_⟩
      refine ⟨current, rest, hqueue, rfl, ?_⟩
      simp [Session.record, applied, appliedBy]

lemma UntouchedRound.congr {result : MergeState W × Option Turn}
    (h : UntouchedRound branch m' result) (hbefore : Untouched m'.session → Untouched m.session)
    (hqueue : m'.queues = m.queues)
    (happlied : applied m'.session.trace = applied m.session.trace)
    (hne : m.queues.get branch ≠ []) : UntouchedRound branch m result := by
  refine ⟨hbefore h.before, fun hsome => ?_, fun hnone => .inr ?_⟩
  · rw [← hqueue, ← happlied]
    exact h.goesOn hsome
  · rcases h.returns hnone with ⟨hempty, -⟩ | hpop
    · rw [hqueue] at hempty
      exact absurd hempty hne
    · rw [← hqueue, ← happlied]
      exact hpop

/-- Without an edit or a deletion a round keeps the queues, or applies the head. -/
lemma untouchedRound_turnStep {turn : Turn} {result : MergeState W × Option Turn}
    (h : turnStep context surroundings m branch turn = .ok result)
    (huntouched : Untouched result.1.session) : UntouchedRound branch m result := by
  unfold turnStep at h
  split at h
  · rename_i hqueue
    cases h
    exact ⟨huntouched, fun hsome => absurd rfl hsome, fun _ => .inl ⟨hqueue, rfl⟩⟩
  · rename_i current rest hqueue
    have hne : m.queues.get branch ≠ [] := by simp [hqueue]
    split at h
    · obtain ⟨⟨outcome, m'⟩, hresolve, heq⟩ := ok_of_map h
      subst heq
      cases outcome with
      | currentRemoved => exact absurd huntouched (touched_resolveStandaloneReplay hresolve)
      | currentChanged => exact absurd huntouched (touched_resolveStandaloneReplay hresolve)
    · simp only at h
      have hopenQueues := @openScan_queues W context m branch current turn
      have hopenTrace : ∃ events, (openScan context m branch current turn).2.session.trace =
          m.session.trace ++ events ∧ applied events = [] := by
        unfold openScan
        split
        · exact ⟨[], (List.append_nil _).symm, rfl⟩
        · exact ⟨_, rfl, rfl⟩
      revert h
      generalize openScan context m branch current turn = opened at *
      obtain ⟨scan, opened⟩ := opened
      obtain ⟨events, htrace, hevents⟩ := hopenTrace
      simp only at hopenQueues htrace ⊢
      have hchecks : Checks opened.session
          (takeConflict context surroundings opened branch turn scan).2.2 := by
        unfold takeConflict
        split
        · exact Checks.refl _
        · exact checks_nextConflict _ _ _
      generalize takeConflict context surroundings opened branch turn scan = taken at *
      obtain ⟨conflict, scan', session⟩ := taken
      simp only at hchecks ⊢
      intro h
      have happlied : applied session.trace = applied m.session.trace := by
        rw [applied_of_checks hchecks, htrace, applied, List.filterMap_append, ← applied,
          ← applied, hevents, List.append_nil]
      have hbefore : Untouched session → Untouched m.session := fun hs =>
        (hs.of_checks hchecks).of_append htrace
      have hround : UntouchedRound branch { opened with session := session } result → _ :=
        fun hround => hround.congr hbefore hopenQueues happlied hne
      apply hround
      cases conflict with
      | none =>
        have hqueue' : (closeScan surroundings (some scan')
            { opened with session := session }).queues.get branch = current :: rest := by
          rw [queues_closeScan]
          simp only [hopenQueues, hqueue]
        have hround := untouchedRound_apply hqueue' h huntouched
        refine hround.congr (fun hs => ?_) (queues_closeScan _)
          (congrArg applied (trace_closeScan _)) (by simp only [hopenQueues]; exact hne)
        rwa [Untouched, trace_closeScan] at hs
      | some conflict =>
        simp only [scannedRound] at h
        split at h
        · obtain ⟨⟨outcome, m'⟩, hresolve, h⟩ := bind_eq_ok.mp h
          cases h
          have htouched := touched_resolveStandaloneReplay hresolve
          have hlast : Untouched m'.session := by
            intro event he
            apply huntouched event
            cases outcome <;>
            · simp only [afterStandaloneReplay, trace_closeScan]
              exact he
          exact absurd hlast htouched
        · exact untouchedRound_pairConflict h huntouched

/-- Alternately from both lists, then the rest of the longer one. -/
def alternate {α : Type*} : List α → List α → List α
  | [], ys => ys
  | xs, [] => xs
  | x :: xs, y :: ys => x :: y :: alternate xs ys

@[simp] lemma alternate_nil {α : Type*} (xs : List α) : alternate xs [] = xs := by
  cases xs <;> rfl

lemma alternate_cons {α : Type*} (x : α) (xs ys : List α) :
    alternate (x :: xs) ys = x :: alternate ys xs := by
  induction ys generalizing x xs with
  | nil => rfl
  | cons y ys ih =>
    cases xs with
    | nil => rfl
    | cons x' xs =>
      have hrest := ih x' xs
      simp only [alternate] at hrest ⊢
      rw [hrest]

lemma map_alternate {α β : Type*} (f : α → β) (xs ys : List α) :
    (alternate xs ys).map f = alternate (xs.map f) (ys.map f) := by
  induction xs generalizing ys with
  | nil => rfl
  | cons x xs ih =>
    cases ys with
    | nil => rfl
    | cons y ys => simp only [alternate, List.map_cons, ih]

def script (transaction : LoggedTransaction) : TransactionId × List (ℤ × String × String) :=
  (identity transaction, transaction.statements.map fun statement =>
    (statement.branchIndex, statement.originalSqlText, statement.toReplaySqlText))

def pending (state : State W) (branch : BranchName) : List LoggedTransaction :=
  match state.point with
  | .branchReplay replayed resolved =>
    if branch = replayed then resolved ++ state.merge.queues.get branch
    else state.merge.queues.get branch
  | _ => state.merge.queues.get branch

/-- The transactions in the order in which the loop comes to them. -/
def upcoming (state : State W) : List LoggedTransaction :=
  match state.point with
  | .turn .theirs _ => alternate (pending state .theirs) (pending state .ours)
  | _ => alternate (pending state .ours) (pending state .theirs)

/-- What holds of every state of a merge of the loaded branches. -/
structure MergeInvariant (loaded : Sides (List LoggedTransaction)) (state : State W) : Prop where
  accounted : ∀ branch, Accounted ((loaded.get branch).map identity)
    (placesOf (pending state branch) state.merge.session.trace branch)
  queued : ∀ branch, ∀ transaction ∈ pending state branch,
    transaction.branch = branch ∧ transaction.statements ≠ []
  turn : ∀ branch turn, state.point = .turn branch turn → TurnOf branch turn
  alternates : Untouched state.merge.session →
    ((applied state.merge.session.trace ++ upcoming state).map script) =
      (alternate loaded.ours loaded.theirs).map script
  finished : state.point = .finished → ∀ branch, state.merge.queues.get branch = []

lemma script_acceptWarning (transaction : LoggedTransaction) (statements : List LoggedStatement)
    (warning : Option (LoggedStatement × String)) :
    script (transactionWithStatements transaction (acceptWarning statements warning)) =
      script (transactionWithStatements transaction statements) := by
  cases warning with
  | none => rfl
  | some warning =>
    obtain ⟨warned, reason⟩ := warning
    simp only [acceptWarning]
    induction statements with
    | nil => rfl
    | cons statement rest ih =>
      simp only [script, identity_transactionWithStatements, statements_transactionWithStatements,
        Prod.mk.injEq, true_and] at ih ⊢
      simp only [acceptWarningIfStatementStillPresent]
      split
      · rfl
      · simp only [List.map_cons, ih]

lemma acceptWarning_ne_nil {first : LoggedStatement} {others : List LoggedStatement}
    (warning : Option (LoggedStatement × String)) :
    acceptWarning (first :: others) warning ≠ [] := by
  cases warning with
  | none => exact List.cons_ne_nil _ _
  | some warning =>
    simp only [acceptWarning, acceptWarningIfStatementStillPresent]
    split <;> exact List.cons_ne_nil _ _

lemma trace_foldl_record (events : List Event) (session : Session W) :
    (events.foldl Session.record session).trace = session.trace ++ events := by
  induction events generalizing session with
  | nil => rw [List.foldl_nil, List.append_nil]
  | cons event events ih => rw [List.foldl_cons, ih, Session.trace_record, List.append_assoc,
      List.singleton_append]

lemma neutral_branchReplayEvents {transaction : LoggedTransaction}
    {statements : List LoggedStatement} {warning : Option (LoggedStatement × String)}
    {event : Event} (h : event ∈ branchReplayEvents transaction statements warning) :
    Neutral event := by
  unfold branchReplayEvents at h
  rcases List.mem_append.mp h with h | h
  · split at h
    · cases h
    · rw [List.mem_singleton.mp h]
      exact ⟨rfl, rfl⟩
  · split at h
    · cases h
    · split at h
      · rw [List.mem_singleton.mp h]
        exact ⟨rfl, rfl⟩
      · cases h

lemma branchReplayStep_cases {resolved : List LoggedTransaction} {current : LoggedTransaction}
    {rest : List LoggedTransaction} {next : State W}
    (h : branchReplayStep surroundings m branch resolved current rest = .ok next) :
    next.merge.metadataIndexes = m.metadataIndexes ∧
    ((next.merge.session.trace = m.session.trace ∧ next.merge.queues = m.queues.set branch rest ∧
        next.point = .branchReplay branch (resolved ++ [current])) ∨
      (next.merge.session.trace = m.session.trace ++ [.deleted current] ∧
        next.merge.queues = m.queues.set branch rest ∧
        next.point = .branchReplay branch resolved) ∨
      ∃ first others warning,
        Drafts current (transactionWithStatements current (first :: others)) ∧
        next.merge.session.trace =
          m.session.trace ++ branchReplayEvents current (first :: others) warning ∧
        next.merge.queues = m.queues.set branch
          (transactionWithStatements current (acceptWarning (first :: others) warning) :: rest) ∧
        next.point = .branchReplay branch resolved) := by
  unfold branchReplayStep at h
  simp only at h
  split at h
  · cases h
    exact ⟨rfl, .inl ⟨rfl, rfl, rfl⟩⟩
  · rename_i issue _
    split at h
    · cases h
    · cases h
      exact ⟨rfl, .inr (.inl ⟨rfl, rfl, rfl⟩)⟩
    · cases h
      exact ⟨rfl, .inr (.inl ⟨rfl, rfl, rfl⟩)⟩
    · rename_i first others hprompt
      cases h
      refine ⟨rfl, .inr (.inr ⟨first, others, issue.warning, drafts_standalonePrompt hprompt, ?_,
        rfl, rfl⟩)⟩
      rw [trace_foldl_record]
      rfl

variable {loaded : Sides (List LoggedTransaction)} {state next : State W}

lemma MergeInvariant.replay (h : MergeInvariant loaded state)
    (hpending : ∀ branch, pending next branch = pending state branch)
    (htrace : next.merge.session.trace = state.merge.session.trace)
    (hupcoming : upcoming next = upcoming state)
    (hturn : ∀ branch turn, next.point = .turn branch turn → TurnOf branch turn)
    (hfinished : next.point = .finished → ∀ branch, next.merge.queues.get branch = []) :
    MergeInvariant loaded next := by
  constructor
  · intro branch
    rw [hpending, htrace]
    exact h.accounted branch
  · intro branch
    rw [hpending]
    exact h.queued branch
  · exact hturn
  · intro huntouched
    rw [Untouched, htrace, ← Untouched] at huntouched
    rw [htrace, hupcoming]
    exact h.alternates huntouched
  · exact hfinished

lemma pending_branchReplay {resolved queue : List LoggedTransaction} {target : BranchName}
    (hpoint : next.point = .branchReplay branch resolved)
    (hqueues : next.merge.queues = m.queues.set branch queue) :
    pending next target = if target = branch then resolved ++ queue else m.queues.get target := by
  unfold pending
  rw [hpoint, hqueues]
  simp only [Sides.get_set]
  split <;> rfl

lemma invariant_branchReplayStep {resolved rest : List LoggedTransaction}
    {current : LoggedTransaction} (h : MergeInvariant loaded state)
    (hpoint : state.point = .branchReplay branch resolved)
    (hqueue : state.merge.queues.get branch = current :: rest)
    (hstep : branchReplayStep surroundings state.merge branch resolved current rest = .ok next) :
    MergeInvariant loaded next := by
  have hbefore : ∀ target, pending state target =
      if target = branch then resolved ++ current :: rest else state.merge.queues.get target := by
    intro target
    unfold pending
    rw [hpoint]
    simp only
    split
    · rename_i htarget
      rw [htarget, hqueue]
    · rfl
  have hcurrent := h.queued branch current (by
    rw [hbefore, if_pos rfl]
    exact List.mem_append_right _ List.mem_cons_self)
  have hnoTurn : ∀ {resolved' : List LoggedTransaction},
      next.point = .branchReplay branch resolved' →
        ∀ target turn, next.point = .turn target turn → TurnOf target turn := by
    intro resolved' hnext target turn hturn
    rw [hnext] at hturn
    cases hturn
  have hnotFinished : ∀ {resolved' : List LoggedTransaction},
      next.point = .branchReplay branch resolved' →
        next.point = .finished → ∀ target, next.merge.queues.get target = [] := by
    intro resolved' hnext hfinished
    rw [hnext] at hfinished
    cases hfinished
  obtain ⟨-, ⟨htrace, hqueues, hnext⟩ | ⟨htrace, hqueues, hnext⟩ |
    ⟨first, others, warning, hdraft, htrace, hqueues, hnext⟩⟩ := branchReplayStep_cases hstep
  · have hpending : ∀ target, pending next target = pending state target := by
      intro target
      rw [pending_branchReplay hnext hqueues, hbefore, List.append_assoc, List.singleton_append]
    refine h.replay hpending htrace ?_ (hnoTurn hnext) (hnotFinished hnext)
    simp only [upcoming, hnext, hpoint, hpending]
  · have hpending : ∀ target, pending next target =
        if target = branch then resolved ++ rest else state.merge.queues.get target :=
      fun target => pending_branchReplay hnext hqueues
    constructor
    · intro target
      refine (h.accounted target).dropped ?_
      rw [hpending, hbefore, htrace, placesOf_deleted, idsOf_single]
      split
      · rename_i htarget
        subst htarget
        rw [if_pos hcurrent.1]
        refine ⟨?_, rfl, ?_⟩
        · exact ((List.sublist_cons_self current rest).append_left resolved).map identity
        · simp only [placesOf, List.map_append, List.map_cons]
          rw [List.append_assoc, List.append_assoc]
          apply List.Perm.append_left
          rw [← List.append_assoc]
          exact List.perm_append_comm
      · rename_i htarget
        rw [if_neg fun heq => htarget (heq.symm.trans hcurrent.1), List.append_nil]
        exact Dropped.refl _
    · intro target transaction htx
      rw [hpending] at htx
      apply h.queued target transaction
      rw [hbefore]
      split at htx
      · rename_i htarget
        rw [if_pos htarget]
        rcases List.mem_append.mp htx with htx | htx
        · exact List.mem_append_left _ htx
        · exact List.mem_append_right _ (List.mem_cons_of_mem _ htx)
      · rename_i htarget
        rwa [if_neg htarget]
    · exact hnoTurn hnext
    · intro huntouched
      refine absurd trivial (huntouched (.deleted current) ?_)
      rw [htrace]
      exact List.mem_append_right _ List.mem_cons_self
    · exact hnotFinished hnext
  · have hpending : ∀ target, pending next target =
        if target = branch then resolved ++ transactionWithStatements current
          (acceptWarning (first :: others) warning) :: rest
        else state.merge.queues.get target :=
      fun target => pending_branchReplay hnext hqueues
    constructor
    · intro target
      have hplaces : placesOf (pending next target) next.merge.session.trace target =
          placesOf (pending state target) state.merge.session.trace target := by
        rw [htrace, placesOf_neutrals _ _ _ fun _ he => neutral_branchReplayEvents he, hpending,
          hbefore]
        split <;> simp [placesOf]
      rw [hplaces]
      exact h.accounted target
    · intro target transaction htx
      rw [hpending] at htx
      have hold := h.queued target transaction
      rw [hbefore] at hold
      split at htx
      · rename_i htarget
        rw [if_pos htarget] at hold
        rcases List.mem_append.mp htx with htx | htx
        · exact hold (List.mem_append_left _ htx)
        · rcases List.mem_cons.mp htx with htx | htx
          · rw [htx, htarget]
            exact ⟨hcurrent.1, acceptWarning_ne_nil warning⟩
          · exact hold (List.mem_append_right _ (List.mem_cons_of_mem _ htx))
      · rename_i htarget
        rw [if_neg htarget] at hold
        exact hold htx
    · exact hnoTurn hnext
    · intro huntouched
      have hsame : first :: others = current.statements := by
        by_contra hne
        refine absurd trivial (huntouched
          (.edited current (transactionWithStatements current (first :: others))) ?_)
        rw [htrace]
        simp [branchReplayEvents, hne]
      have happlied : applied (branchReplayEvents current (first :: others) warning) = [] :=
        List.filterMap_eq_nil_iff.mpr fun _ he => (neutral_branchReplayEvents he).1
      have hscript : script (transactionWithStatements current
          (acceptWarning (first :: others) warning)) = script current := by
        rw [script_acceptWarning, hsame]
        rfl
      have hpendingScript : ∀ target, (pending next target).map script =
          (pending state target).map script := by
        intro target
        rw [hpending, hbefore]
        split
        · simp only [List.map_append, List.map_cons, hscript]
        · rfl
      have hold := h.alternates (huntouched.of_append htrace)
      have hupcoming : (upcoming next).map script = (upcoming state).map script := by
        simp only [upcoming, hnext, hpoint, map_alternate, hpendingScript]
      rw [htrace, applied, List.filterMap_append, ← applied, ← applied, happlied,
        List.append_nil, List.map_append, hupcoming, ← List.map_append]
      exact hold
    · exact hnotFinished hnext

lemma pending_branchReplayDone {resolved : List LoggedTransaction}
    (hpoint : state.point = .branchReplay branch resolved)
    (hqueue : state.merge.queues.get branch = []) (target : BranchName) :
    pending (branchReplayDone context state.merge branch resolved) target =
      pending state target := by
  unfold pending branchReplayDone
  rw [hpoint]
  cases branch <;> cases target <;> simp [Sides.set, Sides.get] at hqueue ⊢ <;> simp [hqueue]

lemma invariant_branchReplayDone {resolved : List LoggedTransaction}
    (h : MergeInvariant loaded state) (hpoint : state.point = .branchReplay branch resolved)
    (hqueue : state.merge.queues.get branch = []) :
    MergeInvariant loaded (branchReplayDone context state.merge branch resolved) := by
  have hpending := @pending_branchReplayDone W context branch state resolved hpoint hqueue
  apply h.replay hpending
  · cases branch <;> rfl
  · cases branch <;> simp only [upcoming, hpending, hpoint] <;> rfl
  · intro target turn hturn
    cases branch <;> cases hturn
  · intro hfinished
    cases branch <;> cases hfinished

lemma wellQueued_of_pending (h : MergeInvariant loaded state)
    (hpending : ∀ target, pending state target = state.merge.queues.get target) :
    WellQueued state.merge := by
  intro target transaction htx
  rw [← hpending] at htx
  exact h.queued target transaction htx

lemma upcoming_turn {turn : Turn} :
    upcoming ⟨m, .turn branch turn⟩ =
      alternate (m.queues.get branch) (m.queues.get branch.other) := by
  cases branch <;> rfl

def afterTurn : BranchName → Point
  | .ours => .turn .theirs .start
  | .theirs => .round

lemma upcoming_afterTurn :
    upcoming ⟨m, afterTurn branch⟩ =
      alternate (m.queues.get branch.other) (m.queues.get branch) := by
  cases branch <;> rfl

lemma pending_afterTurn (target : BranchName) :
    pending ⟨m, afterTurn branch⟩ target = m.queues.get target := by
  cases branch <;> rfl

lemma invariant_turn {turn : Turn} {result : MergeState W × Option Turn}
    (h : MergeInvariant loaded ⟨m, .turn branch turn⟩)
    (hstep : turnStep context surroundings m branch turn = .ok result) :
    MergeInvariant loaded ⟨result.1, match result.2 with
      | some turn => .turn branch turn
      | none => afterTurn branch⟩ := by
  have hwell : WellQueued m := wellQueued_of_pending h fun _ => rfl
  have heffect := roundEffect_turnStep hwell (h.turn branch turn rfl) hstep
  have haccounted := h.accounted
  obtain ⟨m', result⟩ := result
  cases result with
  | some turn' =>
    obtain ⟨hturn, hplaces⟩ := heffect.goesOn turn' rfl
    constructor
    · intro target
      have htarget : Dropped (places m target) (places m' target) := by
        rcases eq_or_eq_other target branch with heq | hother
        · rw [heq]
          exact .of_eq hplaces
        · rw [hother]
          exact heffect.other
      exact (haccounted target).dropped htarget
    · exact heffect.wellQueued
    · intro target turn'' hpoint
      cases hpoint
      exact hturn
    · intro huntouched
      obtain ⟨hqueues, happlied⟩ := (untouchedRound_turnStep hstep huntouched).goesOn nofun
      have hold := h.alternates (untouchedRound_turnStep hstep huntouched).before
      rw [upcoming_turn] at hold ⊢
      simp only at hqueues happlied
      rw [happlied, hqueues]
      exact hold
    · nofun
  | none =>
    have hremoved : places m' branch = places m branch ∨
        Removed (places m branch) (places m' branch) := by
      rcases eq_or_ne (m.queues.get branch) [] with hempty | hne
      · unfold turnStep at hstep
        rw [hempty] at hstep
        cases hstep
        exact .inl rfl
      · exact .inr (heffect.returns rfl hne)
    constructor
    · intro target
      rw [pending_afterTurn]
      rcases eq_or_eq_other target branch with heq | hother
      · rw [heq]
        rcases hremoved with hsame | hremoved
        · exact (haccounted branch).dropped (.of_eq hsame)
        · exact (haccounted branch).removed hremoved
      · rw [hother]
        exact (haccounted branch.other).dropped heffect.other
    · intro target
      rw [pending_afterTurn]
      exact heffect.wellQueued target
    · intro target turn' hpoint
      cases branch with
      | ours =>
        cases hpoint
        exact turnOf_start
      | theirs => cases hpoint
    · intro huntouched
      have huntouched := untouchedRound_turnStep hstep huntouched
      have hold := h.alternates huntouched.before
      rw [upcoming_turn] at hold
      rw [upcoming_afterTurn, ← hold]
      rcases huntouched.returns rfl with ⟨hempty, heq⟩ | ⟨current, rest, hqueue, hqueues, happlied⟩
      · simp only at heq ⊢
        rw [heq, hempty, alternate_nil]
        rfl
      · simp only at hqueues happlied ⊢
        rw [happlied, hqueues, hqueue, alternate_cons, Sides.get_set_self, Sides.get_set_other]
        simp
    · intro hfinished
      cases branch <;> cases hfinished

lemma invariant_initial (world : W) (rows : Sides (List LogTableRow)) :
    MergeInvariant (initial surroundings world rows).merge.queues
      (initial surroundings world rows) := by
  have hpending : ∀ target, pending (initial surroundings world rows) target =
      (initial surroundings world rows).merge.queues.get target := by
    intro target
    cases target <;> rfl
  have hpoint : (initial surroundings world rows).point = .branchReplay .ours [] := rfl
  have hupcoming : upcoming (initial surroundings world rows) =
      alternate ((initial surroundings world rows).merge.queues.get .ours)
        ((initial surroundings world rows).merge.queues.get .theirs) := rfl
  constructor
  · intro target
    rw [hpending]
    constructor
    · simp [Places.all, placesOf, initial, applied, deleted, idsOf]
    · simp [placesOf, initial, applied, idsOf]
  · intro target transaction htx
    rw [hpending] at htx
    have hloaded : transaction ∈ loadLoggedTransactions surroundings.reader target
        (rows.get target) := by
      cases target <;> exact htx
    obtain ⟨hbranch, hne, -⟩ := mem_loadLoggedTransactions hloaded
    exact ⟨hbranch, hne⟩
  · intro target turn hturn
    rw [hpoint] at hturn
    cases hturn
  · intro _
    rw [hupcoming]
    rfl
  · intro hfinished
    rw [hpoint] at hfinished
    cases hfinished

lemma invariant_step (h : MergeInvariant loaded state)
    (hstep : step context surroundings state = .ok next) : MergeInvariant loaded next := by
  obtain ⟨m, point⟩ := state
  unfold step at hstep
  split at hstep
  · rename_i branch resolved hpoint
    simp only at hpoint
    split at hstep
    · rename_i hqueue
      cases hstep
      exact invariant_branchReplayDone h hpoint hqueue
    · rename_i current rest hqueue
      exact invariant_branchReplayStep h hpoint hqueue hstep
  · rename_i hpoint
    simp only at hpoint
    subst hpoint
    split at hstep
    · rename_i hempty
      cases hstep
      refine h.replay (fun _ => rfl) rfl rfl (fun _ _ hturn => ?_) fun _ target => ?_
      · cases hturn
      · cases target
        · exact hempty.1
        · exact hempty.2
    · cases hstep
      refine h.replay (fun _ => rfl) rfl rfl (fun _ _ hturn => ?_) fun hfinished => ?_
      · cases hturn
        exact turnOf_start
      · cases hfinished
  · rename_i branch turn hpoint
    simp only at hpoint
    subst hpoint
    obtain ⟨⟨m', result⟩, hturn, hstep⟩ := bind_eq_ok.mp hstep
    have hinvariant := invariant_turn h hturn
    cases result with
    | some turn' =>
      cases hstep
      exact hinvariant
    | none =>
      cases branch with
      | ours =>
        cases hstep
        exact hinvariant
      | theirs =>
        cases hstep
        exact hinvariant
  · cases hstep

/-- The invariant holds along every run. -/
theorem invariant_reachable {world : W} {rows : Sides (List LogTableRow)}
    (h : Reachable context surroundings world rows state) :
    MergeInvariant (initial surroundings world rows).merge.queues state := by
  induction h with
  | refl => exact invariant_initial world rows
  | tail _ hstep ih => exact invariant_step ih hstep

/-- The branches are replayed and the loop over both queues has begun. -/
def AfterBranchReplay (state : State W) : Prop :=
  ∀ branch resolved, state.point ≠ .branchReplay branch resolved

lemma pending_afterBranchReplay (h : AfterBranchReplay state) (target : BranchName) :
    pending state target = state.merge.queues.get target := by
  unfold pending
  split
  · rename_i branch resolved hpoint
    exact absurd hpoint (h branch resolved)
  · rfl

lemma nodup_identity (world : W) (rows : Sides (List LogTableRow)) (target : BranchName) :
    (((initial surroundings world rows).merge.queues.get target).map identity).Nodup := by
  have hindexes : (((initial surroundings world rows).merge.queues.get target).map
      (·.branchIndex)).Nodup := by
    cases target
    · exact nodup_branchIndex surroundings.reader .ours rows.ours
    · exact nodup_branchIndex surroundings.reader .theirs rows.theirs
  apply List.Nodup.of_map (fun id : TransactionId => id.2.1)
  rw [List.map_map]
  exact hindexes

/-- In every state of the loop each loaded transaction is in its queue, applied or deleted,
in exactly one of these, with the order of its branch kept and a statement left; a call of
`_check_accept_current` removes the head of its queue; and without edits and deletions the
transactions are applied alternately. -/
theorem transactions_conserved {world : W} {rows : Sides (List LogTableRow)}
    (h : Reachable context surroundings world rows state) (hafter : AfterBranchReplay state) :
    (∀ branch, Accounted
          (((initial surroundings world rows).merge.queues.get branch).map identity)
          (places state.merge branch) ∧
        (places state.merge branch).all.Nodup) ∧
      (∀ branch, ∀ transaction ∈ state.merge.queues.get branch, transaction.statements ≠ []) ∧
      (∀ branch m', state.merge.queues.get branch ≠ [] →
        CheckAcceptCurrent context surroundings branch state.merge m' →
        Removed (places state.merge branch) (places m' branch) ∧
          Dropped (places state.merge branch.other) (places m' branch.other)) ∧
      (Untouched state.merge.session →
        (applied state.merge.session.trace ++ upcoming state).map script =
            (alternate (loadLoggedTransactions surroundings.reader .ours rows.ours)
              (loadLoggedTransactions surroundings.reader .theirs rows.theirs)).map script ∧
          (state.point = .finished → upcoming state = [])) := by
  have hinvariant := invariant_reachable h
  have hpending := pending_afterBranchReplay hafter
  have hwell := wellQueued_of_pending hinvariant hpending
  refine ⟨fun branch => ?_, fun branch transaction htx => (hwell branch transaction htx).2,
    fun branch m' hne hcall => removed_of_call hwell hne hcall, fun huntouched => ⟨?_, ?_⟩⟩
  · have haccounted := hinvariant.accounted branch
    rw [hpending] at haccounted
    exact ⟨haccounted, haccounted.perm.nodup_iff.mpr (nodup_identity world rows branch)⟩
  · exact hinvariant.alternates huntouched
  · intro hfinished
    have hempty := hinvariant.finished hfinished
    simp only [upcoming, hfinished, hpending, hempty]
    rfl

end

def twoTables : ConflictCheckContext :=
  ⟨⟨[("a", {"x"}), ("b", {"x"})], [], [], [], []⟩, fun _ => none⟩

def insertMetadata (table : String) : StatementMetadata :=
  parseStatementMetadataForContext twoTables ⟨"", none, false⟩
    ⟨.insert, some table, [], none, ∅, by simp⟩

/-- Every check passes and every replay succeeds. -/
def quietSurroundings : Surroundings Unit where
  databases :=
    { start := fun _ w => (.empty, w)
      checkNext := fun _ _ _ _ w => (.empty, w)
      acceptNext := fun _ _ _ w => (.empty, w)
      close := id
      applyAcceptedTransaction := fun _ w => (none, w) }
  branchTransactionReplayIssue _ w := (none, w)
  reader :=
    { neutralizeRollback := id
      parse := fun sql => .ok (insertMetadata
        (if sql = "INSERT INTO a VALUES (1)" then "a" else "b"))
      unsupported := fun _ => insertMetadata "a" }
  inputs w := ([], w)

def twoInserts : Sides (List LogTableRow) where
  ours := [⟨1, "", "INSERT INTO a VALUES (1)", "INSERT INTO a VALUES (1)", true, none⟩]
  theirs := [⟨1, "", "INSERT INTO b VALUES (1)", "INSERT INTO b VALUES (1)", true, none⟩]

def insertTransaction (branch : BranchName) (sql : String) : LoggedTransaction :=
  loggedTransaction
    (makeLoggedStatement quietSurroundings.reader branch 0 1 "" ⟨sql, sql, true, none⟩) [] 0

def oursInsert : LoggedTransaction := insertTransaction .ours "INSERT INTO a VALUES (1)"

def theirsInsert : LoggedTransaction := insertTransaction .theirs "INSERT INTO b VALUES (1)"

def twoInsertsMerged : State Unit where
  merge :=
    { session := ⟨(), [.scan oursInsert ∅, .apply oursInsert [theirsInsert] none,
        .scan theirsInsert ∅, .apply theirsInsert [] none]⟩
      queues := ⟨[], []⟩
      metadataIndexes :=
        ⟨(RemainingMetadataIndex.fromTransactions twoTables [oursInsert]).removeTransaction twoTables
            oursInsert,
          (RemainingMetadataIndex.fromTransactions twoTables [theirsInsert]).removeTransaction
            twoTables theirsInsert⟩ }
  point := .finished

lemma twoInsertsMerged_reachable :
    Reachable twoTables quietSurroundings () twoInserts twoInsertsMerged :=
  reachable_run twoTables quietSurroundings 8 .refl rfl

/-- Both inserts are applied, the local one first. -/
theorem two_inserts_conserved :
    AfterBranchReplay twoInsertsMerged ∧
      Accounted [identity oursInsert] (places twoInsertsMerged.merge .ours) ∧
      (applied twoInsertsMerged.merge.session.trace).map script =
        [oursInsert, theirsInsert].map script := by
  have hafter : AfterBranchReplay twoInsertsMerged := nofun
  have huntouched : Untouched twoInsertsMerged.merge.session := by
    intro event he
    simp only [twoInsertsMerged, List.mem_cons, List.not_mem_nil, or_false] at he
    rcases he with he | he | he | he <;> (rw [he]; exact not_false)
  obtain ⟨haccounted, -, -, halternates⟩ :=
    transactions_conserved twoInsertsMerged_reachable hafter
  obtain ⟨happlied, hend⟩ := halternates huntouched
  rw [hend rfl, List.append_nil] at happlied
  exact ⟨hafter, (haccounted .ours).1, happlied⟩

end SqliteReconcile.MergeConservation
