import Mathlib

/-!
# Merge logs over a repository history

Every version of the database carries the log of its transactions. A commit appends one
transaction, a merge re-records the accepted transactions of both sides after the log of
the base. A later merge loads each side's log after the watermark of its base.
-/
namespace SqliteReconcile.MergeHistory

/-- A logged transaction: its id in this log, and the branch transaction it records. -/
structure LogRow (τ : Type*) where
  id : ℕ
  transaction : τ
  deriving DecidableEq

variable {τ : Type*}

abbrev Log (τ : Type*) := List (LogRow τ)

def Log.transactions (log : Log τ) : List τ := log.map (·.transaction)

/-- The last transaction id known to the merge base, `COALESCE(MAX(id), 0)`. -/
def getBaseWatermark (log : Log τ) : ℕ := (log.map (·.id)).foldr max 0

/-- Log entries after the watermark, in id order. -/
def loadLoggedTransactions (log : Log τ) (sinceTransactionId : ℕ) : Log τ :=
  (log.filter fun row => sinceTransactionId < row.id).mergeSort fun r s => r.id ≤ s.id

/-- Log one transaction under the next id. -/
def appendTransaction (log : Log τ) (transaction : τ) : Log τ :=
  log ++ [⟨getBaseWatermark log + 1, transaction⟩]

/-- Record the accepted transactions, one group after another, in the working merge log. -/
def appendReplayedLog (log : Log τ) (accepted : List τ) : Log τ :=
  accepted.foldl appendTransaction log

/-- One version of the database file, and the versions it descends from. -/
structure Version (τ : Type*) where
  log : Log τ
  ancestors : List ℕ

/-- `ours` and `theirs` are versions of the history and `base` is an ancestor of both. -/
structure MergeInputs (versions : List (Version τ)) (b o t : ℕ) (base ours theirs : Version τ) :
    Prop where
  baseAt : versions[b]? = some base
  oursAt : versions[o]? = some ours
  theirsAt : versions[t]? = some theirs
  oursDescends : b = o ∨ b ∈ ours.ancestors
  theirsDescends : b = t ∨ b ∈ theirs.ancestors

/-- Histories built by commits of new transactions and by merges whose logs satisfy `P`. -/
inductive History (P : Log τ → Log τ → Log τ → Prop) : List (Version τ) → Prop
  | initial : History P [⟨[], []⟩]
  | commit {versions i parent transaction} : History P versions →
    versions[i]? = some parent →
    (∀ version ∈ versions, transaction ∉ version.log.transactions) →
    History P (versions ++ [⟨appendTransaction parent.log transaction, i :: parent.ancestors⟩])
  | merge {versions b o t base ours theirs accepted} : History P versions →
    MergeInputs versions b o t base ours theirs → P base.log ours.log theirs.log →
    accepted.Subperm
      ((loadLoggedTransactions ours.log (getBaseWatermark base.log)).transactions ++
        (loadLoggedTransactions theirs.log (getBaseWatermark base.log)).transactions) →
    History P (versions ++
      [⟨appendReplayedLog base.log accepted, o :: t :: (ours.ancestors ++ theirs.ancestors)⟩])

/-- The merge loads exactly the side's transactions that the base does not hold, in log
order. -/
def LoadsMissing [DecidableEq τ] (base side : Log τ) : Prop :=
  (loadLoggedTransactions side (getBaseWatermark base)).transactions =
    side.transactions.filter (· ∉ base.transactions)

/-- The side's log opens with transactions of the base, over the whole length of the base. -/
def OpensWithBase (base side : Log τ) : Prop :=
  ∀ tx ∈ side.transactions.take base.length, tx ∈ base.transactions

/-- Both logs open with the base, and what they log after it differs. -/
structure ForkedFrom (base ours theirs : Log τ) : Prop where
  oursOpens : OpensWithBase base ours
  theirsOpens : OpensWithBase base theirs
  disjoint : ∀ tx ∈ ours.transactions.drop base.length,
    tx ∉ theirs.transactions.drop base.length

/-- Ids count from one, and no transaction is logged twice. -/
structure WellNumbered (log : Log τ) : Prop where
  numbered : ∀ i row, log[i]? = some row → row.id = i + 1
  nodup : log.transactions.Nodup

lemma le_watermark {log : Log τ} {row : LogRow τ} (h : row ∈ log) :
    row.id ≤ getBaseWatermark log := by
  unfold getBaseWatermark
  induction log with
  | nil => cases h
  | cons first rest ih =>
    simp only [List.map_cons, List.foldr_cons]
    rcases List.mem_cons.mp h with h | h
    · rw [h]
      exact le_max_left _ _
    · exact (ih h).trans (le_max_right _ _)

lemma watermark_le {log : Log τ} {n : ℕ} (h : ∀ row ∈ log, row.id ≤ n) :
    getBaseWatermark log ≤ n := by
  unfold getBaseWatermark
  induction log with
  | nil => exact Nat.zero_le n
  | cons first rest ih =>
    simp only [List.map_cons, List.foldr_cons]
    have hfirst := h first List.mem_cons_self
    have hrest := ih fun row hrow => h row (List.mem_cons_of_mem _ hrow)
    omega

lemma WellNumbered.watermark {log : Log τ} (h : WellNumbered log) :
    getBaseWatermark log = log.length := by
  apply le_antisymm
  · apply watermark_le
    intro row hrow
    obtain ⟨i, hi⟩ := List.getElem?_of_mem hrow
    have hid := h.numbered i row hi
    have hlt := (List.getElem?_eq_some_iff.mp hi).1
    omega
  · rcases Nat.eq_zero_or_pos log.length with hzero | hpos
    · omega
    · have hbound : log.length - 1 < log.length := by omega
      have hlast := List.getElem?_eq_getElem hbound
      have hid := h.numbered _ _ hlast
      have hle := le_watermark (List.mem_of_getElem? hlast)
      omega

@[simp] lemma transactions_append (log more : Log τ) :
    (log ++ more : Log τ).transactions = log.transactions ++ more.transactions :=
  List.map_append

@[simp] lemma length_transactions (log : Log τ) : log.transactions.length = log.length :=
  List.length_map _

lemma transactions_drop (log : Log τ) (n : ℕ) :
    Log.transactions (log.drop n) = log.transactions.drop n :=
  List.map_drop

lemma transactions_appendTransaction (log : Log τ) (transaction : τ) :
    (appendTransaction log transaction).transactions = log.transactions ++ [transaction] :=
  transactions_append log _

lemma WellNumbered.append {log : Log τ} (h : WellNumbered log) {transaction : τ}
    (hfresh : transaction ∉ log.transactions) :
    WellNumbered (appendTransaction log transaction) where
  numbered := by
    intro i row hrow
    unfold appendTransaction at hrow
    rw [h.watermark] at hrow
    rcases Nat.lt_or_ge i log.length with hlt | hge
    · rw [List.getElem?_append_left hlt] at hrow
      exact h.numbered i row hrow
    · rw [List.getElem?_append_right hge] at hrow
      obtain ⟨hi, hrow⟩ := List.getElem?_eq_some_iff.mp hrow
      have hi : i = log.length := by
        simp only [List.length_singleton] at hi
        omega
      subst hi
      rw [← hrow]
      simp
  nodup := by
    rw [transactions_appendTransaction]
    apply List.nodup_append.mpr ⟨h.nodup, List.nodup_singleton _, _⟩
    intro tx htx last hlast heq
    rw [heq, List.mem_singleton.mp hlast] at htx
    exact hfresh htx

lemma WellNumbered.appendReplayed {log : Log τ} (h : WellNumbered log) (accepted : List τ)
    (hnodup : accepted.Nodup) (hfresh : ∀ tx ∈ accepted, tx ∉ log.transactions) :
    WellNumbered (appendReplayedLog log accepted) := by
  induction accepted generalizing log with
  | nil => exact h
  | cons tx rest ih =>
    obtain ⟨htx, hrest⟩ := List.nodup_cons.mp hnodup
    apply ih (h.append (hfresh tx List.mem_cons_self)) hrest
    intro tx' htx' hmem
    rw [transactions_appendTransaction] at hmem
    rcases List.mem_append.mp hmem with hmem | hmem
    · exact hfresh tx' (List.mem_cons_of_mem _ htx') hmem
    · rw [List.mem_singleton.mp hmem] at htx'
      exact htx htx'

lemma WellNumbered.load {base side : Log τ} (hside : WellNumbered side)
    (hbase : WellNumbered base) :
    loadLoggedTransactions side (getBaseWatermark base) = side.drop base.length := by
  have htake : (side.take base.length).filter (fun row => base.length < row.id) = [] := by
    apply List.filter_eq_nil_iff.mpr
    intro row hrow
    obtain ⟨i, hi⟩ := List.getElem?_of_mem hrow
    have hlt := (List.getElem?_eq_some_iff.mp hi).1
    rw [List.length_take] at hlt
    rw [List.getElem?_take_of_lt (by omega)] at hi
    have hid := hside.numbered i row hi
    simp only [decide_eq_true_eq]
    omega
  have hdrop : (side.drop base.length).filter (fun row => base.length < row.id) =
      side.drop base.length := by
    apply List.filter_eq_self.mpr
    intro row hrow
    obtain ⟨i, hi⟩ := List.getElem?_of_mem hrow
    rw [List.getElem?_drop] at hi
    have hid := hside.numbered _ row hi
    simp only [decide_eq_true_eq]
    omega
  have hsorted : (side.drop base.length).Pairwise fun r s => (r.id ≤ s.id : Bool) := by
    rw [List.pairwise_iff_getElem]
    intro i j hi hj hij
    have hri := hside.numbered (base.length + i) ((side.drop base.length)[i])
      (by rw [← List.getElem?_drop]; exact List.getElem?_eq_getElem hi)
    have hrj := hside.numbered (base.length + j) ((side.drop base.length)[j])
      (by rw [← List.getElem?_drop]; exact List.getElem?_eq_getElem hj)
    simp only [decide_eq_true_eq]
    omega
  unfold loadLoggedTransactions
  rw [hbase.watermark]
  have hsplit := List.take_append_drop base.length side
  calc (side.filter fun row => base.length < row.id).mergeSort (fun r s => r.id ≤ s.id)
      = ((side.take base.length ++ side.drop base.length).filter
          fun row => base.length < row.id).mergeSort (fun r s => r.id ≤ s.id) := by
        rw [hsplit]
    _ = (side.drop base.length).mergeSort (fun r s => r.id ≤ s.id) := by
        rw [List.filter_append, htake, hdrop, List.nil_append]
    _ = side.drop base.length := List.mergeSort_of_pairwise hsorted

lemma WellNumbered.load_transactions {base side : Log τ} (hside : WellNumbered side)
    (hbase : WellNumbered base) :
    (loadLoggedTransactions side (getBaseWatermark base)).transactions =
      side.transactions.drop base.length := by
  rw [hside.load hbase, transactions_drop]

/-- Where a side opens with the base, nothing of the base comes later. -/
lemma OpensWithBase.not_mem {base side : Log τ} (h : OpensWithBase base side)
    (hside : WellNumbered side) {tx : τ} (htx : tx ∈ side.transactions.drop base.length) :
    tx ∉ base.transactions := by
  intro hbase
  have hnodup := hside.nodup
  rw [← List.take_append_drop base.length side.transactions] at hnodup
  obtain ⟨htake, -, hcross⟩ := List.nodup_append.mp hnodup
  have hlength : base.length < side.length := by
    have hpos := List.length_pos_of_mem htx
    rw [List.length_drop, length_transactions] at hpos
    omega
  have hsubperm : (side.transactions.take base.length).Subperm base.transactions :=
    htake.subperm fun tx => h tx
  have hperm := hsubperm.perm_of_length_le (by
    rw [List.length_take, length_transactions, length_transactions]
    omega)
  exact hcross tx (hperm.mem_iff.mpr hbase) tx htx rfl

/-- A side is loaded right exactly when it opens with the base. -/
lemma loadsMissing_iff [DecidableEq τ] {base side : Log τ} (hside : WellNumbered side)
    (hbase : WellNumbered base) : LoadsMissing base side ↔ OpensWithBase base side := by
  unfold LoadsMissing
  rw [hside.load_transactions hbase]
  have hsplit := List.take_append_drop base.length side.transactions
  have hfilter : side.transactions.filter (· ∉ base.transactions) =
      (side.transactions.take base.length).filter (· ∉ base.transactions) ++
        (side.transactions.drop base.length).filter (· ∉ base.transactions) := by
    rw [← List.filter_append, hsplit]
  constructor
  · intro h tx htx
    by_contra hnot
    have hnodup := hside.nodup
    rw [← hsplit] at hnodup
    have hcross := (List.nodup_append.mp hnodup).2.2
    have hmem : tx ∈ side.transactions.drop base.length := by
      rw [h, hfilter]
      apply List.mem_append_left
      simp [htx, hnot]
    exact hcross tx htx tx hmem rfl
  · intro h
    have htake : (side.transactions.take base.length).filter (· ∉ base.transactions) = [] := by
      apply List.filter_eq_nil_iff.mpr
      intro tx htx
      simp [h tx htx]
    have hdrop : (side.transactions.drop base.length).filter (· ∉ base.transactions) =
        side.transactions.drop base.length := by
      apply List.filter_eq_self.mpr
      intro tx htx
      simp [h.not_mem hside htx]
    rw [hfilter, htake, hdrop, List.nil_append]

lemma ForkedFrom.wellNumbered {base ours theirs : Log τ} (h : ForkedFrom base ours theirs)
    (hours : WellNumbered ours) (htheirs : WellNumbered theirs) (hbase : WellNumbered base)
    {accepted : List τ}
    (haccepted : accepted.Subperm
      ((loadLoggedTransactions ours (getBaseWatermark base)).transactions ++
        (loadLoggedTransactions theirs (getBaseWatermark base)).transactions)) :
    WellNumbered (appendReplayedLog base accepted) := by
  rw [hours.load_transactions hbase, htheirs.load_transactions hbase] at haccepted
  have hnodup : (ours.transactions.drop base.length ++
      theirs.transactions.drop base.length).Nodup := by
    apply List.nodup_append.mpr ⟨hours.nodup.sublist (List.drop_sublist _ _),
      htheirs.nodup.sublist (List.drop_sublist _ _), _⟩
    intro tx htx tx' htx' heq
    rw [heq] at htx
    exact h.disjoint tx' htx htx'
  have haccepted' : accepted.Nodup := by
    obtain ⟨some, hperm, hsublist⟩ := haccepted
    exact hperm.nodup_iff.mp (hnodup.sublist hsublist)
  apply hbase.appendReplayed accepted haccepted'
  intro tx htx
  rcases List.mem_append.mp (haccepted.subset htx) with hnew | hnew
  · exact h.oursOpens.not_mem hours hnew
  · exact h.theirsOpens.not_mem htheirs hnew

/-- Every log of a history whose merges fork from their base is well numbered. -/
lemma History.wellNumbered {versions : List (Version τ)} (h : History ForkedFrom versions) :
    ∀ version ∈ versions, WellNumbered version.log := by
  induction h with
  | initial =>
    intro version hv
    rw [List.mem_singleton.mp hv]
    exact ⟨by simp, List.nodup_nil⟩
  | commit _ hparent hfresh ih =>
    intro version hv
    rcases List.mem_append.mp hv with hv | hv
    · exact ih version hv
    · rw [List.mem_singleton.mp hv]
      have hmem := List.mem_of_getElem? hparent
      exact (ih _ hmem).append (hfresh _ hmem)
  | merge _ hinputs hforked haccepted ih =>
    intro version hv
    rcases List.mem_append.mp hv with hv | hv
    · exact ih version hv
    · rw [List.mem_singleton.mp hv]
      have hbase := ih _ (List.mem_of_getElem? hinputs.baseAt)
      have hours := ih _ (List.mem_of_getElem? hinputs.oursAt)
      have htheirs := ih _ (List.mem_of_getElem? hinputs.theirsAt)
      exact hforked.wellNumbered hours htheirs hbase haccepted

/-- After a history whose merges fork from their base, a merge loads exactly the missing
transactions of both sides if and only if both logs open with the base. -/
theorem loadsMissing_iff_opensWithBase [DecidableEq τ] {versions : List (Version τ)}
    {b o t : ℕ} {base ours theirs : Version τ} (h : History ForkedFrom versions)
    (hinputs : MergeInputs versions b o t base ours theirs) :
    LoadsMissing base.log ours.log ∧ LoadsMissing base.log theirs.log ↔
      OpensWithBase base.log ours.log ∧ OpensWithBase base.log theirs.log := by
  have hwell := h.wellNumbered
  have hbase := hwell _ (List.mem_of_getElem? hinputs.baseAt)
  have hours := hwell _ (List.mem_of_getElem? hinputs.oursAt)
  have htheirs := hwell _ (List.mem_of_getElem? hinputs.theirsAt)
  exact and_congr (loadsMissing_iff hours hbase) (loadsMissing_iff htheirs hbase)

def twoBranches : List (Version ℕ) := [⟨[], []⟩, ⟨[⟨1, 0⟩], [0]⟩, ⟨[⟨1, 1⟩], [0]⟩]

def mergedBranches : Version ℕ := ⟨[⟨1, 0⟩, ⟨2, 1⟩], [1, 2, 0, 0]⟩

def secondBranch : Version ℕ := ⟨[⟨1, 1⟩, ⟨2, 2⟩], [2, 0]⟩

lemma twoBranches_history (P : Log ℕ → Log ℕ → Log ℕ → Prop) : History P twoBranches := by
  have hfirst : History P [⟨[], []⟩, ⟨[⟨1, 0⟩], [0]⟩] :=
    @History.commit ℕ P [⟨[], []⟩] 0 ⟨[], []⟩ 0 .initial rfl (by simp [Log.transactions])
  exact @History.commit ℕ P [⟨[], []⟩, ⟨[⟨1, 0⟩], [0]⟩] 0 ⟨[], []⟩ 1 hfirst rfl
    (by simp [Log.transactions])

lemma mergedBranches_history {P : Log ℕ → Log ℕ → Log ℕ → Prop}
    (h : P [] [⟨1, 0⟩] [⟨1, 1⟩]) : History P (twoBranches ++ [mergedBranches]) := by
  have hinputs : MergeInputs twoBranches 0 1 2 ⟨[], []⟩ ⟨[⟨1, 0⟩], [0]⟩ ⟨[⟨1, 1⟩], [0]⟩ :=
    ⟨rfl, rfl, rfl, by simp, by simp⟩
  have haccepted : [0, 1].Subperm
      ((loadLoggedTransactions [⟨1, 0⟩] (getBaseWatermark ([] : Log ℕ))).transactions ++
        (loadLoggedTransactions [⟨1, 1⟩] (getBaseWatermark ([] : Log ℕ))).transactions) := by
    apply List.Perm.subperm
    simp [loadLoggedTransactions, getBaseWatermark, Log.transactions]
  exact @History.merge ℕ P twoBranches 0 1 2 _ _ _ [0, 1] (twoBranches_history P) hinputs h
    haccepted

lemma secondBranch_history (P : Log ℕ → Log ℕ → Log ℕ → Prop) (h : P [] [⟨1, 0⟩] [⟨1, 1⟩]) :
    History P (twoBranches ++ [mergedBranches] ++ [secondBranch]) :=
  @History.commit ℕ P (twoBranches ++ [mergedBranches]) 2 ⟨[⟨1, 1⟩], [0]⟩ 2
    (mergedBranches_history h) rfl (by simp [twoBranches, mergedBranches, Log.transactions])

/-- The first branch is the base of a later merge: the logs of both sides open with it. -/
theorem loadsMissing_first_branch :
    LoadsMissing [⟨1, 0⟩] ([⟨1, 0⟩, ⟨2, 1⟩] : Log ℕ) ∧ LoadsMissing [⟨1, 0⟩] ([⟨1, 0⟩] : Log ℕ) ↔
      OpensWithBase [⟨1, 0⟩] ([⟨1, 0⟩, ⟨2, 1⟩] : Log ℕ) ∧
        OpensWithBase [⟨1, 0⟩] ([⟨1, 0⟩] : Log ℕ) :=
  @loadsMissing_iff_opensWithBase ℕ _ (twoBranches ++ [mergedBranches]) 1 3 1
    ⟨[⟨1, 0⟩], [0]⟩ mergedBranches ⟨[⟨1, 0⟩], [0]⟩
    (mergedBranches_history ⟨by simp [OpensWithBase], by simp [OpensWithBase],
      by simp [Log.transactions]⟩)
    ⟨rfl, rfl, rfl, by simp [mergedBranches], by simp⟩

/-- The second branch as base: its own commit is loaded again from the merge, and the
commit of the first branch is not. -/
theorem second_branch_loaded_again :
    ¬ ∀ (versions : List (Version ℕ)) (b o t : ℕ) (base ours theirs : Version ℕ),
      History (fun _ _ _ => True) versions →
        MergeInputs versions b o t base ours theirs →
          LoadsMissing base.log ours.log ∧ LoadsMissing base.log theirs.log := by
  intro h
  have hload := (h _ 2 3 4 ⟨[⟨1, 1⟩], [0]⟩ mergedBranches secondBranch
    (secondBranch_history _ trivial)
    ⟨rfl, rfl, rfl, by simp [mergedBranches], by simp [secondBranch]⟩).1
  simp [LoadsMissing, loadLoggedTransactions, getBaseWatermark, mergedBranches,
    Log.transactions] at hload

end SqliteReconcile.MergeHistory
