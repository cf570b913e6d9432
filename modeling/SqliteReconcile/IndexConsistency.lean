import SqliteReconcile.AcceptanceSoundness

/-! The counters of a branch always are those of its queue. -/
namespace SqliteReconcile.IndexConsistency
open Models RemainingMetadata RemainingMetadataIndex LogMerge ConflictDetection TerminalMergetool
  MergeConservation AcceptanceSoundness

inductive IndexChange
  | add (transaction : LoggedTransaction)
  | remove (transaction : LoggedTransaction)

namespace IndexChange

def apply (context : ConflictCheckContext) (index : RemainingMetadataIndex) :
    IndexChange → RemainingMetadataIndex
  | .add transaction => index.addTransaction context transaction
  | .remove transaction => index.removeTransaction context transaction

/-- What a change adds to one count when no count is cut off at zero. -/
def weight (context : ConflictCheckContext) (field : CounterField) (table column : String) :
    IndexChange → ℤ
  | .add transaction => transactionWeight context field table column transaction
  | .remove transaction => -transactionWeight context field table column transaction

end IndexChange

/-- Changes in which each removed transaction was added and not yet removed, and the
transactions that survive them. -/
inductive Survive : List IndexChange → Multiset LoggedTransaction → Prop
  | nil : Survive [] 0
  | add {changes : List IndexChange} {survivors : Multiset LoggedTransaction}
      (transaction : LoggedTransaction) (h : Survive changes survivors) :
      Survive (changes ++ [.add transaction]) (transaction ::ₘ survivors)
  | remove {changes : List IndexChange} {survivors : Multiset LoggedTransaction}
      {transaction : LoggedTransaction} (h : Survive changes (transaction ::ₘ survivors)) :
      Survive (changes ++ [.remove transaction]) survivors

variable {context : ConflictCheckContext}

lemma fromTransactions_perm {transactions transactions' : List LoggedTransaction}
    (h : transactions.Perm transactions') :
    fromTransactions context transactions = fromTransactions context transactions' := by
  apply index_ext
  · intro field table column
    rw [countAt_fromTransactions, countAt_fromTransactions]
    exact (h.map _).sum_eq
  · rw [transactionCount_fromTransactions, transactionCount_fromTransactions, h.length_eq]

lemma index_of_survive {changes : List IndexChange} {survivors : Multiset LoggedTransaction}
    (h : Survive changes survivors) : ∀ transactions : List LoggedTransaction,
      (transactions : Multiset LoggedTransaction) = survivors →
      changes.foldl (IndexChange.apply context) new = fromTransactions context transactions := by
  induction h with
  | nil =>
    intro transactions heq
    rw [(Multiset.coe_eq_zero transactions).mp heq]
    rfl
  | @add changes survivors transaction h ih =>
    intro transactions heq
    have hbefore := ih survivors.toList survivors.coe_toList
    have hperm : (survivors.toList ++ [transaction]).Perm transactions := by
      apply Multiset.coe_eq_coe.mp
      rw [heq, ← Multiset.coe_add, Multiset.coe_toList, Multiset.coe_singleton,
        Multiset.add_comm, Multiset.singleton_add]
    rw [List.foldl_append, List.foldl_cons, List.foldl_nil, hbefore, ← fromTransactions_perm hperm]
    unfold fromTransactions
    rw [List.foldl_append]
    rfl
  | @remove changes survivors transaction h ih =>
    intro transactions heq
    have hbefore := ih (transaction :: transactions) (by rw [← heq]; rfl)
    rw [List.foldl_append, List.foldl_cons, List.foldl_nil, hbefore]
    exact @removeTransaction_fromTransactions context (transaction :: transactions) 0 transaction rfl

/-- No count is ever cut off at zero: each is the plain sum of the changes. -/
lemma countAt_of_survive {changes : List IndexChange} {survivors : Multiset LoggedTransaction}
    (h : Survive changes survivors) (field : CounterField) (table column : String) :
    ((changes.foldl (IndexChange.apply context) new).countAt field table column : ℤ) =
      (changes.map (IndexChange.weight context field table column)).sum := by
  induction h with
  | nil => cases field <;> rfl
  | @add changes survivors transaction h ih =>
    have hcount := @countAt_addTransaction context
      (changes.foldl (IndexChange.apply context) new) transaction field table column
    rw [List.foldl_append, List.foldl_cons, List.foldl_nil, List.map_append, List.sum_append, ← ih]
    simp only [IndexChange.apply, hcount, List.map_cons, List.map_nil, List.sum_cons, List.sum_nil,
      IndexChange.weight]
    omega
  | @remove changes survivors transaction h ih =>
    have hbefore := @index_of_survive context _ _ h (transaction :: survivors.toList) (by
      rw [← Multiset.cons_coe, Multiset.coe_toList])
    have hcount := @countAt_removeTransaction context
      (changes.foldl (IndexChange.apply context) new) transaction field table column
    have hle : transactionWeight context field table column transaction ≤
        (changes.foldl (IndexChange.apply context) new).countAt field table column := by
      rw [hbefore, countAt_fromTransactions, List.map_cons, List.sum_cons]
      omega
    rw [List.foldl_append, List.foldl_cons, List.foldl_nil, List.map_append, List.sum_append, ← ih]
    simp only [IndexChange.apply, hcount, List.map_cons, List.map_nil, List.sum_cons, List.sum_nil,
      IndexChange.weight]
    omega

/-- In every state of the loop the index of a branch is the one of its queue; and changes that
remove only what was added always lead to the index of the survivors, without cutting off a
count. -/
theorem index_consistent {W : Type} {surroundings : Surroundings W} {world : W}
    {rows : Sides (List LogTableRow)} {state : State W}
    (h : Reachable context surroundings world rows state) (hafter : AfterBranchReplay state) :
    (∀ branch, state.merge.metadataIndexes.get branch =
        fromTransactions context (state.merge.queues.get branch)) ∧
      ∀ changes survivors, Survive changes survivors →
        (∀ transactions : List LoggedTransaction,
          (transactions : Multiset LoggedTransaction) = survivors →
          changes.foldl (IndexChange.apply context) new = fromTransactions context transactions) ∧
        ∀ field table column,
          ((changes.foldl (IndexChange.apply context) new).countAt field table column : ℤ) =
            (changes.map (IndexChange.weight context field table column)).sum := by
  refine ⟨(stateSound_reachable h).indexed hafter, fun changes survivors hsurvive => ⟨?_, ?_⟩⟩
  · exact index_of_survive hsurvive
  · exact countAt_of_survive hsurvive

/-- After the local update is applied, the index of its branch is the one of an empty queue. -/
theorem index_consistent_updates :
    twoUpdatesMerged.merge.metadataIndexes.get .ours = fromTransactions twoTables [] := by
  have hafter : AfterBranchReplay twoUpdatesMerged := by
    intro branch resolved hpoint
    cases hpoint
  exact (index_consistent twoUpdatesMerged_reachable hafter).1 .ours

end SqliteReconcile.IndexConsistency
