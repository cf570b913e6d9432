import Mathlib.Data.List.Basic
import Mathlib.Data.Nat.Find
import Mathlib.Logic.Basic

/-!
# Breadth-first search with a depth limit

A search from one start that expands every element once and gives up when it meets an element
beyond the limit. An element is expanded at the length of a shortest chain to it, so the search
gives up exactly when some element at the limit leads on, and otherwise expands what the start
leads to.
-/
namespace SqliteReconcile.Search

variable {α : Type} [DecidableEq α] (next : α → List α) (limit : ℕ)

/-- The elements expanded, in order, and whether the search met one beyond the limit. -/
def explore : ℕ → List (α × ℕ) → List α → List α × Bool
  | 0, _, _ => ([], false)
  | _ + 1, [], _ => ([], false)
  | fuel + 1, (x, depth) :: queue, visited =>
    if limit < depth then ([], true)
    else if x ∈ visited then explore fuel queue visited
    else
      let rest := explore fuel (queue ++ (next x).map (·, depth + 1)) (x :: visited)
      (x :: rest.1, rest.2)

def unvisited (elements visited : List α) : ℕ := (elements.filter (· ∉ visited)).length

lemma unvisited_cons {elements visited : List α} {x : α} (hx : x ∈ elements)
    (hv : x ∉ visited) : unvisited elements (x :: visited) + 1 ≤ unvisited elements visited := by
  have hsub : elements.filter (· ∉ x :: visited) =
      (elements.filter (· ∉ visited)).filter (· ≠ x) := by
    rw [List.filter_filter]
    congr 1
    funext y
    by_cases hy : y = x <;> simp [hy]
  have hmem : x ∈ elements.filter (· ∉ visited) := by simp [hx, hv]
  unfold unvisited
  rw [hsub]
  exact List.length_filter_lt_length_iff_exists.mpr ⟨x, hmem, by simp⟩

/-- Work left to do: what is queued, and `width` for every element not yet expanded. -/
def workLeft (elements : List α) (width : ℕ) (queue : List (α × ℕ)) (visited : List α) : ℕ :=
  queue.length + width * unvisited elements visited

/-- What holds of every way in which an iteration can go holds of a search with more fuel than
work left. -/
theorem worklist_induction {motive : ℕ → List (α × ℕ) → List α → Prop} {elements : List α}
    {width : ℕ} (hclosed : ∀ x ∈ elements, ∀ y ∈ next x, y ∈ elements)
    (hwidth : ∀ x, (next x).length ≤ width)
    (nil : ∀ fuel visited, motive (fuel + 1) [] visited)
    (deep : ∀ fuel x depth queue visited, limit < depth →
      motive (fuel + 1) ((x, depth) :: queue) visited)
    (seen : ∀ fuel x depth queue visited, depth ≤ limit → x ∈ visited →
      motive fuel queue visited → motive (fuel + 1) ((x, depth) :: queue) visited)
    (expand : ∀ fuel x depth queue visited, depth ≤ limit → x ∉ visited →
      motive fuel (queue ++ (next x).map (·, depth + 1)) (x :: visited) →
      motive (fuel + 1) ((x, depth) :: queue) visited)
    (fuel : ℕ) {queue : List (α × ℕ)} {visited : List α} (hqueue : ∀ p ∈ queue, p.1 ∈ elements)
    (hfuel : workLeft elements width queue visited < fuel) : motive fuel queue visited := by
  induction fuel generalizing queue visited with
  | zero => omega
  | succ fuel ih =>
    cases queue with
    | nil => exact nil fuel visited
    | cons head queue =>
      obtain ⟨x, depth⟩ := head
      have hx : x ∈ elements := hqueue (x, depth) (by simp)
      have hrest : ∀ p ∈ queue, p.1 ∈ elements := fun p hp => hqueue p (by simp [hp])
      simp only [workLeft, List.length_cons] at hfuel
      by_cases hdepth : limit < depth
      · exact deep fuel x depth queue visited hdepth
      by_cases hvisited : x ∈ visited
      · refine seen fuel x depth queue visited (by omega) hvisited (ih hrest ?_)
        simp only [workLeft]
        omega
      · refine expand fuel x depth queue visited (by omega) hvisited (ih ?_ ?_)
        · intro p hp
          rcases List.mem_append.mp hp with hp | hp
          · exact hrest p hp
          · obtain ⟨y, hy, rfl⟩ := List.mem_map.mp hp
            exact hclosed x hx y hy
        · have hless := Nat.mul_le_mul_left width (unvisited_cons hx hvisited)
          have hnext := hwidth x
          rw [Nat.mul_add, Nat.mul_one] at hless
          simp only [workLeft, List.length_append, List.length_map]
          omega

/-- A chain of this many steps leads from the start to an element. -/
inductive Chain (start : α) : ℕ → α → Prop
  | start : Chain start 0 start
  | step {n : ℕ} {x y : α} : Chain start n x → y ∈ next x → Chain start (n + 1) y

/-- The length of a shortest chain to an element. -/
def First (start : α) (n : ℕ) (x : α) : Prop :=
  Chain next start n x ∧ ∀ m < n, ¬ Chain next start m x

/-- Some element at the limit leads on. -/
def Exceeds (start : α) : Prop := ∃ x y, First next start limit x ∧ y ∈ next x

variable {next limit} {start : α}

omit [DecidableEq α]

lemma Chain.first {n : ℕ} {x : α} (h : Chain next start n x) :
    ∃ m ≤ n, First next start m x := by
  classical
  have hex : ∃ m, Chain next start m x := ⟨n, h⟩
  exact ⟨Nat.find hex, Nat.find_min' hex h, Nat.find_spec hex, fun m hm => Nat.find_min hex hm⟩

lemma First.parent {n : ℕ} {y : α} (h : First next start (n + 1) y) :
    ∃ x, First next start n x ∧ y ∈ next x := by
  obtain ⟨hchain, hleast⟩ := h
  cases hchain with
  | step hx hy =>
    refine ⟨_, ⟨hx, ?_⟩, hy⟩
    intro m hm hshort
    exact hleast (m + 1) (by omega) (.step hshort hy)

lemma First.before {n m : ℕ} {x : α} (h : First next start n x) (hm : m < n) :
    ∃ y z, First next start m y ∧ z ∈ next y := by
  induction n generalizing x with
  | zero => omega
  | succ n ih =>
    obtain ⟨y, hy, hx⟩ := h.parent
    by_cases heq : m = n
    · subst heq
      exact ⟨y, x, hy, hx⟩
    · exact ih hy (by omega)

lemma first_start : First next start 0 start := ⟨.start, fun m hm => by omega⟩

/-- What the queue and the visited elements are while a depth is being expanded: `now` are the
elements queued at this depth, `later` those queued at the next. -/
structure Frontier (next : α → List α) (start : α) (depth : ℕ) (now later visited : List α) :
    Prop where
  visited_first : ∀ x ∈ visited, ∃ n ≤ depth, First next start n x
  now_chain : ∀ x ∈ now, Chain next start depth x
  later_child : ∀ y ∈ later, ∃ x, First next start depth x ∧ y ∈ next x
  earlier_visited : ∀ n < depth, ∀ x, First next start n x → x ∈ visited
  level : ∀ x, First next start depth x → x ∈ visited ∨ x ∈ now
  expanded : ∀ x ∈ visited, First next start depth x → ∀ y ∈ next x, y ∈ later

namespace Frontier

variable {depth : ℕ} {now later visited : List α} {x : α}

lemma initial : Frontier next start 0 [start] [] [] where
  visited_first := by simp
  now_chain := by
    intro x hx
    rw [List.mem_singleton.mp hx]
    exact .start
  later_child := by simp
  earlier_visited := by
    intro n hn
    omega
  level := by
    intro x hx
    refine .inr (List.mem_singleton.mpr ?_)
    cases hx.1
    rfl
  expanded := by simp

lemma skip (h : Frontier next start depth (x :: now) later visited) (hx : x ∈ visited) :
    Frontier next start depth now later visited where
  visited_first := h.visited_first
  now_chain y hy := h.now_chain y (List.mem_cons_of_mem _ hy)
  later_child := h.later_child
  earlier_visited := h.earlier_visited
  level y hy := by
    rcases h.level y hy with hv | hn
    · exact .inl hv
    · rcases List.mem_cons.mp hn with rfl | hn
      · exact .inl hx
      · exact .inr hn
  expanded := h.expanded

lemma first_of_now (h : Frontier next start depth (x :: now) later visited)
    (hx : x ∉ visited) : First next start depth x := by
  obtain ⟨n, hn, hfirst⟩ := (h.now_chain x List.mem_cons_self).first
  rcases Nat.lt_or_eq_of_le hn with hlt | rfl
  · exact absurd (h.earlier_visited n hlt x hfirst) hx
  · exact hfirst

lemma expand (h : Frontier next start depth (x :: now) later visited) (hx : x ∉ visited) :
    Frontier next start depth now (later ++ next x) (x :: visited) where
  visited_first y hy := by
    rcases List.mem_cons.mp hy with rfl | hy
    · exact ⟨depth, le_rfl, h.first_of_now hx⟩
    · exact h.visited_first y hy
  now_chain y hy := h.now_chain y (List.mem_cons_of_mem _ hy)
  later_child y hy := by
    rcases List.mem_append.mp hy with hy | hy
    · exact h.later_child y hy
    · exact ⟨x, h.first_of_now hx, hy⟩
  earlier_visited n hn y hy := List.mem_cons_of_mem _ (h.earlier_visited n hn y hy)
  level y hy := by
    rcases h.level y hy with hv | hn
    · exact .inl (List.mem_cons_of_mem _ hv)
    · rcases List.mem_cons.mp hn with rfl | hn
      · exact .inl List.mem_cons_self
      · exact .inr hn
  expanded y hy hfirst z hz := by
    rcases List.mem_cons.mp hy with rfl | hy
    · exact List.mem_append_right _ hz
    · exact List.mem_append_left _ (h.expanded y hy hfirst z hz)

lemma deeper (h : Frontier next start depth [] later visited) :
    Frontier next start (depth + 1) later [] visited where
  visited_first y hy := by
    obtain ⟨n, hn, hfirst⟩ := h.visited_first y hy
    exact ⟨n, by omega, hfirst⟩
  now_chain y hy := by
    obtain ⟨x, hx, hy⟩ := h.later_child y hy
    exact .step hx.1 hy
  later_child := by simp
  earlier_visited n hn y hy := by
    rcases Nat.lt_or_eq_of_le (Nat.lt_succ_iff.mp hn) with hlt | rfl
    · exact h.earlier_visited n hlt y hy
    · exact (h.level y hy).resolve_right (by simp)
  level y hy := by
    obtain ⟨x, hx, hy⟩ := hy.parent
    exact .inr (h.expanded x ((h.level x hx).resolve_right (by simp)) hx y hy)
  expanded y hy hfirst := by
    obtain ⟨n, hn, hshort⟩ := h.visited_first y hy
    exact absurd hshort.1 (hfirst.2 n (by omega))

/-- When nothing is queued, what was visited leads nowhere else. -/
lemma closed (h : Frontier next start depth [] [] visited) :
    ∀ x ∈ visited, ∀ y ∈ next x, y ∈ visited := by
  intro x hx y hy
  obtain ⟨n, hn, hfirst⟩ := h.visited_first x hx
  rcases Nat.lt_or_eq_of_le hn with hlt | rfl
  · obtain ⟨m, hm, hchild⟩ := (Chain.step hfirst.1 hy).first
    rcases Nat.lt_or_eq_of_le (show m ≤ depth by omega) with hm | rfl
    · exact h.earlier_visited m hm y hchild
    · exact (h.level y hchild).resolve_right (by simp)
  · exact absurd (h.expanded x hx hfirst y hy) (by simp)

lemma start_visited (h : Frontier next start depth [] [] visited) : start ∈ visited := by
  rcases Nat.eq_zero_or_pos depth with rfl | hpos
  · exact (h.level start first_start).resolve_right (by simp)
  · exact h.earlier_visited 0 hpos start first_start

/-- When nothing is queued within the limit, no element at the limit leads on. -/
lemma not_exceeds (h : Frontier next start depth [] [] visited) (hdepth : depth ≤ limit) :
    ¬ Exceeds next limit start := by
  rintro ⟨x, y, hx, hy⟩
  have hlevel : ∀ u v, First next start depth u → v ∈ next u → False := by
    intro u v hu hv
    have hmem := (h.level u hu).resolve_right (by simp)
    exact absurd (h.expanded u hmem hu v hv) (by simp)
  rcases Nat.lt_or_eq_of_le hdepth with hlt | rfl
  · obtain ⟨u, v, hu, hv⟩ := hx.before hlt
    exact hlevel u v hu hv
  · exact hlevel x y hx hy

end Frontier

variable (next limit start) in
/-- What a finished search has found: `found` are the elements expanded. -/
structure Found (found : List α) (exceeded : Bool) : Prop where
  exceeds : exceeded = true ↔ Exceeds next limit start
  sound : ∀ x ∈ found, ∃ n, Chain next start n x
  start_mem : exceeded = false → start ∈ found
  closed : exceeded = false → ∀ x ∈ found, ∀ y ∈ next x, y ∈ found

/-- A queue whose elements are at one depth, then at the next. -/
def queueOf (depth : ℕ) (now later : List α) : List (α × ℕ) :=
  now.map (·, depth) ++ later.map (·, depth + 1)

lemma Found.congr {found found' : List α} {exceeded : Bool}
    (h : Found next limit start found exceeded) (hmem : ∀ x, x ∈ found' ↔ x ∈ found) :
    Found next limit start found' exceeded where
  exceeds := h.exceeds
  sound x hx := h.sound x ((hmem x).mp hx)
  start_mem hend := (hmem start).mpr (h.start_mem hend)
  closed hend x hx y hy := (hmem y).mpr (h.closed hend x ((hmem x).mp hx) y hy)

lemma Frontier.found {depth : ℕ} {visited : List α}
    (h : Frontier next start depth [] [] visited) (hdepth : depth ≤ limit) :
    Found next limit start visited false where
  exceeds := by simpa using h.not_exceeds hdepth
  sound x hx := by
    obtain ⟨n, -, hfirst⟩ := h.visited_first x hx
    exact ⟨n, hfirst.1⟩
  start_mem _ := h.start_visited
  closed _ := h.closed

lemma Frontier.head {depth d : ℕ} {now later visited : List α} {x : α} {queue : List (α × ℕ)}
    (h : Frontier next start depth now later visited)
    (hqueue : (x, d) :: queue = queueOf depth now later) (hdepth : depth ≤ limit) :
    (limit < d ∧ Exceeds next limit start) ∨
      d ≤ limit ∧ ∃ now' later', Frontier next start d (x :: now') later' visited ∧
        queue = queueOf d now' later' := by
  cases now with
  | cons u now =>
    simp only [queueOf, List.map_cons, List.cons_append, List.cons.injEq, Prod.mk.injEq] at hqueue
    obtain ⟨⟨rfl, rfl⟩, rfl⟩ := hqueue
    exact .inr ⟨hdepth, now, later, h, rfl⟩
  | nil =>
    cases later with
    | nil => simp [queueOf] at hqueue
    | cons u later =>
      simp only [queueOf, List.map_nil, List.map_cons, List.nil_append, List.cons.injEq,
        Prod.mk.injEq] at hqueue
      obtain ⟨⟨rfl, rfl⟩, rfl⟩ := hqueue
      rcases Nat.lt_or_eq_of_le hdepth with hlt | rfl
      · exact .inr ⟨by omega, later, [], h.deeper, by simp [queueOf]⟩
      · obtain ⟨y, hy, hx⟩ := h.later_child x List.mem_cons_self
        exact .inl ⟨by omega, y, x, hy, hx⟩

/-- Without an exceeded limit the search expands exactly what the start leads to. -/
lemma Found.mem_iff {found : List α} (h : Found next limit start found false) {x : α} :
    x ∈ found ↔ ∃ n, Chain next start n x := by
  refine ⟨h.sound x, ?_⟩
  rintro ⟨n, hchain⟩
  induction hchain with
  | start => exact h.start_mem rfl
  | step _ hy ih => exact h.closed rfl _ ih _ hy

variable [DecidableEq α]

/-- A search with enough fuel, from any frontier within the limit, finds what the start leads
to or exceeds the limit. -/
theorem explore_found {elements : List α} {width : ℕ}
    (hclosed : ∀ x ∈ elements, ∀ y ∈ next x, y ∈ elements)
    (hwidth : ∀ x, (next x).length ≤ width) (fuel : ℕ) {queue : List (α × ℕ)}
    {visited : List α} (hqueue : ∀ p ∈ queue, p.1 ∈ elements)
    (hfuel : workLeft elements width queue visited < fuel) :
    ∀ depth now later, queue = queueOf depth now later →
      Frontier next start depth now later visited → depth ≤ limit →
      Found next limit start (visited ++ (explore next limit fuel queue visited).1)
        (explore next limit fuel queue visited).2 := by
  refine worklist_induction next limit (motive := fun fuel queue visited => ∀ depth now later,
    queue = queueOf depth now later → Frontier next start depth now later visited →
    depth ≤ limit → Found next limit start (visited ++ (explore next limit fuel queue visited).1)
      (explore next limit fuel queue visited).2) hclosed hwidth ?_ ?_ ?_ ?_ fuel hqueue hfuel
  · intro fuel visited depth now later hq hfrontier hdepth
    simp only [queueOf, List.nil_eq_append_iff, List.map_eq_nil_iff] at hq
    obtain ⟨rfl, rfl⟩ := hq
    simpa [explore] using hfrontier.found hdepth
  · intro fuel x d queue visited hd depth now later hq hfrontier hdepth
    rcases hfrontier.head hq hdepth with ⟨-, hexceeds⟩ | ⟨hle, -⟩
    · simp only [explore, if_pos hd, List.append_nil]
      refine ⟨iff_of_true rfl hexceeds, ?_, by simp, by simp⟩
      intro y hy
      obtain ⟨n, -, hfirst⟩ := hfrontier.visited_first y hy
      exact ⟨n, hfirst.1⟩
    · omega
  · intro fuel x d queue visited hd hx ih depth now later hq hfrontier hdepth
    rcases hfrontier.head hq hdepth with ⟨hlt, -⟩ | ⟨-, now', later', hhead, rfl⟩
    · omega
    · simp only [explore, if_neg (not_lt.mpr hd), if_pos hx]
      exact ih d now' later' rfl (hhead.skip hx) hd
  · intro fuel x d queue visited hd hx ih depth now later hq hfrontier hdepth
    rcases hfrontier.head hq hdepth with ⟨hlt, -⟩ | ⟨-, now', later', hhead, rfl⟩
    · omega
    · simp only [explore, if_neg (not_lt.mpr hd), if_neg hx]
      have hnext := ih d now' (later' ++ next x) (by simp [queueOf]) (hhead.expand hx) hd
      refine hnext.congr fun y => ?_
      simp only [List.mem_append, List.mem_cons]
      tauto

theorem explore_start {elements : List α} {width : ℕ} (hstart : start ∈ elements)
    (hclosed : ∀ x ∈ elements, ∀ y ∈ next x, y ∈ elements)
    (hwidth : ∀ x, (next x).length ≤ width) (fuel : ℕ)
    (hfuel : workLeft elements width [(start, 0)] [] < fuel) :
    Found next limit start (explore next limit fuel [(start, 0)] []).1
      (explore next limit fuel [(start, 0)] []).2 :=
  explore_found hclosed hwidth fuel (by simpa using hstart) hfuel 0 [start] [] rfl .initial
    (Nat.zero_le _)

end SqliteReconcile.Search
