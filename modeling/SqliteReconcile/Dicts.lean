import Mathlib

/-!
# Dictionaries in the order of insertion

A dictionary whose entries stay in the order in which their keys came: an assignment to a key that
is there keeps its place. A dictionary filled by a list of assignments answers with the last one
of a key.
-/
namespace SqliteReconcile.Dicts

/-- Entries with distinct keys, the oldest first. -/
structure Dict (κ υ : Type) where
  entries : List (κ × υ)
  nodup : (entries.map Prod.fst).Nodup

namespace Dict

variable {κ υ : Type} [DecidableEq κ]

def empty : Dict κ υ := ⟨[], List.nodup_nil⟩

def keys (d : Dict κ υ) : List κ := d.entries.map Prod.fst

def values (d : Dict κ υ) : List υ := d.entries.map Prod.snd

def get? (d : Dict κ υ) (key : κ) : Option υ :=
  (d.entries.find? fun entry => entry.1 = key).map Prod.snd

def replace (d : Dict κ υ) (key : κ) (value : υ) : Dict κ υ where
  entries := d.entries.map fun entry => if entry.1 = key then (key, value) else entry
  nodup := by
    have hkeys : (d.entries.map fun entry => if entry.1 = key then (key, value) else entry).map
        Prod.fst = d.entries.map Prod.fst := by
      rw [List.map_map]
      refine List.map_congr_left fun entry _ => ?_
      by_cases h : entry.1 = key <;> simp [h]
    rw [hkeys]
    exact d.nodup

def append (d : Dict κ υ) (key : κ) (value : υ) (h : key ∉ d.keys) : Dict κ υ where
  entries := d.entries ++ [(key, value)]
  nodup := by
    rw [List.map_append, List.nodup_append]
    refine ⟨d.nodup, List.nodup_singleton key, ?_⟩
    rintro other hother _ hkey rfl
    have hsame : other = key := by simpa using hkey
    exact h (hsame ▸ hother)

def set (d : Dict κ υ) (key : κ) (value : υ) : Dict κ υ :=
  if h : key ∈ d.keys then d.replace key value else d.append key value h

def erase (d : Dict κ υ) (key : κ) : Dict κ υ where
  entries := d.entries.filter fun entry => entry.1 ≠ key
  nodup := d.nodup.sublist (List.Sublist.map Prod.fst List.filter_sublist)

variable {d : Dict κ υ} {key other : κ} {value : υ}

lemma get?_eq_some_iff : d.get? key = some value ↔ (key, value) ∈ d.entries := by
  rw [get?, Option.map_eq_some_iff]
  constructor
  · rintro ⟨⟨key', value'⟩, hfind, rfl⟩
    have hkey : key' = key := by simpa using List.find?_some hfind
    rw [← hkey]
    exact List.mem_of_find?_eq_some hfind
  · intro hmem
    cases hfind : d.entries.find? fun entry => entry.1 = key with
    | none =>
      have hnone := List.find?_eq_none.mp hfind (key, value) hmem
      simp at hnone
    | some entry =>
      have hkey : entry.1 = key := by simpa using List.find?_some hfind
      have hsame := List.inj_on_of_nodup_map d.nodup (List.mem_of_find?_eq_some hfind) hmem hkey
      exact ⟨entry, rfl, by rw [hsame]⟩

lemma get?_eq_none_iff : d.get? key = none ↔ key ∉ d.keys := by
  rw [get?, Option.map_eq_none_iff, List.find?_eq_none, keys, List.mem_map]
  constructor
  · rintro h ⟨entry, hentry, rfl⟩
    exact h entry hentry (by simp)
  · intro h entry hentry hkey
    exact h ⟨entry, hentry, by simpa using hkey⟩

lemma mem_values_iff : value ∈ d.values ↔ ∃ key, d.get? key = some value := by
  rw [values, List.mem_map]
  constructor
  · rintro ⟨entry, hentry, rfl⟩
    exact ⟨entry.1, get?_eq_some_iff.mpr hentry⟩
  · rintro ⟨key, hkey⟩
    exact ⟨(key, value), get?_eq_some_iff.mp hkey, rfl⟩

lemma mem_keys_iff : key ∈ d.keys ↔ ∃ value, d.get? key = some value := by
  rw [keys, List.mem_map]
  constructor
  · rintro ⟨⟨key', value⟩, hentry, rfl⟩
    exact ⟨value, get?_eq_some_iff.mpr hentry⟩
  · rintro ⟨value, hvalue⟩
    exact ⟨(key, value), get?_eq_some_iff.mp hvalue, rfl⟩

@[simp] lemma get?_empty : (empty : Dict κ υ).get? key = none := rfl

lemma get?_replace (h : key ∈ d.keys) :
    (d.replace key value).get? other = if other = key then some value else d.get? other := by
  ext v
  rw [get?_eq_some_iff, replace, List.mem_map]
  split
  · next hsame =>
    subst hsame
    constructor
    · rintro ⟨entry, hentry, hpair⟩
      by_cases hkey : entry.1 = other
      · rw [if_pos hkey] at hpair
        rw [(Prod.mk.inj hpair).2]
      · rw [if_neg hkey] at hpair
        exact absurd (congrArg Prod.fst hpair) hkey
    · intro hv
      obtain ⟨entry, hentry, hkey⟩ := List.mem_map.mp h
      refine ⟨entry, hentry, ?_⟩
      rw [if_pos hkey, Option.some.inj hv]
  · next hne =>
    rw [get?_eq_some_iff]
    constructor
    · rintro ⟨entry, hentry, hpair⟩
      by_cases hkey : entry.1 = key
      · rw [if_pos hkey] at hpair
        exact absurd (congrArg Prod.fst hpair).symm hne
      · rw [if_neg hkey] at hpair
        exact hpair ▸ hentry
    · intro hentry
      exact ⟨(other, v), hentry, if_neg hne⟩

lemma get?_append (h : key ∉ d.keys) :
    (d.append key value h).get? other = if other = key then some value else d.get? other := by
  ext v
  rw [get?_eq_some_iff, append, List.mem_append, List.mem_singleton, ← get?_eq_some_iff]
  split
  · next hsame =>
    subst hsame
    rw [get?_eq_none_iff.mpr h]
    simp [eq_comm]
  · next hne => simp [hne]

@[simp] lemma get?_set (key other : κ) (value : υ) :
    (d.set key value).get? other = if other = key then some value else d.get? other := by
  rw [set]
  split
  · next h => exact get?_replace h
  · next h => exact get?_append h

@[simp] lemma get?_erase (key other : κ) :
    (d.erase key).get? other = if other = key then none else d.get? other := by
  ext v
  rw [get?_eq_some_iff, erase, List.mem_filter, ← get?_eq_some_iff]
  split
  · next hsame => simp [hsame]
  · next hne => simp [hne]

lemma set_eq_self (h : d.get? key = some value) : d.set key value = d := by
  have hmem := get?_eq_some_iff.mp h
  have hkey : key ∈ d.keys := List.mem_map_of_mem hmem
  rw [set, dif_pos hkey, replace]
  have hsame : (d.entries.map fun entry => if entry.1 = key then (key, value) else entry) =
      d.entries := by
    refine (List.map_congr_left fun entry hentry => ?_).trans (List.map_id _)
    by_cases hfirst : entry.1 = key
    · rw [if_pos hfirst]
      exact List.inj_on_of_nodup_map d.nodup hmem hentry hfirst.symm
    · rw [if_neg hfirst]
      rfl
  simp only [hsame]

lemma erase_eq_self (h : d.get? key = none) : d.erase key = d := by
  have hkey := get?_eq_none_iff.mp h
  rw [erase]
  have hsame : (d.entries.filter fun entry => entry.1 ≠ key) = d.entries := by
    refine List.filter_eq_self.mpr fun entry hentry => ?_
    have hne : entry.1 ≠ key := fun hsame => hkey (hsame ▸ List.mem_map_of_mem hentry)
    simpa using hne
  simp only [hsame]

lemma get?_foldl_erase (keys : List κ) :
    (keys.foldl erase d).get? key = if key ∈ keys then none else d.get? key := by
  induction keys generalizing d with
  | nil => rfl
  | cons first keys ih =>
    rw [List.foldl_cons, ih, get?_erase]
    by_cases hin : key ∈ keys
    · rw [if_pos hin, if_pos (List.mem_cons_of_mem _ hin)]
    · rw [if_neg hin]
      by_cases hfirst : key = first
      · rw [if_pos hfirst, if_pos (hfirst ▸ List.mem_cons_self)]
      · rw [if_neg hfirst, if_neg (by simp [hfirst, hin])]

def setAll (d : Dict κ υ) (writes : List (κ × υ)) : Dict κ υ :=
  writes.foldl (fun d write => d.set write.1 write.2) d

/-- The last assignment to a key. -/
def lastOf (writes : List (κ × υ)) (key : κ) : Option υ :=
  ((writes.filter fun write => write.1 = key).getLast?).map Prod.snd

lemma get?_setAll (writes : List (κ × υ)) :
    (d.setAll writes).get? key = (lastOf writes key).or (d.get? key) := by
  induction writes generalizing d with
  | nil => rfl
  | cons write writes ih =>
    have hstep : (d.setAll (write :: writes)).get? key =
        ((d.set write.1 write.2).setAll writes).get? key := rfl
    rw [hstep, ih, get?_set]
    by_cases hkey : write.1 = key
    · subst hkey
      rw [if_pos rfl, lastOf, lastOf, List.filter_cons_of_pos (by simp), List.getLast?_cons]
      cases (writes.filter fun other => other.1 = write.1).getLast? with
      | none => rfl
      | some last => rfl
    · rw [if_neg (Ne.symm hkey), lastOf, lastOf, List.filter_cons_of_neg (by simpa using hkey)]

lemma setAll_append (first rest : List (κ × υ)) :
    d.setAll (first ++ rest) = (d.setAll first).setAll rest := List.foldl_append

lemma mem_of_lastOf {writes : List (κ × υ)} (h : lastOf writes key = some value) :
    (key, value) ∈ writes := by
  obtain ⟨⟨key', value'⟩, hlast, rfl⟩ := Option.map_eq_some_iff.mp h
  have hmem := List.mem_filter.mp (List.mem_of_getLast? hlast)
  have hkey : key' = key := by simpa using hmem.2
  exact hkey ▸ hmem.1

lemma lastOf_isSome {writes : List (κ × υ)} (h : (key, value) ∈ writes) :
    ∃ last, lastOf writes key = some last := by
  have hmem : (key, value) ∈ writes.filter fun write => write.1 = key :=
    List.mem_filter.mpr ⟨h, by simp⟩
  have hne := List.ne_nil_of_mem hmem
  exact ⟨_, by rw [lastOf, List.getLast?_eq_some_getLast hne]; rfl⟩

lemma lastOf_filter_eq_some_iff {p : κ × υ → Bool} {writes : List (κ × υ)} :
    lastOf (writes.filter p) key = some value ↔
      p (key, value) = true ∧ ∃ before after, writes = before ++ (key, value) :: after ∧
        ∀ other ∈ after, other.1 = key → ¬ p other = true := by
  rw [lastOf, List.filter_filter]
  constructor
  · intro h
    obtain ⟨⟨key', value'⟩, hlast, rfl⟩ := Option.map_eq_some_iff.mp h
    obtain ⟨front, hfront⟩ := List.getLast?_eq_some_iff.mp hlast
    obtain ⟨before, rest, hwrites, -, hrest⟩ := List.filter_eq_append_iff.mp hfront
    obtain ⟨between, after, hrest, -, hgood, hnone⟩ := List.filter_eq_cons_iff.mp hrest
    obtain ⟨hkey, hp⟩ : key' = key ∧ p (key', value') = true := by simpa using hgood
    refine ⟨hkey ▸ hp, before ++ between, after, ?_, fun other hother hsame hother' => ?_⟩
    · rw [hwrites, hrest, hkey, List.append_assoc]
    · exact List.filter_eq_nil_iff.mp hnone other hother (by simp [hsame, hother'])
  · rintro ⟨hp, before, after, rfl, hafter⟩
    have hnone : after.filter (fun write => decide (write.1 = key) && p write) = [] := by
      refine List.filter_eq_nil_iff.mpr fun other hother hboth => ?_
      obtain ⟨hsame, hother'⟩ : other.1 = key ∧ p other = true := by simpa using hboth
      exact hafter other hother hsame hother'
    rw [List.filter_append, List.filter_cons_of_pos (by simp [hp]), hnone, List.getLast?_append]
    rfl

/-- Where all assignments to a key agree, any of them is the last one. -/
lemma lastOf_eq_of_forall {writes : List (κ × υ)} (h : (key, value) ∈ writes)
    (hall : ∀ other, (key, other) ∈ writes → other = value) : lastOf writes key = some value := by
  obtain ⟨last, hlast⟩ := lastOf_isSome h
  rw [hlast, hall last (mem_of_lastOf hlast)]

/-- Where the values of the assignments do not decrease, the last assignment to a key is the
greatest. -/
lemma lastOf_eq_some_iff_of_sorted [LinearOrder υ] {writes : List (κ × υ)}
    (hsorted : writes.Pairwise fun first second => first.2 ≤ second.2) :
    lastOf writes key = some value ↔
      (key, value) ∈ writes ∧ ∀ other, (key, other) ∈ writes → other ≤ value := by
  have hmax : ∀ last, lastOf writes key = some last →
      ∀ other, (key, other) ∈ writes → other ≤ last := by
    intro last hlast other hother
    obtain ⟨⟨key', last'⟩, hget, rfl⟩ := Option.map_eq_some_iff.mp hlast
    have hmem : (key, other) ∈ writes.filter fun write => write.1 = key :=
      List.mem_filter.mpr ⟨hother, by simp⟩
    obtain ⟨before, hsplit⟩ := List.getLast?_eq_some_iff.mp hget
    rw [hsplit] at hmem
    have hpair := hsorted.filter fun write => decide (write.1 = key)
    rw [hsplit] at hpair
    rcases List.mem_append.mp hmem with hbefore | hend
    · exact (List.pairwise_append.mp hpair).2.2 _ hbefore _ (List.mem_singleton_self _)
    · rw [(Prod.mk.inj (List.mem_singleton.mp hend)).2]
  constructor
  · exact fun h => ⟨mem_of_lastOf h, hmax value h⟩
  · rintro ⟨hmem, hall⟩
    obtain ⟨last, hlast⟩ := lastOf_isSome hmem
    rw [hlast, le_antisymm (hall last (mem_of_lastOf hlast)) (hmax last hlast value hmem)]

end Dict

end SqliteReconcile.Dicts
