import SqliteReconcile.RowSnapshots

/-!
# What the merge leaves in the file

The statements that are applied are those that are not held back. The rows that they lead to are a
three-way merge of the rows that nothing holds back, and keep their constraints unless one of two
things has happened.
-/
namespace SqliteReconcile.RowMerge
open Dicts Outcomes

variable {V : Type} [DecidableEq V]

/-- `base_to_ours[i]`. -/
def statementAt (statements : List (Statement V)) (i : ℕ) : Except Failure (Statement V) :=
  match statements[i]? with
  | some statement => .ok statement
  | none => .error .indexError

def stmtsToApply (baseToOurs baseToTheirs : List (Statement V)) (buckets : DiffBuckets) :
    Except Failure (List (Statement V)) := do
  let matched ← buckets.matchedOursIndices.mapM (statementAt baseToOurs)
  let extraOurs ← buckets.extraOursIndices.mapM (statementAt baseToOurs)
  let extraTheirs ← buckets.extraTheirsIndices.mapM (statementAt baseToTheirs)
  return matched ++ extraOurs ++ extraTheirs

/-- A statement of one side is not applied: its table is invalid, the other side changes its row in
another way, or it was looked up and takes a unique value that the other side takes as well. -/
def HeldBack (databases : Databases V) (invalid : Dict String InvalidTableState)
    (baseToOurs baseToTheirs : List (Statement V)) (isOurs : Bool) (statement : Statement V) :
    Prop :=
  invalid.get? statement.table ≠ none ∨
    (∃ other ∈ ofSide isOurs baseToTheirs baseToOurs, PrimaryKeyConflict databases other statement) ∨
    isOurs ≠ hashesOurs baseToOurs baseToTheirs ∧
      (¬ ∃ other ∈ ofSide isOurs baseToTheirs baseToOurs, SameChange databases other statement) ∧
      ∃ j, Meets databases (!isOurs) (ofSide isOurs baseToTheirs baseToOurs) j statement

variable {databases : Databases V} {invalid : Dict String InvalidTableState} {isOurs : Bool}
  {toBuild toLookup : List (Statement V)} {effects : List (Effect V)} {looked : List (Looked V)}

/-- A statement of the hashed list is applied unless it is in conflict on its own key. -/
lemma hashedPlace_applied_iff (honce : OncePerKey databases toLookup) (j : ℕ) (t : Statement V) :
    hashedPlace databases invalid isOurs toBuild toLookup j t .matched ∨
        hashedPlace databases invalid isOurs toBuild toLookup j t .extra ↔
      invalid.get? t.table = none ∧ ¬ ∃ s ∈ toLookup, PrimaryKeyConflict databases s t := by
  constructor
  · rintro (⟨hvalid, s, hs, hchange⟩ | ⟨hvalid, hnone⟩)
    · refine ⟨hvalid, ?_⟩
      rintro ⟨s', hs', hkey, hdiffers⟩
      obtain ⟨i, hget⟩ := List.mem_iff_getElem?.mp hs
      obtain ⟨i', hget'⟩ := List.mem_iff_getElem?.mp hs'
      have hindex := honce.eq_of_sameKey hget' hget (hkey.trans hchange.1)
      rw [hindex, hget] at hget'
      cases hget'
      exact hdiffers hchange.symm
    · exact ⟨hvalid, fun ⟨s, hs, hkey, _⟩ => hnone ⟨s, hs, hkey.symm⟩⟩
  · rintro ⟨hvalid, hnone⟩
    by_cases hkey : ∃ s ∈ toLookup, SameKey databases t s
    · obtain ⟨s, hs, hkey⟩ := hkey
      refine .inl ⟨hvalid, s, hs, ?_⟩
      by_contra hdiffers
      exact hnone ⟨s, hs, hkey.symm, fun hchange => hdiffers hchange.symm⟩
    · exact .inr ⟨hvalid, hkey⟩

/-- A statement of the other list is applied unless it is in a conflict pair. -/
lemma lookedPlace_applied_iff (honce : OncePerKey databases toBuild) (s : Statement V) :
    lookedPlace databases invalid isOurs toBuild s .matched ∨
        lookedPlace databases invalid isOurs toBuild s .extra ↔
      invalid.get? s.table = none ∧ ¬ ((∃ t ∈ toBuild, PrimaryKeyConflict databases t s) ∨
        (¬ ∃ t ∈ toBuild, SameChange databases t s) ∧ ∃ j, Meets databases isOurs toBuild j s) := by
  obtain ⟨place, hplace, hunique⟩ := @existsUnique_lookedPlace V _ databases invalid isOurs toBuild
    honce s
  constructor
  · intro happlied
    have hne : place ≠ .conflicting ∧ place ≠ .invalidTable := by
      rcases happlied with hmatched | hextra
      · rw [← hunique .matched hmatched]
        exact ⟨nofun, nofun⟩
      · rw [← hunique .extra hextra]
        exact ⟨nofun, nofun⟩
    have hvalid : invalid.get? s.table = none := by
      by_contra hinvalid
      exact hne.2 (hunique .invalidTable hinvalid).symm
    exact ⟨hvalid, fun hconflict => hne.1 (hunique .conflicting ⟨hvalid, hconflict⟩).symm⟩
  · rintro ⟨hvalid, hnone⟩
    cases place with
    | matched => exact .inl hplace
    | extra => exact .inr hplace
    | conflicting => exact absurd hplace.2 hnone
    | invalidTable => exact absurd hvalid hplace

lemma ascending_of_readLooks
    (hl : readLooks databases cursor effects (validOf invalid toLookup) = .ok looked) :
    looked.Pairwise fun first second => first.index < second.index := by
  have hsorted : (validOf invalid toLookup).Pairwise fun first second => first.2 < second.2 := by
    refine List.Pairwise.filter _ (List.pairwise_map.mp ?_)
    rw [List.zipIdx_map_snd]
    exact List.pairwise_lt_range' 1 Nat.one_pos
  refine pairwise_of_mapM (fun {first second _ _} hfirst hsecond hlt => ?_) hl hsorted
  rw [(Statement.look_fields hfirst).2.1, (Statement.look_fields hsecond).2.1]
  exact hlt

lemma nodup_indices_looked
    (hl : readLooks databases cursor effects (validOf invalid toLookup) = .ok looked) :
    (looked.map (·.index)).Nodup :=
  List.pairwise_map.mpr ((ascending_of_readLooks hl).imp fun {_ _} hlt => hlt.ne)

lemma nodup_remainingEntries {built work : Work V} (hdistinct : KeysDistinct effects)
    (hascending : Ascending effects)
    (hbuilt : ∀ table, built.tables.get? table =
      if onTable effects table = [] then none
      else some (tableState databases table (onTable effects table)))
    (hlooked : LookedUp isOurs built toLookup.zipIdx looked work) :
    (remainingEntries work.tables).Nodup := by
  -- each entry is that of a statement, and the index tells which one
  have hentry : ∀ table state, (table, state) ∈ work.tables.entries →
      ∀ key data, (key, data) ∈ state.primaryKeyValueToData.entries →
      ∃ effect ∈ effects, effect.table = table ∧ effect.key = key ∧ effect.index = data.index := by
    intro table state hstate key data hdata
    have htable := hlooked.tables table
    rw [Dict.get?_eq_some_iff.mpr hstate, hbuilt] at htable
    by_cases htouched : onTable effects table = []
    · rw [if_pos htouched] at htable
      cases htable
    · rw [if_neg htouched] at htable
      cases htable
      have hget : ((takenKeys looked table).foldl Dict.erase
          (tableState databases table (onTable effects table)).primaryKeyValueToData).get? key =
          some data := Dict.get?_eq_some_iff.mpr hdata
      rw [Dict.get?_foldl_erase] at hget
      split at hget
      · cases hget
      · rw [tableState, Dict.get?_setAll, Dict.get?_empty, Option.or_none] at hget
        obtain ⟨effect, hmem, rfl, rfl, rfl⟩ := (partner_eq_some_iff hdistinct).mp hget
        exact ⟨effect, hmem, rfl, rfl, rfl⟩
  have hindex : ∀ first ∈ effects, ∀ second ∈ effects, first.index = second.index →
      first = second := by
    intro first hfirst second hsecond hsame
    have hnodup : (effects.map (·.index)).Nodup :=
      List.pairwise_map.mpr (hascending.imp fun hlt => hlt.ne)
    exact List.inj_on_of_nodup_map hnodup hfirst hsecond hsame
  rw [remainingEntries, Dict.values, List.flatMap_map, List.nodup_flatMap]
  refine ⟨?_, ?_⟩
  · rintro ⟨table, state⟩ hstate
    have hkeys := state.primaryKeyValueToData.nodup
    rw [Dict.values, List.map_map]
    refine List.pairwise_map.mpr ((List.pairwise_map.mp hkeys).imp_of_mem ?_)
    rintro ⟨firstKey, firstData⟩ ⟨secondKey, secondData⟩ hfirst hsecond hne hsame
    obtain ⟨first, hfirstMem, -, rfl, hfirstIndex⟩ := hentry table state hstate _ _ hfirst
    obtain ⟨second, hsecondMem, -, rfl, hsecondIndex⟩ := hentry table state hstate _ _ hsecond
    refine hne (congrArg Effect.key (hindex first hfirstMem second hsecondMem ?_))
    rw [hfirstIndex, hsecondIndex]
    exact hsame
  · refine (List.pairwise_map.mp work.tables.nodup).imp_of_mem ?_
    rintro ⟨firstTable, firstState⟩ ⟨secondTable, secondState⟩ hfirstState hsecondState hne
    intro index hfirst hsecond
    obtain ⟨firstData, hfirstData, hfirstIndex⟩ := List.mem_map.mp hfirst
    obtain ⟨secondData, hsecondData, hsecondIndex⟩ := List.mem_map.mp hsecond
    obtain ⟨firstEntry, hfirstEntry, rfl⟩ := List.mem_map.mp hfirstData
    obtain ⟨secondEntry, hsecondEntry, rfl⟩ := List.mem_map.mp hsecondData
    obtain ⟨first, hfirstMem, rfl, -, hfirstSame⟩ := hentry _ _ hfirstState _ _ hfirstEntry
    obtain ⟨second, hsecondMem, rfl, -, hsecondSame⟩ := hentry _ _ hsecondState _ _ hsecondEntry
    refine hne (congrArg Effect.table (hindex first hfirstMem second hsecondMem ?_))
    rw [hfirstSame, hsecondSame, hfirstIndex, hsecondIndex]

omit [DecidableEq V] in
lemma mem_matched_look {look : Looked V} {i : ℕ} : i ∈ look.matched isOurs ↔
    ∃ k, look.verdict = .matched k ∧ i = if isOurs then k else look.index := by
  cases hverdict : look.verdict <;> simp [Looked.matched, hverdict]

lemma nodup_matched (honceBuild : OncePerKey databases toBuild)
    (honceLookup : OncePerKey databases toLookup)
    (h : readEffects databases (databases.cursor isOurs) (validOf invalid toBuild) = .ok effects)
    (hl : readLooks databases (databases.cursor !isOurs) effects (validOf invalid toLookup) =
      .ok looked) : (looked.flatMap (·.matched isOurs)).Nodup := by
  refine List.nodup_flatMap.mpr ⟨fun look _ => ?_, ?_⟩
  · cases hverdict : look.verdict <;> simp [Looked.matched, hverdict]
  · refine (List.pairwise_map.mp (nodup_indices_looked hl)).imp_of_mem ?_
    intro first second hfirst hsecond hne i hi hi'
    obtain ⟨k, hverdict, hk⟩ := mem_matched_look.mp hi
    obtain ⟨k', hverdict', hk'⟩ := mem_matched_look.mp hi'
    rw [hk] at hk'
    cases isOurs with
    | false => exact hne hk'
    | true =>
      obtain ⟨s, hs, -, -, hjudged, -⟩ := judged_of_mem h hl honceBuild hfirst
      obtain ⟨s', hs', -, -, hjudged', -⟩ := judged_of_mem h hl honceBuild hsecond
      obtain ⟨t, ht, hchange⟩ := (hjudged.matched k).mp hverdict
      obtain ⟨t', ht', hchange'⟩ := (hjudged'.matched k').mp hverdict'
      have hsame : k = k' := hk'
      rw [← hsame, ht] at ht'
      cases ht'
      exact hne (honceLookup.eq_of_sameKey hs hs' (hchange.1.symm.trans hchange'.1))

structure Selected (databases : Databases V) (invalid : Dict String InvalidTableState)
    (baseToOurs baseToTheirs : List (Statement V)) (buckets : DiffBuckets) : Prop where
  ours : ∀ i, i ∈ buckets.matchedOursIndices ++ buckets.extraOursIndices ↔
    ∃ s, baseToOurs[i]? = some s ∧ ¬ HeldBack databases invalid baseToOurs baseToTheirs true s
  theirs : ∀ i, i ∈ buckets.extraTheirsIndices ↔
    ∃ s, baseToTheirs[i]? = some s ∧ ¬ HeldBack databases invalid baseToOurs baseToTheirs false s ∧
      ¬ ∃ other ∈ baseToOurs, SameChange databases other s
  nodupOurs : (buckets.matchedOursIndices ++ buckets.extraOursIndices).Nodup
  nodupTheirs : buckets.extraTheirsIndices.Nodup

section selected

variable {baseToOurs baseToTheirs : List (Statement V)} {comparison : Comparison V}

lemma nodup_remaining_of_ok (hside : isOurs = hashesOurs baseToOurs baseToTheirs)
    (hbuild : toBuild = ofSide isOurs baseToOurs baseToTheirs)
    (hlookup : toLookup = ofSide isOurs baseToTheirs baseToOurs)
    (honceBuild : OncePerKey databases toBuild) (honceLookup : OncePerKey databases toLookup)
    (hfit : PartnersFit databases invalid (databases.cursor isOurs) toBuild toLookup)
    (hrun : checkConflictAndReturnDiffs databases baseToOurs baseToTheirs invalid =
      .ok comparison) :
    (ofSide isOurs comparison.buckets.extraOursIndices
      comparison.buckets.extraTheirsIndices).Nodup := by
  rw [check_eq, ← hside] at hrun
  simp only [← hbuild, ← hlookup, bind_eq_ok, pure_eq_ok] at hrun
  obtain ⟨built, hbuildRun, work, hlookupRun, rfl⟩ := hrun
  obtain ⟨effects, heffects, hbuilt⟩ := (start_built databases invalid isOurs).run hbuildRun
  rw [List.nil_append, List.nil_append] at hbuilt
  have honce : OncePerKey databases (([] ++ toLookup.zipIdx).map Prod.fst) := by
    rw [List.nil_append, List.zipIdx_map_fst]
    exact honceLookup
  obtain ⟨hend, -⟩ := (start_lookedUp isOurs built).run hbuilt.tables honce
    (hfit effects heffects) fun look hlook => by cases hlook
  obtain ⟨looked, -, hlooked⟩ := hend work hlookupRun
  have hremaining := nodup_remainingEntries (keysDistinct_of_oncePerKey honceBuild heffects)
    (ascending_of_readEffects heffects) hbuilt.tables hlooked
  cases isOurs <;> exact hremaining

omit [DecidableEq V] in
lemma mem_iff_of_places {list : List (Statement V)} {indices : List ℕ} {P : Statement V → Prop}
    (hvalid : ∀ i ∈ indices, ∃ s, list[i]? = some s)
    (h : ∀ i s, list[i]? = some s → (i ∈ indices ↔ P s)) (i : ℕ) :
    i ∈ indices ↔ ∃ s, list[i]? = some s ∧ P s := by
  constructor
  · intro hi
    obtain ⟨s, hs⟩ := hvalid i hi
    exact ⟨s, hs, (h i s hs).mp hi⟩
  · rintro ⟨s, hs, hP⟩
    exact (h i s hs).mpr hP

lemma not_heldBack_hashed {side : Bool} (hside : side = hashesOurs baseToOurs baseToTheirs)
    {t : Statement V} :
    ¬ HeldBack databases invalid baseToOurs baseToTheirs side t ↔
      invalid.get? t.table = none ∧
        ¬ ∃ s ∈ ofSide side baseToTheirs baseToOurs, PrimaryKeyConflict databases s t := by
  rw [HeldBack, ← hside]
  simp

lemma not_heldBack_looked {side : Bool} (hside : (!side) = hashesOurs baseToOurs baseToTheirs)
    {s : Statement V} :
    ¬ HeldBack databases invalid baseToOurs baseToTheirs side s ↔
      invalid.get? s.table = none ∧
        ¬ ((∃ t ∈ ofSide side baseToTheirs baseToOurs, PrimaryKeyConflict databases t s) ∨
          (¬ ∃ t ∈ ofSide side baseToTheirs baseToOurs, SameChange databases t s) ∧
            ∃ j, Meets databases (!side) (ofSide side baseToTheirs baseToOurs) j s) := by
  rw [HeldBack, ← hside]
  simp [not_or]

/-- A statement of the hashed list is extra if it is applied and the other side does not make the same
change. -/
lemma hashedPlace_extra_iff (honce : OncePerKey databases toLookup) (j : ℕ) (t : Statement V) :
    hashedPlace databases invalid isOurs toBuild toLookup j t .extra ↔
      (invalid.get? t.table = none ∧ ¬ ∃ s ∈ toLookup, PrimaryKeyConflict databases s t) ∧
        ¬ ∃ s ∈ toLookup, SameChange databases s t := by
  rw [← @hashedPlace_applied_iff V _ databases invalid isOurs toBuild toLookup honce j t]
  constructor
  · exact fun h => ⟨.inr h, fun ⟨s, hs, hchange⟩ => h.2 ⟨s, hs, hchange.1.symm⟩⟩
  · rintro ⟨⟨-, s, hs, hchange⟩ | hextra, hnone⟩
    · exact absurd ⟨s, hs, hchange.symm⟩ hnone
    · exact hextra

lemma lookedPlace_extra_iff (honce : OncePerKey databases toBuild) (s : Statement V) :
    lookedPlace databases invalid isOurs toBuild s .extra ↔
      (invalid.get? s.table = none ∧ ¬ ((∃ t ∈ toBuild, PrimaryKeyConflict databases t s) ∨
        (¬ ∃ t ∈ toBuild, SameChange databases t s) ∧
          ∃ j, Meets databases isOurs toBuild j s)) ∧
        ¬ ∃ t ∈ toBuild, SameChange databases t s := by
  rw [← lookedPlace_applied_iff honce]
  constructor
  · exact fun h => ⟨.inr h, fun ⟨t, ht, hchange⟩ => h.2.1 ⟨t, ht, hchange.1⟩⟩
  · rintro ⟨⟨-, hmatched⟩ | hextra, hnone⟩
    · exact absurd hmatched hnone
    · exact hextra

variable (hfresh : Fresh invalid)
  (hc : Compared databases invalid isOurs toBuild toLookup effects looked comparison)
  (h : readEffects databases (databases.cursor isOurs) (validOf invalid toBuild) = .ok effects)
  (hl : readLooks databases (databases.cursor !isOurs) effects (validOf invalid toLookup) =
    .ok looked)
  (honceBuild : OncePerKey databases toBuild) (honceLookup : OncePerKey databases toLookup)
include hc h

lemma exists_of_mem_hashedExtra {j : ℕ}
    (hj : j ∈ (if isOurs then comparison.buckets.extraOursIndices
      else comparison.buckets.extraTheirsIndices)) : ∃ t, toBuild[j]? = some t := by
  obtain ⟨effect, heffect, rfl, -⟩ := (hc.hashedExtra j).mp hj
  obtain ⟨t, hget, -⟩ := mem_of_readEffects h heffect
  exact ⟨t, hget⟩

include hl honceBuild

lemma exists_of_mem_lookedExtra {i : ℕ}
    (hi : i ∈ (if isOurs then comparison.buckets.extraTheirsIndices
      else comparison.buckets.extraOursIndices)) : ∃ s, toLookup[i]? = some s := by
  rw [hc.lookedExtra, mem_extra] at hi
  obtain ⟨look, hlook, rfl, -⟩ := hi
  obtain ⟨s, hget, -⟩ := judged_of_mem h hl honceBuild hlook
  exact ⟨s, hget⟩

lemma exists_of_mem_matched {i : ℕ} (hi : i ∈ comparison.buckets.matchedOursIndices) :
    ∃ s, (if isOurs then toBuild else toLookup)[i]? = some s := by
  rw [hc.matched, mem_matched] at hi
  obtain ⟨look, hlook, k, hverdict, rfl⟩ := hi
  obtain ⟨s, hget, -, -, hjudged, -⟩ := judged_of_mem h hl honceBuild hlook
  cases isOurs with
  | false => exact ⟨s, hget⟩
  | true =>
    obtain ⟨t, ht, -⟩ := (hjudged.matched k).mp hverdict
    exact ⟨t, ht⟩

omit h honceBuild in
lemma nodup_lookedExtra :
    (if isOurs then comparison.buckets.extraTheirsIndices
      else comparison.buckets.extraOursIndices).Nodup := by
  rw [hc.lookedExtra]
  exact (nodup_indices_looked hl).sublist (List.Sublist.map _ List.filter_sublist)

end selected

section sides

variable {baseToOurs baseToTheirs : List (Statement V)} {comparison : Comparison V}

omit [DecidableEq V] in
lemma nodup_append_of_places {list : List (Statement V)} {matched extra : List ℕ}
    (hmatched : matched.Nodup) (hextra : extra.Nodup)
    (hvalid : ∀ i ∈ matched, ∃ s, list[i]? = some s)
    (happart : ∀ i s, list[i]? = some s → i ∈ matched → i ∉ extra) :
    (matched ++ extra).Nodup := by
  refine List.nodup_append.mpr ⟨hmatched, hextra, ?_⟩
  rintro i hi j hj rfl
  obtain ⟨s, hs⟩ := hvalid i hi
  exact happart i s hs hi hj

lemma selected_of_hashed_ours (hside : hashesOurs baseToOurs baseToTheirs = true)
    (hfresh : Fresh invalid) (hours : OncePerKey databases baseToOurs)
    (htheirs : OncePerKey databases baseToTheirs)
    (h : readEffects databases (databases.cursor true) (validOf invalid baseToOurs) = .ok effects)
    (hl : readLooks databases (databases.cursor !true) effects (validOf invalid baseToTheirs) =
      .ok looked)
    (hc : Compared databases invalid true baseToOurs baseToTheirs effects looked comparison)
    (hnodup : comparison.buckets.extraOursIndices.Nodup) :
    Selected databases invalid baseToOurs baseToTheirs comparison.buckets := by
  obtain ⟨hhashed, hlooked⟩ := places_of_hashed_ours hfresh hours h hl hc
  have hmatchedValid : ∀ i ∈ comparison.buckets.matchedOursIndices, ∃ s, baseToOurs[i]? = some s :=
    fun i hi => exists_of_mem_matched hc h hl hours hi
  have hmatchedNodup : comparison.buckets.matchedOursIndices.Nodup := by
    rw [hc.matched]
    exact nodup_matched hours htheirs h hl
  refine ⟨fun i => ?_, fun i => ?_, ?_, nodup_lookedExtra hc hl⟩
  · refine mem_iff_of_places (fun i hi => ?_) (fun i t ht => ?_) i
    · rcases List.mem_append.mp hi with hi | hi
      · exact hmatchedValid i hi
      · exact exists_of_mem_hashedExtra hc h hi
    · rw [List.mem_append, not_heldBack_hashed hside.symm]
      exact (or_congr (hhashed i t ht .matched) (hhashed i t ht .extra)).trans
        (hashedPlace_applied_iff htheirs i t)
  · refine mem_iff_of_places (fun i hi => exists_of_mem_lookedExtra hc h hl hours hi)
      (fun i s hs => ?_) i
    have hlookedSide : (!false) = hashesOurs baseToOurs baseToTheirs := hside.symm
    rw [not_heldBack_looked hlookedSide]
    exact (hlooked i s hs .extra).trans (lookedPlace_extra_iff hours s)
  · refine nodup_append_of_places hmatchedNodup hnodup hmatchedValid fun i t ht hmatched hextra => ?_
    obtain ⟨-, s, hs, hchange⟩ := (hhashed i t ht .matched).mp hmatched
    exact ((hhashed i t ht .extra).mp hextra).2 ⟨s, hs, hchange.1⟩

lemma selected_of_hashed_theirs (hside : hashesOurs baseToOurs baseToTheirs = false)
    (hfresh : Fresh invalid) (hours : OncePerKey databases baseToOurs)
    (htheirs : OncePerKey databases baseToTheirs)
    (h : readEffects databases (databases.cursor false) (validOf invalid baseToTheirs) = .ok effects)
    (hl : readLooks databases (databases.cursor !false) effects (validOf invalid baseToOurs) =
      .ok looked)
    (hc : Compared databases invalid false baseToTheirs baseToOurs effects looked comparison)
    (hnodup : comparison.buckets.extraTheirsIndices.Nodup) :
    Selected databases invalid baseToOurs baseToTheirs comparison.buckets := by
  obtain ⟨hhashed, hlooked⟩ := places_of_hashed_theirs hfresh htheirs h hl hc
  have hmatchedValid : ∀ i ∈ comparison.buckets.matchedOursIndices, ∃ s, baseToOurs[i]? = some s :=
    fun i hi => exists_of_mem_matched hc h hl htheirs hi
  have hmatchedNodup : comparison.buckets.matchedOursIndices.Nodup := by
    rw [hc.matched]
    exact nodup_matched htheirs hours h hl
  refine ⟨fun i => ?_, fun i => ?_, ?_, hnodup⟩
  · refine mem_iff_of_places (fun i hi => ?_) (fun i s hs => ?_) i
    · rcases List.mem_append.mp hi with hi | hi
      · exact hmatchedValid i hi
      · exact exists_of_mem_lookedExtra hc h hl htheirs hi
    · have hlookedSide : (!true) = hashesOurs baseToOurs baseToTheirs := hside.symm
      rw [List.mem_append, not_heldBack_looked hlookedSide]
      exact (or_congr (hlooked i s hs .matched) (hlooked i s hs .extra)).trans
        (lookedPlace_applied_iff htheirs s)
  · refine mem_iff_of_places (fun i hi => exists_of_mem_hashedExtra hc h hi) (fun i t ht => ?_) i
    rw [not_heldBack_hashed hside.symm]
    exact (hhashed i t ht .extra).trans (hashedPlace_extra_iff hours i t)
  · refine nodup_append_of_places hmatchedNodup (nodup_lookedExtra hc hl) hmatchedValid
      fun i s hs hmatched hextra => ?_
    obtain ⟨-, t, ht, hchange⟩ := (hlooked i s hs .matched).mp hmatched
    exact ((hlooked i s hs .extra).mp hextra).2.1 ⟨t, ht, hchange.1⟩

/-- Both sides have a row diff, and no statement was recorded for an invalid table yet. -/
structure Diffs (databases : Databases V) (invalid : Dict String InvalidTableState)
    (baseToOurs baseToTheirs : List (Statement V)) : Prop where
  base : BaseOk databases
  ours : RowDiff databases databases.ours baseToOurs
  theirs : RowDiff databases databases.theirs baseToTheirs
  fresh : Fresh invalid

lemma knownKeys_of_rowDiff (hb : BaseOk databases) {snapshot : Snapshot V}
    {statements : List (Statement V)} (hdiff : RowDiff databases snapshot statements) :
    KnownKeys databases statements := by
  rintro ⟨table, change⟩ hmem key hkey
  have hfits := hdiff.fits _ hmem
  cases change with
  | insert columns =>
    refine iff_of_true rfl fun row hrow hsame => hfits.change.2.2 row hrow ?_
    exact agree_of_rowKey hb.toSupported hfits.change.2.1 (hsame.trans (key_of_insert hkey))
  | update assignments predicates =>
    obtain ⟨target, htarget⟩ := exists_targets_of_update hfits hkey
    exact iff_of_false nofun fun hnone => hnone target htarget.mem htarget.key
  | delete predicates =>
    obtain ⟨target, htarget⟩ := exists_targets_of_delete hfits hkey
    exact iff_of_false nofun fun hnone => hnone target htarget.mem htarget.key

/-- The statements that are applied, in a comparison that ends. -/
lemma selected_of_ok (hd : Diffs databases invalid baseToOurs baseToTheirs)
    (hrun : checkConflictAndReturnDiffs databases baseToOurs baseToTheirs invalid =
      .ok comparison) :
    Selected databases invalid baseToOurs baseToTheirs comparison.buckets := by
  have hours := hd.ours.once
  have htheirs := hd.theirs.once
  have hknownOurs := knownKeys_of_rowDiff hd.base hd.ours
  have hknownTheirs := knownKeys_of_rowDiff hd.base hd.theirs
  cases hside : hashesOurs baseToOurs baseToTheirs with
  | true =>
    have hfit : PartnersFit databases invalid (databases.cursor true) baseToOurs baseToTheirs :=
      partnersFit hours hknownOurs hknownTheirs
    obtain ⟨effects, looked, h, hl, hc⟩ := compared_of_ok hside.symm rfl rfl hours htheirs hfit hrun
    have hnodup := nodup_remaining_of_ok hside.symm rfl rfl hours htheirs hfit hrun
    exact selected_of_hashed_ours hside hd.fresh hours htheirs h hl hc hnodup
  | false =>
    have hfit : PartnersFit databases invalid (databases.cursor false) baseToTheirs baseToOurs :=
      partnersFit htheirs hknownTheirs hknownOurs
    obtain ⟨effects, looked, h, hl, hc⟩ := compared_of_ok hside.symm rfl rfl htheirs hours hfit hrun
    have hnodup := nodup_remaining_of_ok hside.symm rfl rfl htheirs hours hfit hrun
    exact selected_of_hashed_theirs hside hd.fresh hours htheirs h hl hc hnodup

omit [DecidableEq V] in
lemma mapM_statementAt {list : List (Statement V)} {indices : List ℕ}
    (h : ∀ i ∈ indices, ∃ s, list[i]? = some s) :
    indices.mapM (statementAt list) = .ok (indices.filterMap (list[·]?)) := by
  induction indices with
  | nil => rfl
  | cons i rest ih =>
    obtain ⟨s, hs⟩ := h i List.mem_cons_self
    have hstatement : statementAt list i = .ok s := by rw [statementAt, hs]
    rw [mapM_cons, hstatement, ih fun j hj => h j (List.mem_cons_of_mem _ hj),
      List.filterMap_cons_some hs]
    rfl

omit [DecidableEq V] in
lemma oncePerKey_filterMap {list : List (Statement V)} {indices : List ℕ}
    (honce : OncePerKey databases list) (hnodup : indices.Nodup) :
    OncePerKey databases (indices.filterMap (list[·]?)) := by
  refine List.pairwise_filterMap.mpr (hnodup.imp fun {i j} hne s hs t ht htable key hkey hkey' => ?_)
  exact hne (honce.eq_of_sameKey hs ht ⟨htable, key, hkey, hkey'⟩)

structure Applied (databases : Databases V) (invalid : Dict String InvalidTableState)
    (baseToOurs baseToTheirs statements : List (Statement V)) : Prop where
  mem : ∀ s, s ∈ statements ↔
    (s ∈ baseToOurs ∧ ¬ HeldBack databases invalid baseToOurs baseToTheirs true s) ∨
    (s ∈ baseToTheirs ∧ ¬ HeldBack databases invalid baseToOurs baseToTheirs false s ∧
      ¬ ∃ other ∈ baseToOurs, SameChange databases other s)
  once : OncePerKey databases statements

omit [DecidableEq V] in
lemma mem_filterMap_of_iff {list : List (Statement V)} {indices : List ℕ} {P : Statement V → Prop}
    (h : ∀ i, i ∈ indices ↔ ∃ s, list[i]? = some s ∧ P s) (s : Statement V) :
    s ∈ indices.filterMap (list[·]?) ↔ s ∈ list ∧ P s := by
  rw [List.mem_filterMap]
  constructor
  · rintro ⟨i, hi, hget⟩
    obtain ⟨s', hs', hP⟩ := (h i).mp hi
    rw [hget] at hs'
    cases hs'
    exact ⟨List.mem_of_getElem? hget, hP⟩
  · rintro ⟨hs, hP⟩
    obtain ⟨i, hget⟩ := List.mem_iff_getElem?.mp hs
    exact ⟨i, (h i).mpr ⟨s, hget, hP⟩, hget⟩

lemma applied_of_ok (hd : Diffs databases invalid baseToOurs baseToTheirs)
    (hrun : checkConflictAndReturnDiffs databases baseToOurs baseToTheirs invalid =
      .ok comparison) :
    ∃ statements, stmtsToApply baseToOurs baseToTheirs comparison.buckets = .ok statements ∧
      Applied databases invalid baseToOurs baseToTheirs statements := by
  have hsel := selected_of_ok hd hrun
  have hours : ∀ i ∈ comparison.buckets.matchedOursIndices ++ comparison.buckets.extraOursIndices,
      ∃ s, baseToOurs[i]? = some s := by
    intro i hi
    obtain ⟨s, hs, -⟩ := (hsel.ours i).mp hi
    exact ⟨s, hs⟩
  have htheirs : ∀ i ∈ comparison.buckets.extraTheirsIndices, ∃ s, baseToTheirs[i]? = some s := by
    intro i hi
    obtain ⟨s, hs, -⟩ := (hsel.theirs i).mp hi
    exact ⟨s, hs⟩
  have hmatched := mapM_statementAt fun i hi => hours i (List.mem_append_left _ hi)
  have hextra := mapM_statementAt fun i hi => hours i (List.mem_append_right _ hi)
  refine ⟨_, by rw [stmtsToApply, hmatched, hextra, mapM_statementAt htheirs]; rfl, ?_, ?_⟩
  · intro s
    rw [← List.filterMap_append, List.mem_append]
    exact or_congr (mem_filterMap_of_iff hsel.ours s) (mem_filterMap_of_iff hsel.theirs s)
  · rw [← List.filterMap_append]
    refine List.pairwise_append.mpr ⟨oncePerKey_filterMap hd.ours.once hsel.nodupOurs,
      oncePerKey_filterMap hd.theirs.once hsel.nodupTheirs, ?_⟩
    intro s hs t ht htable key hsKey htKey
    obtain ⟨hsMem, hsFree⟩ := (mem_filterMap_of_iff hsel.ours s).mp hs
    obtain ⟨htMem, htFree, hnone⟩ := (mem_filterMap_of_iff hsel.theirs t).mp ht
    have hkey : SameKey databases s t := ⟨htable, key, hsKey, htKey⟩
    refine htFree (.inr (.inl ⟨s, hsMem, hkey, fun hchange => hnone ⟨s, hsMem, hchange⟩⟩))

omit [DecidableEq V] in
lemma insertedRow_eq {table : String} {first second : List (String × V)}
    (hkey : rowKey databases table (insertedRow databases first) =
      rowKey databases table (insertedRow databases second))
    (hliterals : (placedColumns databases table first).2 = (placedColumns databases table second).2) :
    insertedRow databases first = insertedRow databases second := by
  have hfirst := (@placedFrom_columns V databases table first).literals
  have hsecond := (@placedFrom_columns V databases table second).literals
  funext column
  by_cases hcolumn : column ∈ (databases.primaryKeys table).keys
  · exact rowKey_eq_iff.mp hkey column hcolumn
  · rw [hfirst column hcolumn, hsecond column hcolumn, hliterals]

lemma written_eq_of_sameChange (hb : BaseOk databases) {first second : Statement V}
    (hfirst : first.Fits databases) (hsecond : second.Fits databases)
    (hchange : SameChange databases first second) :
    first.written databases = second.written databases := by
  obtain ⟨⟨htable, key, hfirstKey, hsecondKey⟩, hkind, hliterals⟩ := hchange
  obtain ⟨table, firstChange⟩ := first
  obtain ⟨table', secondChange⟩ := second
  cases htable
  cases firstChange with
  | insert columns =>
    cases secondChange with
    | insert columns' =>
      have hrows : rowKey databases table (insertedRow databases columns) =
          rowKey databases table (insertedRow databases columns') := by
        rw [← key_of_insert hfirstKey, ← key_of_insert hsecondKey]
      exact congrArg some (insertedRow_eq hrows (Option.some.inj hliterals))
    | update assignments predicates => cases hkind
    | delete predicates => cases hkind
  | update assignments predicates =>
    cases secondChange with
    | insert columns => cases hkind
    | update assignments' predicates' =>
      obtain ⟨target, htarget⟩ := exists_targets_of_update hfirst hfirstKey
      obtain ⟨target', htarget'⟩ := exists_targets_of_update hsecond hsecondKey
      have hsame : target = target' := (start_reached hb).keysApart table target htarget.mem target'
        htarget'.mem (htarget.key.trans htarget'.key.symm)
      have hcolumns : columnToLiteral assignments = columnToLiteral assignments' :=
        Option.some.inj hliterals
      have hassign : assign assignments target = assign assignments' target' := by
        funext column
        rw [assign_eq_columnToLiteral, assign_eq_columnToLiteral, hcolumns, hsame]
      rw [htarget.written hb, htarget'.written hb, hassign]
    | delete predicates' => cases hkind
  | delete predicates =>
    cases secondChange with
    | insert columns => cases hkind
    | update assignments predicates' => cases hkind
    | delete predicates' => rfl

/-- What one version of a thing and another one merge to, which come from one base. -/
def Merges {α : Type} (base ours theirs merged : α) : Prop :=
  (theirs = base ∧ merged = ours) ∨ (ours = base ∧ merged = theirs) ∨
    (ours = theirs ∧ merged = ours)

/-- A row that a statement is about which is held back. -/
def HeldBackAt (databases : Databases V) (invalid : Dict String InvalidTableState)
    (baseToOurs baseToTheirs : List (Statement V)) (table : String) (key : KeyTuple V) : Prop :=
  ∃ isOurs, ∃ s ∈ ofSide isOurs baseToOurs baseToTheirs, s.On databases table key ∧
    HeldBack databases invalid baseToOurs baseToTheirs isOurs s

lemma RowDiff.rowAt_eq (hb : BaseOk databases) {snapshot : Snapshot V}
    {statements : List (Statement V)} (hdiff : RowDiff databases snapshot statements)
    (table : String) (key : KeyTuple V) :
    rowAt databases snapshot table key =
      rowAt databases (describedRows databases statements databases.base) table key :=
  rowAt_congr (describedRows_reached hb hdiff.fits hdiff.once).keysApart hdiff.reaches key

lemma RowDiff.rowAt_untouched (hb : BaseOk databases) {snapshot : Snapshot V}
    {statements : List (Statement V)} (hdiff : RowDiff databases snapshot statements)
    {table : String} {key : KeyTuple V} (hnone : ¬ ∃ s ∈ statements, s.On databases table key) :
    rowAt databases snapshot table key = rowAt databases databases.base table key := by
  rw [hdiff.rowAt_eq hb]
  exact (describedRows_reached hb hdiff.fits hdiff.once).rowAt_untouched hb hdiff.fits hnone

lemma RowDiff.rowAt_on (hb : BaseOk databases) {snapshot : Snapshot V}
    {statements : List (Statement V)} (hdiff : RowDiff databases snapshot statements)
    {table : String} {key : KeyTuple V} {s : Statement V} (hs : s ∈ statements)
    (hon : s.On databases table key) :
    rowAt databases snapshot table key = s.written databases := by
  rw [hdiff.rowAt_eq hb]
  exact (describedRows_reached hb hdiff.fits hdiff.once).rowAt_on hb hdiff.fits hdiff.once hs hon

/-- A statement of the other side about the row of a statement that is applied makes the same change,
and is not held back either. -/
lemma Diffs.not_heldBack_partner (hd : Diffs databases invalid baseToOurs baseToTheirs) (side : Bool)
    {s t : Statement V} (hs : s ∈ ofSide side baseToOurs baseToTheirs)
    (hfree : ¬ HeldBack databases invalid baseToOurs baseToTheirs side s)
    (ht : t ∈ ofSide (!side) baseToOurs baseToTheirs) (hkey : SameKey databases s t) :
    SameChange databases s t ∧
      ¬ HeldBack databases invalid baseToOurs baseToTheirs (!side) t := by
  have hs' : s ∈ ofSide (!side) baseToTheirs baseToOurs := by cases side <;> exact hs
  have ht' : t ∈ ofSide side baseToTheirs baseToOurs := by cases side <;> exact ht
  have hsame : SameChange databases s t := by
    by_contra hdiffers
    exact hfree (.inr (.inl ⟨t, ht', hkey.symm, fun h => hdiffers h.symm⟩))
  refine ⟨hsame, ?_⟩
  rintro (hinvalid | ⟨other, hother, hotherKey, hdiffers⟩ | ⟨-, hnone, -⟩)
  · rw [← hkey.1] at hinvalid
    exact hfree (.inl hinvalid)
  · have honce : OncePerKey databases (ofSide (!side) baseToTheirs baseToOurs) := by
      cases side
      · exact hd.theirs.once
      · exact hd.ours.once
    obtain ⟨htable, own, hown, hown'⟩ := hotherKey.trans hkey.symm
    have heq : other = s := honce.eq_of_on hother hs' ⟨htable, hown⟩ ⟨rfl, hown'⟩
    exact hdiffers (heq ▸ hsame)
  · exact hnone ⟨s, hs', hsame⟩

lemma Applied.fits (hd : Diffs databases invalid baseToOurs baseToTheirs)
    {statements : List (Statement V)}
    (ha : Applied databases invalid baseToOurs baseToTheirs statements) :
    ∀ s ∈ statements, s.Fits databases := by
  intro s hs
  rcases (ha.mem s).mp hs with ⟨hours, -⟩ | ⟨htheirs, -⟩
  · exact hd.ours.fits s hours
  · exact hd.theirs.fits s htheirs

section merged

variable {statements : List (Statement V)} {table : String} {key : KeyTuple V}
  (hd : Diffs databases invalid baseToOurs baseToTheirs)
  (ha : Applied databases invalid baseToOurs baseToTheirs statements)
include hd ha

lemma Applied.reached :
    Reached databases statements (describedRows databases statements databases.base) :=
  describedRows_reached hd.base (ha.fits hd) ha.once

lemma Applied.rowAt_heldBack
    (hheld : HeldBackAt databases invalid baseToOurs baseToTheirs table key) :
    rowAt databases (describedRows databases statements databases.base) table key =
      rowAt databases databases.base table key := by
  refine (ha.reached hd).rowAt_untouched hd.base (ha.fits hd) ?_
  rintro ⟨s, hs, hon⟩
  obtain ⟨isOurs, t, ht, hon', hheld⟩ := hheld
  have hkey : SameKey databases s t := ⟨hon.1.trans hon'.1.symm, key, hon.2, hon'.2⟩
  rcases (ha.mem s).mp hs with ⟨hours, hfree⟩ | ⟨htheirs, hfree, -⟩
  · cases isOurs with
    | true =>
      have heq := hd.ours.once.eq_of_on hours ht hon hon'
      exact hfree (heq ▸ hheld)
    | false => exact (hd.not_heldBack_partner true hours hfree ht hkey).2 hheld
  · cases isOurs with
    | true => exact (hd.not_heldBack_partner false htheirs hfree ht hkey).2 hheld
    | false =>
      have heq := hd.theirs.once.eq_of_on htheirs ht hon hon'
      exact hfree (heq ▸ hheld)

lemma Applied.rowAt_merges
    (hfree : ¬ HeldBackAt databases invalid baseToOurs baseToTheirs table key) :
    Merges (rowAt databases databases.base table key) (rowAt databases databases.ours table key)
      (rowAt databases databases.theirs table key)
      (rowAt databases (describedRows databases statements databases.base) table key) := by
  have hfreeOurs : ∀ s ∈ baseToOurs, s.On databases table key →
      ¬ HeldBack databases invalid baseToOurs baseToTheirs true s :=
    fun s hs hon hheld => hfree ⟨true, s, hs, hon, hheld⟩
  have hfreeTheirs : ∀ s ∈ baseToTheirs, s.On databases table key →
      ¬ HeldBack databases invalid baseToOurs baseToTheirs false s :=
    fun s hs hon hheld => hfree ⟨false, s, hs, hon, hheld⟩
  have hreached := ha.reached hd
  by_cases hours : ∃ s ∈ baseToOurs, s.On databases table key
  · obtain ⟨s, hs, hon⟩ := hours
    have hmem : s ∈ statements := (ha.mem s).mpr (.inl ⟨hs, hfreeOurs s hs hon⟩)
    have hmerged := hreached.rowAt_on hd.base (ha.fits hd) ha.once hmem hon
    have hoursRow := hd.ours.rowAt_on hd.base hs hon
    by_cases htheirs : ∃ t ∈ baseToTheirs, t.On databases table key
    · obtain ⟨t, ht, hon'⟩ := htheirs
      have hkey : SameKey databases s t := ⟨hon.1.trans hon'.1.symm, key, hon.2, hon'.2⟩
      have hchange : SameChange databases s t := by
        by_contra hdiffers
        exact hfreeTheirs t ht hon' (.inr (.inl ⟨s, hs, hkey, hdiffers⟩))
      have hrows := written_eq_of_sameChange hd.base (hd.ours.fits s hs) (hd.theirs.fits t ht) hchange
      refine .inr (.inr ⟨?_, hmerged.trans hoursRow.symm⟩)
      rw [hoursRow, hd.theirs.rowAt_on hd.base ht hon', hrows]
    · exact .inl ⟨hd.theirs.rowAt_untouched hd.base htheirs, hmerged.trans hoursRow.symm⟩
  · have hoursRow := hd.ours.rowAt_untouched hd.base hours
    by_cases htheirs : ∃ t ∈ baseToTheirs, t.On databases table key
    · obtain ⟨t, ht, hon⟩ := htheirs
      have hnone : ¬ ∃ other ∈ baseToOurs, SameChange databases other t := by
        rintro ⟨other, hother, ⟨htable, own, hown, hown'⟩, -⟩
        rw [hon.2] at hown'
        cases hown'
        exact hours ⟨other, hother, htable.trans hon.1, hown⟩
      have hmem : t ∈ statements := (ha.mem t).mpr (.inr ⟨ht, hfreeTheirs t ht hon, hnone⟩)
      have hmerged := hreached.rowAt_on hd.base (ha.fits hd) ha.once hmem hon
      exact .inr (.inl ⟨hoursRow, hmerged.trans (hd.theirs.rowAt_on hd.base ht hon).symm⟩)
    · have hnone : ¬ ∃ s ∈ statements, s.On databases table key := by
        rintro ⟨s, hs, hon⟩
        rcases (ha.mem s).mp hs with ⟨hours', -⟩ | ⟨htheirs', -⟩
        · exact hours ⟨s, hours', hon⟩
        · exact htheirs ⟨s, htheirs', hon⟩
      have hmerged := hreached.rowAt_untouched hd.base (ha.fits hd) hnone
      exact .inl ⟨hd.theirs.rowAt_untouched hd.base htheirs, hmerged.trans hoursRow.symm⟩

end merged

lemma Applied.plain {statements : List (Statement V)}
    (ha : Applied databases invalid baseToOurs baseToTheirs statements) {execute : Execute V}
    (hplain : Plain databases execute (baseToOurs ++ baseToTheirs)) :
    Plain databases execute statements := by
  intro s hs
  refine hplain s (List.mem_append.mpr ?_)
  exact ((ha.mem s).mp hs).imp And.left And.left

/-- Where SQLite refuses none of the statements that are applied, and none of them sets off a trigger
or a conflict clause, they lead to a three-way merge of the rows about which no statement is held
back, and leave the other rows as they are in the base. -/
theorem merged_rows (hd : Diffs databases invalid baseToOurs baseToTheirs)
    (hrun : checkConflictAndReturnDiffs databases baseToOurs baseToTheirs invalid =
      .ok comparison) :
    ∃ statements, stmtsToApply baseToOurs baseToTheirs comparison.buckets = .ok statements ∧
      ∀ execute, Plain databases execute (baseToOurs ++ baseToTheirs) →
        (runShell execute statements databases.base).2 = true → ∀ table key,
          let merged := rowAt databases (runShell execute statements databases.base).1 table key
          (HeldBackAt databases invalid baseToOurs baseToTheirs table key →
            merged = rowAt databases databases.base table key) ∧
          (¬ HeldBackAt databases invalid baseToOurs baseToTheirs table key →
            Merges (rowAt databases databases.base table key)
              (rowAt databases databases.ours table key)
              (rowAt databases databases.theirs table key) merged) := by
  obtain ⟨statements, happly, ha⟩ := applied_of_ok hd hrun
  refine ⟨statements, happly, fun execute hplain htaken table key => ?_⟩
  rw [runShell_of_taken (ha.plain hplain) htaken]
  exact ⟨fun hheld => ha.rowAt_heldBack hd hheld, fun hfree => ha.rowAt_merges hd hfree⟩

end sides

def account (id email : ℕ) : UserRow := fun column =>
  if column = "id" then some id else if column = "email" then some email else none

def onUsers (rows : List UserRow) : Snapshot (Option ℕ) := fun table =>
  if table = "users" then rows else []

/-- A base with one account, whose email ours changes. Theirs adds an account. -/
def accounts : Databases (Option ℕ) :=
  { users [] [] with
    base := onUsers [account 1 7]
    ours := onUsers [account 1 8]
    theirs := onUsers [account 1 7, account 2 9] }

def changeEmail : Statement (Option ℕ) :=
  ⟨"users", .update [("email", some 8)] [.eq "id" (some 1)]⟩

lemma mem_onUsers {rows : List UserRow} {table : String} {row : UserRow} :
    row ∈ onUsers rows table ↔ table = "users" ∧ row ∈ rows := by
  by_cases htable : table = "users" <;> simp [onUsers, htable]

lemma update_onUsers (rows changed : List UserRow) :
    Function.update (onUsers rows) "users" changed = onUsers changed := by
  funext table
  by_cases htable : table = "users" <;> simp [onUsers, htable]

lemma baseOk_accounts : BaseOk accounts where
  equal_refl _ _ value _ := decide_eq_true rfl
  equal_symm _ _ _ _ h := decide_eq_true (of_decide_eq_true h).symm
  plainIndexes _ index hindex := by
    cases List.mem_singleton.mp hindex
    simp
  constrained table := by
    show (if table = "users" then [account 1 7] else []).Pairwise _
    split
    · exact List.pairwise_singleton _ _
    · exact List.Pairwise.nil
  keyed table row hrow column hcolumn := by
    obtain ⟨-, hrow⟩ := mem_onUsers.mp hrow
    rw [List.mem_singleton.mp hrow, List.mem_singleton.mp hcolumn]
    exact nofun

lemma names_account : Names accounts "users" [.eq "id" (some 1)] (account 1 7) := by
  refine ⟨fun column hcolumn => ?_, fun predicate hpredicate => ⟨"id", List.mem_singleton_self _, ?_⟩⟩
  · rw [List.mem_singleton.mp hcolumn]
    exact List.mem_singleton_self _
  · exact List.mem_singleton.mp hpredicate

lemma assign_account : assign [("email", some 8)] (account 1 7) = account 1 8 := by
  funext column
  by_cases hemail : column = "email"
  · subst hemail
    rfl
  · refine (Function.update_of_ne hemail _ _).trans ?_
    by_cases hid : column = "id" <;> simp [account, hemail, hid]

lemma insertedRow_account (id email : ℕ) :
    insertedRow accounts [("id", some id), ("email", some email)] = account id email := by
  funext column
  by_cases hemail : column = "email"
  · subst hemail
    rfl
  · refine (Function.update_of_ne hemail _ _).trans ?_
    by_cases hid : column = "id"
    · subst hid
      rfl
    · refine (Function.update_of_ne hid _ _).trans ?_
      rw [account, if_neg hid, if_neg hemail]
      rfl

lemma described_changeEmail :
    changeEmail.described accounts accounts.base = onUsers [account 1 8] := by
  refine (update_onUsers _ _).trans (congrArg onUsers ?_)
  show [if selects accounts "users" [.eq "id" (some 1)] (account 1 7) = true then
    assign [("email", some 8)] (account 1 7) else account 1 7] = _
  rw [if_pos (by decide), assign_account]

lemma rowDiff_ours : RowDiff accounts accounts.ours [changeEmail] where
  once := List.pairwise_singleton _ _
  fits statement hstatement := by
    cases List.mem_singleton.mp hstatement
    refine ⟨⟨[some 1], rfl⟩, ⟨account 1 7, List.mem_singleton_self _, names_account⟩, ?_⟩
    intro assignment hassignment
    rw [List.mem_singleton.mp hassignment]
    decide
  reaches table row := by
    have hrows : describedRows accounts [changeEmail] accounts.base = onUsers [account 1 8] :=
      described_changeEmail
    rw [hrows]
    rfl

lemma rowDiff_insert (email : ℕ) :
    RowDiff accounts (onUsers [account 1 7, account 2 email]) [insertUser 2 email] where
  once := List.pairwise_singleton _ _
  fits statement hstatement := by
    cases List.mem_singleton.mp hstatement
    refine ⟨⟨[some 2], rfl⟩, by simp, ?_, ?_⟩
    · intro column hcolumn
      rw [List.mem_singleton.mp hcolumn, insertedRow_account]
      exact nofun
    · intro row hrow hagree
      have hbase : row ∈ onUsers [account 1 7] "users" := hrow
      rw [List.mem_singleton.mp (mem_onUsers.mp hbase).2, insertedRow_account] at hagree
      obtain ⟨name, hname, -, -, hequal⟩ := hagree (some "id") (List.mem_singleton_self _)
      cases hname
      cases hequal
  reaches table row := by
    have hrows : describedRows accounts [insertUser 2 email] accounts.base =
        onUsers [account 1 7, account 2 email] := by
      refine (update_onUsers _ _).trans (congrArg onUsers ?_)
      show [account 1 7, insertedRow accounts [("id", some 2), ("email", some email)]] = _
      rw [insertedRow_account]
    rw [hrows]

lemma diffs_accounts : Diffs accounts .empty [changeEmail] [insertUser 2 9] where
  base := baseOk_accounts
  ours := rowDiff_ours
  theirs := rowDiff_insert 9
  fresh table state h := by cases h

/-- SQLite on the accounts: it refuses two accounts with one id or one email. -/
def accountsExecute : Execute (Option ℕ) := fun snapshot statement =>
  let after := statement.described accounts snapshot
  if ((after "users").map (· "id")).Nodup ∧ ((after "users").map (· "email")).Nodup then (after, true)
  else (snapshot, false)

lemma plain_accountsExecute (statements : List (Statement (Option ℕ))) :
    Plain accounts accountsExecute statements := by
  intro statement _ snapshot htaken
  unfold accountsExecute at htaken ⊢
  dsimp only at htaken ⊢
  split
  · rfl
  · next hrefused =>
    rw [if_neg hrefused] at htaken
    cases htaken

/-- The email of one account and the other account are merged. -/
theorem merged_rows_accounts : ∃ comparison,
    checkConflictAndReturnDiffs accounts [changeEmail] [insertUser 2 9] .empty = .ok comparison ∧
    ∃ statements, stmtsToApply [changeEmail] [insertUser 2 9] comparison.buckets = .ok statements ∧
      (runShell accountsExecute statements accounts.base).2 = true ∧ ∀ table key,
        let merged := rowAt accounts (runShell accountsExecute statements accounts.base).1 table key
        (HeldBackAt accounts .empty [changeEmail] [insertUser 2 9] table key →
          merged = rowAt accounts accounts.base table key) ∧
        (¬ HeldBackAt accounts .empty [changeEmail] [insertUser 2 9] table key →
          Merges (rowAt accounts accounts.base table key) (rowAt accounts accounts.ours table key)
            (rowAt accounts accounts.theirs table key) merged) := by
  obtain ⟨comparison, hrun, happly⟩ : ∃ comparison,
      checkConflictAndReturnDiffs accounts [changeEmail] [insertUser 2 9] .empty = .ok comparison ∧
      stmtsToApply [changeEmail] [insertUser 2 9] comparison.buckets =
        .ok [changeEmail, insertUser 2 9] := ⟨_, rfl, rfl⟩
  have htaken : (runShell accountsExecute [changeEmail, insertUser 2 9] accounts.base).2 = true := by
    decide
  obtain ⟨statements, happly', hmerged⟩ := merged_rows diffs_accounts hrun
  cases happly.symm.trans happly'
  exact ⟨comparison, hrun, _, happly, htaken, hmerged accountsExecute (plain_accountsExecute _) htaken⟩

end SqliteReconcile.RowMerge
