import SqliteReconcile.RowVerdicts

/-!
# The places of the statements

A statement is matched, extra, in a conflict pair or recorded for an invalid table. A statement of
the hashed list that another one meets on a unique value stays among the extra ones, unless its key
was looked up.
-/
namespace SqliteReconcile.RowMerge
open Dicts Outcomes

variable {V : Type} [DecidableEq V]

inductive Place
  | matched
  | extra
  | conflicting
  | invalidTable
  deriving DecidableEq

/-- The places of the statement `i` of ours. -/
def Comparison.hasOurs (comparison : Comparison V) (i : ℕ) : Place → Prop
  | .matched => i ∈ comparison.buckets.matchedOursIndices
  | .extra => i ∈ comparison.buckets.extraOursIndices
  | .conflicting => ∃ pair ∈ comparison.buckets.conflictPairs.keys, pair.1 = i
  | .invalidTable => ∃ table state,
    comparison.invalidTables.get? table = some state ∧ i ∈ state.baseToOurs

/-- The places of the statement `i` of theirs. It is matched if ours has a matched statement that
makes the same change. -/
def Comparison.hasTheirs (databases : Databases V) (baseToOurs baseToTheirs : List (Statement V))
    (comparison : Comparison V) (i : ℕ) : Place → Prop
  | .matched => ∃ j ∈ comparison.buckets.matchedOursIndices, ∃ ours theirs,
    baseToOurs[j]? = some ours ∧ baseToTheirs[i]? = some theirs ∧ SameChange databases ours theirs
  | .extra => i ∈ comparison.buckets.extraTheirsIndices
  | .conflicting => ∃ pair ∈ comparison.buckets.conflictPairs.keys, pair.2 = i
  | .invalidTable => ∃ table state,
    comparison.invalidTables.get? table = some state ∧ i ∈ state.baseToTheirs

/-- The comparison ends, and each statement of both lists is in one place. -/
def PlacedOnce (databases : Databases V) (baseToOurs baseToTheirs : List (Statement V))
    (invalid : Dict String InvalidTableState) : Prop :=
  ∃ comparison,
    checkConflictAndReturnDiffs databases baseToOurs baseToTheirs invalid = .ok comparison ∧
    (∀ i < baseToOurs.length, ∃! place, comparison.hasOurs i place) ∧
    ∀ i < baseToTheirs.length,
      ∃! place, comparison.hasTheirs databases baseToOurs baseToTheirs i place

/-- What the comparison reads of a statement that it looks up can be read. -/
def Statement.LookupReadable (databases : Databases V) (cursor : Snapshot V)
    (toBuild : List (Statement V)) (statement : Statement V) : Prop :=
  (∃ key, statement.key databases = .ok key) ∧
    ((∃ t ∈ toBuild, SameChange databases t statement) →
      ∃ removed, removedOfSame databases statement = .ok removed) ∧
    ((¬ ∃ t ∈ toBuild, SameChange databases t statement) → statement.Readable databases cursor)

/-- The lists can be read, and a statement of the hashed list whose unique value a statement of the
other list takes is in conflict on its own key as well. -/
structure Separates (databases : Databases V) (invalid : Dict String InvalidTableState)
    (isOurs : Bool) (toBuild toLookup : List (Statement V)) : Prop where
  hashedReadable : ∀ t ∈ toBuild, invalid.get? t.table = none →
    t.Readable databases (databases.cursor isOurs)
  lookedReadable : ∀ statement ∈ toLookup, invalid.get? statement.table = none →
    (∃ t ∈ toBuild, t.table = statement.table) →
    statement.LookupReadable databases (databases.cursor !isOurs) toBuild
  metInConflict : ∀ statement ∈ toLookup, invalid.get? statement.table = none →
    (¬ ∃ t ∈ toBuild, SameChange databases t statement) →
    ∀ j t, toBuild[j]? = some t → Meets databases isOurs toBuild j statement →
      ∃ other ∈ toLookup, PrimaryKeyConflict databases t other

variable {databases : Databases V} {invalid : Dict String InvalidTableState} {isOurs : Bool}
  {toBuild toLookup : List (Statement V)} {effects : List (Effect V)} {looked : List (Looked V)}
  {statement : Statement V} {cursor : Snapshot V} {i : ℕ}

lemma exists_readEffects_iff :
    (∃ effects, readEffects databases cursor (validOf invalid toBuild) = .ok effects) ↔
      ∀ t ∈ toBuild, invalid.get? t.table = none → t.Readable databases cursor := by
  rw [readEffects, exists_mapM_iff]
  constructor
  · intro h t ht hvalid
    obtain ⟨j, hget⟩ := List.mem_iff_getElem?.mp ht
    have hmem : (t, j) ∈ validOf invalid toBuild := mem_validOf.mpr ⟨hget, hvalid⟩
    exact (readable_iff j).mpr (h (t, j) hmem)
  · intro h entry hentry
    obtain ⟨hget, hvalid⟩ := mem_validOf.mp hentry
    exact (readable_iff entry.2).mp (h entry.1 (List.mem_of_getElem? hget) hvalid)

lemma exists_look_iff (honce : OncePerKey databases toBuild)
    (h : readEffects databases (databases.cursor isOurs) (validOf invalid toBuild) = .ok effects)
    (hvalid : invalid.get? statement.table = none) :
    (∃ look, statement.look databases cursor (onTable effects statement.table) i = .ok look) ↔
      ((∃ t ∈ toBuild, t.table = statement.table) →
        statement.LookupReadable databases cursor toBuild) := by
  by_cases htouched : onTable effects statement.table = []
  · have huntouched := mt (touched_iff h hvalid).mpr (not_not.mpr htouched)
    refine iff_of_true ?_ fun hon => absurd hon huntouched
    rw [Statement.look, if_pos htouched]
    exact ⟨_, rfl⟩
  · rw [forall_prop_of_true ((touched_iff h hvalid).mp htouched), Statement.LookupReadable]
    cases hread : statement.key databases with
    | error e =>
      rw [look_error htouched hread]
      refine iff_of_false ?_ ?_
      · rintro ⟨look, hlook⟩
        cases hlook
      · rintro ⟨⟨key, hkey⟩, -⟩
        cases hkey
    | ok key =>
      rw [and_iff_right ⟨key, rfl⟩]
      have hbound : (∃ t ∈ toBuild, SameChange databases t statement) ↔
          ∃ data, partner (onTable effects statement.table) key = some data ∧
            data.sameAs databases statement = true := by
        constructor
        · rintro ⟨t, ht, hchange⟩
          obtain ⟨j, hget⟩ := List.mem_iff_getElem?.mp ht
          have hvalid' := hvalid
          rw [← hchange.1.1] at hvalid'
          obtain ⟨effect, -, hteffect⟩ := exists_effect h hget hvalid'
          refine ⟨effect.data, (partner_iff honce h hvalid hread).mpr
            ⟨j, t, effect, hget, hchange.1, hteffect, rfl⟩, ?_⟩
          exact (sameAs_iff_sameChange hteffect hchange.1).mpr hchange
        · rintro ⟨data, hpartner, hsame⟩
          obtain ⟨j, t, effect, hget, hkey, hteffect, rfl⟩ :=
            (partner_iff honce h hvalid hread).mp hpartner
          exact ⟨t, List.mem_of_getElem? hget, (sameAs_iff_sameChange hteffect hkey).mp hsame⟩
      rw [hbound]
      -- a statement whose effect is read can be looked up iff it can be read
      have hreadable : ∀ next : Effect V → Looked V,
          (∃ look, (statement.effect databases cursor i).map next = .ok look) ↔
            statement.Readable databases cursor := by
        intro next
        rw [readable_iff i]
        constructor
        · rintro ⟨look, hlook⟩
          obtain ⟨effect, heffect, -⟩ := map_eq_ok.mp hlook
          exact ⟨effect, heffect⟩
        · rintro ⟨effect, heffect⟩
          exact ⟨next effect, map_eq_ok.mpr ⟨effect, heffect, rfl⟩⟩
      cases hpartner : partner (onTable effects statement.table) key with
      | none =>
        rw [look_none htouched hread hpartner, hreadable]
        simp
      | some data =>
        by_cases hsame : data.sameAs databases statement = true
        · rw [look_same htouched hread hpartner hsame]
          have hexists : ∃ data', some data = some data' ∧ data'.sameAs databases statement = true :=
            ⟨data, rfl, hsame⟩
          simp only [hexists, true_implies, not_true, false_implies, and_true]
          constructor
          · rintro ⟨look, hlook⟩
            obtain ⟨removed, hremoved, -⟩ := map_eq_ok.mp hlook
            exact ⟨removed, hremoved⟩
          · rintro ⟨removed, hremoved⟩
            exact ⟨_, map_eq_ok.mpr ⟨removed, hremoved, rfl⟩⟩
        · rw [look_differs htouched hread hpartner hsame, hreadable]
          simp [hsame]

lemma exists_readLooks_iff (honce : OncePerKey databases toBuild)
    (h : readEffects databases (databases.cursor isOurs) (validOf invalid toBuild) = .ok effects) :
    (∃ looked, readLooks databases cursor effects (validOf invalid toLookup) = .ok looked) ↔
      ∀ statement ∈ toLookup, invalid.get? statement.table = none →
        (∃ t ∈ toBuild, t.table = statement.table) →
        statement.LookupReadable databases cursor toBuild := by
  rw [readLooks, exists_mapM_iff]
  constructor
  · intro hall statement hmem hvalid
    obtain ⟨j, hget⟩ := List.mem_iff_getElem?.mp hmem
    have hentry : (statement, j) ∈ validOf invalid toLookup := mem_validOf.mpr ⟨hget, hvalid⟩
    exact (exists_look_iff honce h hvalid).mp (hall (statement, j) hentry)
  · intro hall entry hentry
    obtain ⟨hget, hvalid⟩ := mem_validOf.mp hentry
    exact (exists_look_iff honce h hvalid).mpr
      (hall entry.1 (List.mem_of_getElem? hget) hvalid)

def hashedPlace (databases : Databases V) (invalid : Dict String InvalidTableState) (isOurs : Bool)
    (toBuild toLookup : List (Statement V)) (j : ℕ) (t : Statement V) : Place → Prop
  | .matched => invalid.get? t.table = none ∧ ∃ s ∈ toLookup, SameChange databases t s
  | .extra => invalid.get? t.table = none ∧ ¬ ∃ s ∈ toLookup, SameKey databases t s
  | .conflicting => invalid.get? t.table = none ∧
    ((∃ s ∈ toLookup, PrimaryKeyConflict databases t s) ∨
      ∃ s ∈ toLookup, (¬ ∃ t ∈ toBuild, SameChange databases t s) ∧
        Meets databases isOurs toBuild j s)
  | .invalidTable => invalid.get? t.table ≠ none

def lookedPlace (databases : Databases V) (invalid : Dict String InvalidTableState) (isOurs : Bool)
    (toBuild : List (Statement V)) (s : Statement V) : Place → Prop
  | .matched => invalid.get? s.table = none ∧ ∃ t ∈ toBuild, SameChange databases t s
  | .extra => invalid.get? s.table = none ∧ (¬ ∃ t ∈ toBuild, SameKey databases t s) ∧
    ¬ ∃ j, Meets databases isOurs toBuild j s
  | .conflicting => invalid.get? s.table = none ∧
    ((∃ t ∈ toBuild, PrimaryKeyConflict databases t s) ∨
      (¬ ∃ t ∈ toBuild, SameChange databases t s) ∧ ∃ j, Meets databases isOurs toBuild j s)
  | .invalidTable => invalid.get? s.table ≠ none

/-- A statement of the other list has one place. -/
lemma existsUnique_lookedPlace (honce : OncePerKey databases toBuild) (s : Statement V) :
    ∃! place, lookedPlace databases invalid isOurs toBuild s place := by
  by_cases hvalid : invalid.get? s.table = none
  · by_cases hsame : ∃ t ∈ toBuild, SameChange databases t s
    · have hkey : ∃ t ∈ toBuild, SameKey databases t s := by
        obtain ⟨t, ht, hchange⟩ := hsame
        exact ⟨t, ht, hchange.1⟩
      have hdiffers : ¬ ∃ t ∈ toBuild, PrimaryKeyConflict databases t s := by
        rintro ⟨t', ht', hconflict⟩
        obtain ⟨t, ht, hchange⟩ := hsame
        obtain ⟨j, hget⟩ := List.mem_iff_getElem?.mp ht
        obtain ⟨j', hget'⟩ := List.mem_iff_getElem?.mp ht'
        have hindex := honce.eq_of_sameKey hget hget' (hchange.1.trans hconflict.1.symm)
        rw [← hindex, hget] at hget'
        cases hget'
        exact hconflict.2 hchange
      refine ⟨.matched, ⟨hvalid, hsame⟩, fun place hplace => ?_⟩
      cases place with
      | matched => rfl
      | extra => exact absurd hkey hplace.2.1
      | conflicting =>
        rcases hplace.2 with hconflict | ⟨hnone, -⟩
        · exact absurd hconflict hdiffers
        · exact absurd hsame hnone
      | invalidTable => exact absurd hvalid hplace
    · by_cases hconflict : (∃ t ∈ toBuild, PrimaryKeyConflict databases t s) ∨
          (¬ ∃ t ∈ toBuild, SameChange databases t s) ∧
            ∃ j, Meets databases isOurs toBuild j s
      · refine ⟨.conflicting, ⟨hvalid, hconflict⟩, fun place hplace => ?_⟩
        cases place with
        | matched => exact absurd hplace.2 hsame
        | extra =>
          rcases hconflict with ⟨t, ht, hdiffers⟩ | ⟨-, hmeets⟩
          · exact absurd ⟨t, ht, hdiffers.1⟩ hplace.2.1
          · exact absurd hmeets hplace.2.2
        | conflicting => rfl
        | invalidTable => exact absurd hvalid hplace
      · have hkey : ¬ ∃ t ∈ toBuild, SameKey databases t s := by
          rintro ⟨t, ht, hkey⟩
          exact hconflict (.inl ⟨t, ht, hkey, fun hchange => hsame ⟨t, ht, hchange⟩⟩)
        refine ⟨.extra, ⟨hvalid, hkey, fun hmeets => hconflict (.inr ⟨hsame, hmeets⟩)⟩, ?_⟩
        intro place hplace
        cases place with
        | matched => exact absurd hplace.2 hsame
        | extra => rfl
        | conflicting => exact absurd hplace.2 hconflict
        | invalidTable => exact absurd hvalid hplace
  · refine ⟨.invalidTable, hvalid, fun place hplace => ?_⟩
    cases place with
    | matched => exact absurd hplace.1 hvalid
    | extra => exact absurd hplace.1 hvalid
    | conflicting => exact absurd hplace.1 hvalid
    | invalidTable => rfl

/-- A statement of the hashed list has one place, if it is in conflict on its own key when it is
met. -/
lemma existsUnique_hashedPlace_iff (honce : OncePerKey databases toLookup) (j : ℕ)
    (t : Statement V) :
    (∃! place, hashedPlace databases invalid isOurs toBuild toLookup j t place) ↔
      (invalid.get? t.table = none →
        (∃ s ∈ toLookup, (¬ ∃ t ∈ toBuild, SameChange databases t s) ∧
          Meets databases isOurs toBuild j s) →
        ∃ s ∈ toLookup, PrimaryKeyConflict databases t s) := by
  by_cases hvalid : invalid.get? t.table = none
  · rw [forall_prop_of_true hvalid]
    by_cases hconflict : ∃ s ∈ toLookup, PrimaryKeyConflict databases t s
    · refine iff_of_true ?_ fun _ => hconflict
      refine ⟨.conflicting, ⟨hvalid, .inl hconflict⟩, fun place hplace => ?_⟩
      obtain ⟨s, hs, hkey, hdiffers⟩ := hconflict
      cases place with
      | matched =>
        obtain ⟨s', hs', hchange⟩ := hplace.2
        obtain ⟨i, hget⟩ := List.mem_iff_getElem?.mp hs
        obtain ⟨i', hget'⟩ := List.mem_iff_getElem?.mp hs'
        have hindex := honce.eq_of_sameKey hget hget' (hkey.symm.trans hchange.1)
        rw [← hindex, hget] at hget'
        cases hget'
        exact absurd hchange hdiffers
      | extra => exact absurd ⟨s, hs, hkey⟩ hplace.2
      | conflicting => rfl
      | invalidTable => exact absurd hvalid hplace
    · simp only [hconflict, imp_false]
      by_cases hmet : ∃ s ∈ toLookup, (¬ ∃ t ∈ toBuild, SameChange databases t s) ∧
          Meets databases isOurs toBuild j s
      · refine iff_of_false ?_ (not_not.mpr hmet)
        rintro ⟨place, -, hunique⟩
        have hconflicting := hunique .conflicting ⟨hvalid, .inr hmet⟩
        by_cases hkey : ∃ s ∈ toLookup, SameKey databases t s
        · obtain ⟨s, hs, hkey⟩ := hkey
          have hchange : SameChange databases t s := by
            by_contra hdiffers
            exact hconflict ⟨s, hs, hkey, hdiffers⟩
          have hmatched := hunique .matched ⟨hvalid, s, hs, hchange⟩
          rw [← hconflicting] at hmatched
          cases hmatched
        · have hextra := hunique .extra ⟨hvalid, hkey⟩
          rw [← hconflicting] at hextra
          cases hextra
      · refine iff_of_true ?_ hmet
        by_cases hkey : ∃ s ∈ toLookup, SameKey databases t s
        · obtain ⟨s, hs, hkey⟩ := hkey
          have hchange : SameChange databases t s := by
            by_contra hdiffers
            exact hconflict ⟨s, hs, hkey, hdiffers⟩
          refine ⟨.matched, ⟨hvalid, s, hs, hchange⟩, fun place hplace => ?_⟩
          cases place with
          | matched => rfl
          | extra => exact absurd ⟨s, hs, hkey⟩ hplace.2
          | conflicting => exact absurd hplace.2 (not_or.mpr ⟨hconflict, hmet⟩)
          | invalidTable => exact absurd hvalid hplace
        · refine ⟨.extra, ⟨hvalid, hkey⟩, fun place hplace => ?_⟩
          cases place with
          | matched =>
            obtain ⟨s, hs, hchange⟩ := hplace.2
            exact absurd ⟨s, hs, hchange.1⟩ hkey
          | extra => rfl
          | conflicting => exact absurd hplace.2 (not_or.mpr ⟨hconflict, hmet⟩)
          | invalidTable => exact absurd hvalid hplace
  · refine iff_of_true ?_ fun hvalid' => absurd hvalid' hvalid
    refine ⟨.invalidTable, hvalid, fun place hplace => ?_⟩
    cases place with
    | matched => exact absurd hplace.1 hvalid
    | extra => exact absurd hplace.1 hvalid
    | conflicting => exact absurd hplace.1 hvalid
    | invalidTable => rfl

section compared

variable (h : readEffects databases (databases.cursor isOurs) (validOf invalid toBuild) = .ok effects)
  (hl : readLooks databases (databases.cursor !isOurs) effects (validOf invalid toLookup) =
    .ok looked)
  (honceBuild : OncePerKey databases toBuild)
include h hl honceBuild

lemma judged_of_mem {look : Looked V} (hlook : look ∈ looked) :
    ∃ s, toLookup[look.index]? = some s ∧ invalid.get? s.table = none ∧ look.table = s.table ∧
      Judged databases isOurs toBuild s look.verdict ∧
      (∀ key, look.key = some key → s.key databases = .ok key) := by
  obtain ⟨⟨s, i⟩, hmem, hread⟩ := exists_of_mem_mapM hl hlook
  obtain ⟨hget, hvalid⟩ := mem_validOf.mp hmem
  obtain ⟨htable, hindex, -, hkey⟩ := Statement.look_fields hread
  subst hindex
  exact ⟨s, hget, hvalid, htable, (judged_of_look h hvalid honceBuild hread).1, hkey⟩

lemma exists_judged {i : ℕ} {s : Statement V} (hget : toLookup[i]? = some s)
    (hvalid : invalid.get? s.table = none) :
    ∃ look ∈ looked, look.index = i ∧ look.table = s.table ∧
      Judged databases isOurs toBuild s look.verdict ∧
      ∀ key, (∃ t ∈ toBuild, t.table = s.table) → s.key databases = .ok key →
        look.key = some key := by
  have hmem : (s, i) ∈ validOf invalid toLookup := mem_validOf.mpr ⟨hget, hvalid⟩
  obtain ⟨look, hlook, hread⟩ := exists_result_of_mem hl hmem
  obtain ⟨htable, hindex, -, -⟩ := Statement.look_fields hread
  obtain ⟨hjudged, hkey⟩ := judged_of_look h hvalid honceBuild hread
  exact ⟨look, hlook, hindex, htable, hjudged, hkey⟩

variable {j : ℕ} {t : Statement V} (ht : toBuild[j]? = some t)
include ht

lemma exists_matched_iff : (∃ look ∈ looked, look.verdict = .matched j) ↔
    hashedPlace databases invalid isOurs toBuild toLookup j t .matched := by
  constructor
  · rintro ⟨look, hlook, hverdict⟩
    obtain ⟨s, hget, hvalid, -, hjudged, -⟩ := judged_of_mem h hl honceBuild hlook
    obtain ⟨t', ht', hchange⟩ := (hjudged.matched j).mp hverdict
    rw [ht] at ht'
    cases ht'
    exact ⟨hchange.1.1 ▸ hvalid, s, List.mem_of_getElem? hget, hchange⟩
  · rintro ⟨hvalid, s, hs, hchange⟩
    obtain ⟨i, hget⟩ := List.mem_iff_getElem?.mp hs
    rw [hchange.1.1] at hvalid
    obtain ⟨look, hlook, -, -, hjudged, -⟩ := exists_judged h hl honceBuild hget hvalid
    exact ⟨look, hlook, (hjudged.matched j).mpr ⟨t, ht, hchange⟩⟩

lemma exists_conflict_iff :
    (∃ look ∈ looked, ∃ conflict ∈ look.verdict.conflicts, conflict.1 = j) ↔
      hashedPlace databases invalid isOurs toBuild toLookup j t .conflicting := by
  constructor
  · rintro ⟨look, hlook, conflict, hconflict, hindex⟩
    obtain ⟨s, hget, hvalid, -, hjudged, -⟩ := judged_of_mem h hl honceBuild hlook
    have hmem : j ∈ look.verdict.conflicts.map Prod.fst := hindex ▸ List.mem_map_of_mem hconflict
    have hs := List.mem_of_getElem? hget
    rcases (hjudged.conflicting j).mp hmem with ⟨t', ht', hdiffers⟩ | ⟨hnone, hmeets⟩
    · rw [ht] at ht'
      cases ht'
      exact ⟨hdiffers.1.1 ▸ hvalid, .inl ⟨s, hs, hdiffers⟩⟩
    · obtain ⟨t', ht', htable⟩ := hmeets.table
      rw [ht] at ht'
      cases ht'
      exact ⟨htable ▸ hvalid, .inr ⟨s, hs, hnone, hmeets⟩⟩
  · rintro ⟨hvalid, hplace⟩
    have hjudge : ∀ s ∈ toLookup, t.table = s.table →
        ((∃ t, toBuild[j]? = some t ∧ PrimaryKeyConflict databases t s) ∨
          (¬ ∃ t ∈ toBuild, SameChange databases t s) ∧ Meets databases isOurs toBuild j s) →
        ∃ look ∈ looked, ∃ conflict ∈ look.verdict.conflicts, conflict.1 = j := by
      intro s hs htable hcase
      obtain ⟨i, hget⟩ := List.mem_iff_getElem?.mp hs
      rw [htable] at hvalid
      obtain ⟨look, hlook, -, -, hjudged, -⟩ := exists_judged h hl honceBuild hget hvalid
      obtain ⟨conflict, hconflict, hindex⟩ :=
        List.mem_map.mp ((hjudged.conflicting j).mpr hcase)
      exact ⟨look, hlook, conflict, hconflict, hindex⟩
    rcases hplace with ⟨s, hs, hdiffers⟩ | ⟨s, hs, hnone, hmeets⟩
    · exact hjudge s hs hdiffers.1.1 (.inl ⟨t, ht, hdiffers⟩)
    · obtain ⟨t', ht', htable⟩ := hmeets.table
      rw [ht] at ht'
      cases ht'
      exact hjudge s hs htable (.inr ⟨hnone, hmeets⟩)

lemma exists_free_iff :
    (∃ effect ∈ effects, effect.index = j ∧ effect.key ∉ takenKeys looked effect.table) ↔
      hashedPlace databases invalid isOurs toBuild toLookup j t .extra := by
  constructor
  · rintro ⟨effect, heffect, hindex, hfree⟩
    obtain ⟨t', ht', hvalid, htable, hread⟩ := mem_of_readEffects h heffect
    rw [hindex, ht] at ht'
    cases ht'
    obtain ⟨-, -, hkey, -⟩ := Statement.effect_fields hread
    refine ⟨hvalid, ?_⟩
    rintro ⟨s, hs, hsame, key, htKey, hsKey⟩
    obtain ⟨i, hget⟩ := List.mem_iff_getElem?.mp hs
    rw [hsame] at hvalid
    obtain ⟨look, hlook, -, hlookTable, -, hlookKey⟩ := exists_judged h hl honceBuild hget hvalid
    rw [hkey] at htKey
    cases htKey
    refine hfree (mem_takenKeys.mpr ⟨look, hlook, ?_, ?_⟩)
    · rw [hlookTable, ← hsame, htable]
    · exact hlookKey effect.key ⟨t, List.mem_of_getElem? ht, hsame⟩ hsKey
  · rintro ⟨hvalid, hnone⟩
    obtain ⟨effect, heffect, hread⟩ := exists_effect h ht hvalid
    obtain ⟨htable, hindex, hkey, -⟩ := Statement.effect_fields hread
    refine ⟨effect, heffect, hindex, fun htaken => ?_⟩
    obtain ⟨look, hlook, hlookTable, hlookKey⟩ := mem_takenKeys.mp htaken
    obtain ⟨s, hget, -, hsTable, -, hsKey⟩ := judged_of_mem h hl honceBuild hlook
    refine hnone ⟨s, List.mem_of_getElem? hget, ?_, effect.key, hkey, hsKey effect.key hlookKey⟩
    rw [← hsTable, hlookTable, htable]

omit ht in
lemma look_extra_iff {s : Statement V} (hs : toLookup[i]? = some s) :
    (∃ look ∈ looked, look.index = i ∧ look.verdict = .extra) ↔
      lookedPlace databases invalid isOurs toBuild s .extra := by
  constructor
  · rintro ⟨look, hlook, rfl, hverdict⟩
    obtain ⟨s', hget, hvalid, -, hjudged, -⟩ := judged_of_mem h hl honceBuild hlook
    rw [hs] at hget
    cases hget
    exact ⟨hvalid, hjudged.extra.mp hverdict⟩
  · rintro ⟨hvalid, hnone⟩
    obtain ⟨look, hlook, hindex, -, hjudged, -⟩ := exists_judged h hl honceBuild hs hvalid
    exact ⟨look, hlook, hindex, hjudged.extra.mpr hnone⟩

omit ht in
lemma look_matched_iff {s : Statement V} (hs : toLookup[i]? = some s) :
    (∃ look ∈ looked, look.index = i ∧ ∃ j, look.verdict = .matched j) ↔
      lookedPlace databases invalid isOurs toBuild s .matched := by
  constructor
  · rintro ⟨look, hlook, rfl, j, hverdict⟩
    obtain ⟨s', hget, hvalid, -, hjudged, -⟩ := judged_of_mem h hl honceBuild hlook
    rw [hs] at hget
    cases hget
    obtain ⟨t, ht, hchange⟩ := (hjudged.matched j).mp hverdict
    exact ⟨hvalid, t, List.mem_of_getElem? ht, hchange⟩
  · rintro ⟨hvalid, t, ht, hchange⟩
    obtain ⟨j, hget⟩ := List.mem_iff_getElem?.mp ht
    obtain ⟨look, hlook, hindex, -, hjudged, -⟩ := exists_judged h hl honceBuild hs hvalid
    exact ⟨look, hlook, hindex, j, (hjudged.matched j).mpr ⟨t, hget, hchange⟩⟩

omit ht in
lemma look_conflict_iff {s : Statement V} (hs : toLookup[i]? = some s) :
    (∃ look ∈ looked, look.index = i ∧ ∃ j, j ∈ look.verdict.conflicts.map Prod.fst) ↔
      lookedPlace databases invalid isOurs toBuild s .conflicting := by
  constructor
  · rintro ⟨look, hlook, rfl, j, hmem⟩
    obtain ⟨s', hget, hvalid, -, hjudged, -⟩ := judged_of_mem h hl honceBuild hlook
    rw [hs] at hget
    cases hget
    rcases (hjudged.conflicting j).mp hmem with ⟨t, ht, hdiffers⟩ | ⟨hnone, hmeets⟩
    · exact ⟨hvalid, .inl ⟨t, List.mem_of_getElem? ht, hdiffers⟩⟩
    · exact ⟨hvalid, .inr ⟨hnone, j, hmeets⟩⟩
  · rintro ⟨hvalid, hplace⟩
    obtain ⟨look, hlook, hindex, -, hjudged, -⟩ := exists_judged h hl honceBuild hs hvalid
    refine ⟨look, hlook, hindex, ?_⟩
    rcases hplace with ⟨t, ht, hdiffers⟩ | ⟨hnone, j, hmeets⟩
    · obtain ⟨j, hget⟩ := List.mem_iff_getElem?.mp ht
      exact ⟨j, (hjudged.conflicting j).mpr (.inl ⟨t, hget, hdiffers⟩)⟩
    · exact ⟨j, (hjudged.conflicting j).mpr (.inr ⟨hnone, hmeets⟩)⟩

end compared

/-- No statement was recorded before the comparison. -/
def Fresh (invalid : Dict String InvalidTableState) : Prop :=
  ∀ table state, invalid.get? table = some state →
    state.baseToOurs = [] ∧ state.baseToTheirs = []

omit [DecidableEq V] in
lemma mem_indicesOn {statements : List (Statement V)} {table : String} {j : ℕ} {t : Statement V}
    (ht : statements[j]? = some t) :
    j ∈ indicesOn table statements.zipIdx ↔ t.table = table := by
  simp only [indicesOn, List.mem_map, List.mem_filter, List.mem_zipIdx_iff_getElem?,
    decide_eq_true_iff]
  constructor
  · rintro ⟨⟨t', j'⟩, ⟨hget, htable⟩, rfl⟩
    rw [ht] at hget
    cases hget
    exact htable
  · exact fun htable => ⟨(t, j), ⟨ht, htable⟩, rfl⟩

variable {comparison : Comparison V}

lemma recorded_iff (side : Bool) (hfresh : Fresh invalid)
    (hc : Compared databases invalid isOurs toBuild toLookup effects looked comparison)
    {list : List (Statement V)} {j : ℕ} {t : Statement V}
    (hlist : list = if side = isOurs then toBuild else toLookup) (ht : list[j]? = some t) :
    (∃ table state, comparison.invalidTables.get? table = some state ∧
        j ∈ ofSide side state.baseToOurs state.baseToTheirs) ↔
      invalid.get? t.table ≠ none := by
  have hstate : ∀ table state, invalid.get? table = some state →
      ofSide side ((state.record isOurs (indicesOn table toBuild.zipIdx)).record (!isOurs)
        (indicesOn table toLookup.zipIdx)).baseToOurs
        ((state.record isOurs (indicesOn table toBuild.zipIdx)).record (!isOurs)
          (indicesOn table toLookup.zipIdx)).baseToTheirs = indicesOn table list.zipIdx := by
    intro table state hget
    obtain ⟨hours, htheirs⟩ := hfresh table state hget
    subst hlist
    cases side <;> cases isOurs <;> simp [ofSide, InvalidTableState.record, hours, htheirs]
  simp only [hc.invalidTables, Option.map_eq_some_iff]
  constructor
  · rintro ⟨table, -, ⟨state, hget, rfl⟩, hmem⟩ hnone
    rw [hstate table state hget, mem_indicesOn ht] at hmem
    rw [hmem, hget] at hnone
    cases hnone
  · intro hinvalid
    obtain ⟨state, hget⟩ := Option.ne_none_iff_exists'.mp hinvalid
    refine ⟨t.table, _, ⟨state, hget, rfl⟩, ?_⟩
    rw [hstate t.table state hget, mem_indicesOn ht]

omit [DecidableEq V] in
lemma mem_matched {j : ℕ} : j ∈ looked.flatMap (·.matched isOurs) ↔
    ∃ look ∈ looked, ∃ k, look.verdict = .matched k ∧ j = if isOurs then k else look.index := by
  rw [List.mem_flatMap]
  refine exists_congr fun look => and_congr_right fun _ => ?_
  cases hverdict : look.verdict <;> simp [Looked.matched, hverdict]

omit [DecidableEq V] in
lemma mem_extra {i : ℕ} :
    i ∈ (looked.filter fun look => look.verdict = .extra).map (·.index) ↔
      ∃ look ∈ looked, look.index = i ∧ look.verdict = .extra := by
  simp only [List.mem_map, List.mem_filter, decide_eq_true_iff]
  exact exists_congr fun look => by tauto

lemma exists_pair_iff
    (hc : Compared databases invalid isOurs toBuild toLookup effects looked comparison)
    (P : ℕ × ℕ → Prop) :
    (∃ pair ∈ comparison.buckets.conflictPairs.keys, P pair) ↔
      ∃ look ∈ looked, ∃ conflict ∈ look.verdict.conflicts,
        P (getOursAndTheirsIndexOrdered isOurs look.index conflict.1) := by
  simp only [hc.conflictPairs]
  constructor
  · rintro ⟨-, ⟨look, hlook, conflict, hconflict, rfl⟩, hP⟩
    exact ⟨look, hlook, conflict, hconflict, hP⟩
  · rintro ⟨look, hlook, conflict, hconflict, hP⟩
    exact ⟨_, ⟨look, hlook, conflict, hconflict, rfl⟩, hP⟩

omit [DecidableEq V] in
lemma exists_conflict_of_index {i : ℕ} :
    (∃ look ∈ looked, ∃ conflict ∈ look.verdict.conflicts, look.index = i) ↔
      ∃ look ∈ looked, look.index = i ∧ ∃ j, j ∈ look.verdict.conflicts.map Prod.fst := by
  refine exists_congr fun look => and_congr_right fun _ => ?_
  constructor
  · rintro ⟨conflict, hconflict, hindex⟩
    exact ⟨hindex, conflict.1, List.mem_map_of_mem hconflict⟩
  · rintro ⟨hindex, j, hj⟩
    obtain ⟨conflict, hconflict, -⟩ := List.mem_map.mp hj
    exact ⟨conflict, hconflict, hindex⟩

section places

variable {baseToOurs baseToTheirs : List (Statement V)} (hfresh : Fresh invalid)
include hfresh

lemma places_of_hashed_ours (honce : OncePerKey databases baseToOurs)
    (h : readEffects databases (databases.cursor true) (validOf invalid baseToOurs) = .ok effects)
    (hl : readLooks databases (databases.cursor !true) effects (validOf invalid baseToTheirs) =
      .ok looked)
    (hc : Compared databases invalid true baseToOurs baseToTheirs effects looked comparison) :
    (∀ j t, baseToOurs[j]? = some t → ∀ place, comparison.hasOurs j place ↔
        hashedPlace databases invalid true baseToOurs baseToTheirs j t place) ∧
      ∀ i s, baseToTheirs[i]? = some s → ∀ place,
        comparison.hasTheirs databases baseToOurs baseToTheirs i place ↔
          lookedPlace databases invalid true baseToOurs s place := by
  have hmatched : ∀ j, j ∈ comparison.buckets.matchedOursIndices ↔
      ∃ look ∈ looked, look.verdict = .matched j := by
    intro j
    rw [hc.matched, mem_matched]
    simp
  refine ⟨fun j t ht place => ?_, fun i s hs place => ?_⟩
  · cases place with
    | matched => exact (hmatched j).trans (exists_matched_iff h hl honce ht)
    | extra => exact (hc.hashedExtra j).trans (exists_free_iff h hl honce ht)
    | conflicting =>
      exact (exists_pair_iff hc fun pair => pair.1 = j).trans (exists_conflict_iff h hl honce ht)
    | invalidTable => exact recorded_iff true hfresh hc rfl ht
  · cases place with
    | matched =>
      constructor
      · rintro ⟨j, hj, ours, theirs, hours, htheirs, hchange⟩
        rw [hs] at htheirs
        cases htheirs
        obtain ⟨hvalid, -⟩ := (exists_matched_iff h hl honce hours).mp ((hmatched j).mp hj)
        exact ⟨hchange.1.1 ▸ hvalid, ours, List.mem_of_getElem? hours, hchange⟩
      · rintro ⟨hvalid, t, ht, hchange⟩
        obtain ⟨j, hget⟩ := List.mem_iff_getElem?.mp ht
        rw [← hchange.1.1] at hvalid
        have hplace : hashedPlace databases invalid true baseToOurs baseToTheirs j t .matched :=
          ⟨hvalid, s, List.mem_of_getElem? hs, hchange⟩
        have hj := (hmatched j).mpr ((exists_matched_iff h hl honce hget).mpr hplace)
        exact ⟨j, hj, t, s, hget, hs, hchange⟩
    | extra =>
      have hextra : comparison.buckets.extraTheirsIndices = _ := hc.lookedExtra
      show i ∈ comparison.buckets.extraTheirsIndices ↔ _
      rw [hextra, mem_extra]
      exact look_extra_iff h hl honce hs
    | conflicting =>
      exact (exists_pair_iff hc fun pair => pair.2 = i).trans
        (exists_conflict_of_index.trans (look_conflict_iff h hl honce hs))
    | invalidTable => exact recorded_iff false hfresh hc rfl hs

lemma places_of_hashed_theirs (honce : OncePerKey databases baseToTheirs)
    (h : readEffects databases (databases.cursor false) (validOf invalid baseToTheirs) = .ok effects)
    (hl : readLooks databases (databases.cursor !false) effects (validOf invalid baseToOurs) =
      .ok looked)
    (hc : Compared databases invalid false baseToTheirs baseToOurs effects looked comparison) :
    (∀ j t, baseToTheirs[j]? = some t → ∀ place,
        comparison.hasTheirs databases baseToOurs baseToTheirs j place ↔
          hashedPlace databases invalid false baseToTheirs baseToOurs j t place) ∧
      ∀ i s, baseToOurs[i]? = some s → ∀ place, comparison.hasOurs i place ↔
        lookedPlace databases invalid false baseToTheirs s place := by
  have hmatched : ∀ i, i ∈ comparison.buckets.matchedOursIndices ↔
      ∃ look ∈ looked, look.index = i ∧ ∃ j, look.verdict = .matched j := by
    intro i
    rw [hc.matched, mem_matched]
    refine exists_congr fun look => and_congr_right fun _ => ?_
    constructor
    · rintro ⟨j, hverdict, hindex⟩
      exact ⟨hindex.symm, j, hverdict⟩
    · rintro ⟨hindex, j, hverdict⟩
      exact ⟨j, hverdict, hindex.symm⟩
  refine ⟨fun j t ht place => ?_, fun i s hs place => ?_⟩
  · cases place with
    | matched =>
      constructor
      · rintro ⟨i, hi, ours, theirs, hours, htheirs, hchange⟩
        rw [ht] at htheirs
        cases htheirs
        obtain ⟨hvalid, -⟩ := (look_matched_iff h hl honce hours).mp ((hmatched i).mp hi)
        exact ⟨hchange.1.1 ▸ hvalid, ours, List.mem_of_getElem? hours, hchange.symm⟩
      · rintro ⟨hvalid, s, hs, hchange⟩
        obtain ⟨i, hget⟩ := List.mem_iff_getElem?.mp hs
        rw [hchange.1.1] at hvalid
        have hplace : lookedPlace databases invalid false baseToTheirs s .matched :=
          ⟨hvalid, t, List.mem_of_getElem? ht, hchange⟩
        have hi := (hmatched i).mpr ((look_matched_iff h hl honce hget).mpr hplace)
        exact ⟨i, hi, s, t, hget, ht, hchange.symm⟩
    | extra => exact (hc.hashedExtra j).trans (exists_free_iff h hl honce ht)
    | conflicting =>
      exact (exists_pair_iff hc fun pair => pair.2 = j).trans (exists_conflict_iff h hl honce ht)
    | invalidTable => exact recorded_iff false hfresh hc rfl ht
  · cases place with
    | matched => exact (hmatched i).trans (look_matched_iff h hl honce hs)
    | extra =>
      have hextra : comparison.buckets.extraOursIndices = _ := hc.lookedExtra
      show i ∈ comparison.buckets.extraOursIndices ↔ _
      rw [hextra, mem_extra]
      exact look_extra_iff h hl honce hs
    | conflicting =>
      exact (exists_pair_iff hc fun pair => pair.1 = i).trans
        (exists_conflict_of_index.trans (look_conflict_iff h hl honce hs))
    | invalidTable => exact recorded_iff true hfresh hc rfl hs

end places

lemma partnersFit (honce : OncePerKey databases toBuild) (hbuild : KnownKeys databases toBuild)
    (hlookup : KnownKeys databases toLookup) :
    PartnersFit databases invalid cursor toBuild toLookup := by
  intro effects h entry hentry key hkey data hdata
  have hmem : entry.1 ∈ toLookup := List.mem_of_getElem? (List.mem_zipIdx_iff_getElem?.mp hentry)
  obtain ⟨effect, heffect, htable, rfl, rfl⟩ :=
    (partner_eq_some_iff (keysDistinct_of_oncePerKey honce h)).mp hdata
  obtain ⟨t, hget, -, hsame, hread⟩ := mem_of_readEffects h heffect
  obtain ⟨-, -, htKey, hkind, hliterals⟩ := Statement.effect_fields hread
  have hkinds : effect.data.kind = t.change.kind := hkind
  refine ⟨?_, fun hdelete => ?_⟩
  · rw [hkinds, hbuild t (List.mem_of_getElem? hget) effect.key htKey,
      hlookup entry.1 hmem effect.key hkey, hsame, htable]
  · have hcolumns : effect.data.columnToLiteral = t.literals databases := hliterals
    rw [hkinds] at hdelete
    rw [hcolumns, Statement.literals]
    cases hchange : t.change <;> simp_all [Change.kind]

/-- The statements that are met are in conflict on their own keys exactly if each statement of the
hashed list has one place. -/
lemma metInConflict_iff (honce : OncePerKey databases toLookup) :
    (∀ statement ∈ toLookup, invalid.get? statement.table = none →
      (¬ ∃ t ∈ toBuild, SameChange databases t statement) →
      ∀ j t, toBuild[j]? = some t → Meets databases isOurs toBuild j statement →
        ∃ other ∈ toLookup, PrimaryKeyConflict databases t other) ↔
      ∀ j t, toBuild[j]? = some t →
        ∃! place, hashedPlace databases invalid isOurs toBuild toLookup j t place := by
  have htable : ∀ {j t s}, toBuild[j]? = some t → Meets databases isOurs toBuild j s →
      t.table = s.table := by
    intro j t s ht hmeets
    obtain ⟨t', ht', htable⟩ := hmeets.table
    rw [ht] at ht'
    cases ht'
    exact htable
  constructor
  · intro hmet j t ht
    refine (existsUnique_hashedPlace_iff honce j t).mpr ?_
    rintro hvalid ⟨s, hs, hnone, hmeets⟩
    rw [htable ht hmeets] at hvalid
    exact hmet s hs hvalid hnone j t ht hmeets
  · intro hplaces s hs hvalid hnone j t ht hmeets
    rw [← htable ht hmeets] at hvalid
    exact (existsUnique_hashedPlace_iff honce j t).mp (hplaces j t ht) hvalid
      ⟨s, hs, hnone, hmeets⟩

omit [DecidableEq V] in
lemma forall_lt_length_iff {list : List (Statement V)} {P : ℕ → Prop} :
    (∀ i < list.length, P i) ↔ ∀ i s, list[i]? = some s → P i := by
  constructor
  · intro hall i s hget
    obtain ⟨hlt, -⟩ := List.getElem?_eq_some_iff.mp hget
    exact hall i hlt
  · intro hall i hlt
    exact hall i list[i] (List.getElem?_eq_getElem hlt)

/-- The places of a comparison are those of the statements of the hashed list. -/
lemma places_iff {baseToOurs baseToTheirs : List (Statement V)} (hfresh : Fresh invalid)
    (hbuild : toBuild = ofSide isOurs baseToOurs baseToTheirs)
    (hlookup : toLookup = ofSide isOurs baseToTheirs baseToOurs)
    (honce : OncePerKey databases toBuild)
    (h : readEffects databases (databases.cursor isOurs) (validOf invalid toBuild) = .ok effects)
    (hl : readLooks databases (databases.cursor !isOurs) effects (validOf invalid toLookup) =
      .ok looked)
    (hc : Compared databases invalid isOurs toBuild toLookup effects looked comparison) :
    ((∀ i < baseToOurs.length, ∃! place, comparison.hasOurs i place) ∧
      ∀ i < baseToTheirs.length,
        ∃! place, comparison.hasTheirs databases baseToOurs baseToTheirs i place) ↔
      ∀ j t, toBuild[j]? = some t →
        ∃! place, hashedPlace databases invalid isOurs toBuild toLookup j t place := by
  rw [forall_lt_length_iff, forall_lt_length_iff]
  cases isOurs with
  | true =>
    cases hbuild
    cases hlookup
    obtain ⟨hhashed, hlooked⟩ := places_of_hashed_ours hfresh honce h hl hc
    constructor
    · rintro ⟨hours, -⟩ j t ht
      exact (existsUnique_congr (hhashed j t ht)).mp (hours j t ht)
    · intro hplaces
      refine ⟨fun j t ht => ?_, fun i s hs => ?_⟩
      · exact (existsUnique_congr (hhashed j t ht)).mpr (hplaces j t ht)
      · exact (existsUnique_congr (hlooked i s hs)).mpr (existsUnique_lookedPlace honce s)
  | false =>
    cases hbuild
    cases hlookup
    obtain ⟨hhashed, hlooked⟩ := places_of_hashed_theirs hfresh honce h hl hc
    constructor
    · rintro ⟨-, htheirs⟩ j t ht
      exact (existsUnique_congr (hhashed j t ht)).mp (htheirs j t ht)
    · intro hplaces
      refine ⟨fun i s hs => ?_, fun j t ht => ?_⟩
      · exact (existsUnique_congr (hlooked i s hs)).mpr (existsUnique_lookedPlace honce s)
      · exact (existsUnique_congr (hhashed j t ht)).mpr (hplaces j t ht)

/-- Each statement of both lists is in one place exactly if the lists can be read and no statement of
the hashed list is met on a unique value without a conflict on its own key. -/
theorem placedOnce_iff {baseToOurs baseToTheirs : List (Statement V)} (hfresh : Fresh invalid)
    (hours : OncePerKey databases baseToOurs) (htheirs : OncePerKey databases baseToTheirs)
    (hknownOurs : KnownKeys databases baseToOurs)
    (hknownTheirs : KnownKeys databases baseToTheirs) :
    PlacedOnce databases baseToOurs baseToTheirs invalid ↔
      Separates databases invalid (hashesOurs baseToOurs baseToTheirs)
        (ofSide (hashesOurs baseToOurs baseToTheirs) baseToOurs baseToTheirs)
        (ofSide (hashesOurs baseToOurs baseToTheirs) baseToTheirs baseToOurs) := by
  obtain ⟨isOurs, hside⟩ : ∃ side, side = hashesOurs baseToOurs baseToTheirs := ⟨_, rfl⟩
  rw [← hside]
  obtain ⟨toBuild, hbuild⟩ : ∃ list, list = ofSide isOurs baseToOurs baseToTheirs := ⟨_, rfl⟩
  obtain ⟨toLookup, hlookup⟩ : ∃ list, list = ofSide isOurs baseToTheirs baseToOurs := ⟨_, rfl⟩
  have honceBuild : OncePerKey databases toBuild := by
    rw [hbuild, ofSide]
    split
    · exact hours
    · exact htheirs
  have honceLookup : OncePerKey databases toLookup := by
    rw [hlookup, ofSide]
    split
    · exact htheirs
    · exact hours
  have hfit : PartnersFit databases invalid (databases.cursor isOurs) toBuild toLookup := by
    refine partnersFit honceBuild ?_ ?_
    · rw [hbuild, ofSide]
      split
      · exact hknownOurs
      · exact hknownTheirs
    · rw [hlookup, ofSide]
      split
      · exact hknownTheirs
      · exact hknownOurs
  rw [← hbuild, ← hlookup]
  constructor
  · rintro ⟨comparison, hrun, hplaces⟩
    obtain ⟨effects, looked, h, hl, hc⟩ :=
      compared_of_ok hside hbuild hlookup honceBuild honceLookup hfit hrun
    refine ⟨exists_readEffects_iff.mp ⟨effects, h⟩,
      (exists_readLooks_iff honceBuild h).mp ⟨looked, hl⟩, ?_⟩
    rw [metInConflict_iff honceLookup]
    exact (places_iff hfresh hbuild hlookup honceBuild h hl hc).mp hplaces
  · intro hseparates
    obtain ⟨effects, h⟩ := exists_readEffects_iff.mpr hseparates.hashedReadable
    obtain ⟨looked, hl⟩ := (exists_readLooks_iff honceBuild h).mpr hseparates.lookedReadable
    obtain ⟨comparison, hrun⟩ := exists_ok hside hbuild hlookup honceLookup hfit h hl
    obtain ⟨effects', looked', h', hl', hc⟩ :=
      compared_of_ok hside hbuild hlookup honceBuild honceLookup hfit hrun
    refine ⟨comparison, hrun, (places_iff hfresh hbuild hlookup honceBuild h' hl' hc).mpr ?_⟩
    exact (metInConflict_iff honceLookup).mp hseparates.metInConflict

abbrev UserRow := Row (Option ℕ)

def user (id email : ℕ) : UserRow := fun column => if column = "id" then some id else some email

def insertUser (id email : ℕ) : Statement (Option ℕ) :=
  ⟨"users", .insert [("id", some id), ("email", some email)]⟩

/-- An empty base with a primary key and a unique index, to which each branch has added rows. -/
def users (ours theirs : List UserRow) : Databases (Option ℕ) where
  null := none
  isLiteral := Option.isSome
  hashed := id
  equal _ _ first second := decide (first = second)
  primaryKeys _ := ⟨[("id", 0)], List.nodup_singleton "id"⟩
  keyPlaces _ := List.Perm.refl [0]
  uniqueIndexes _ := [("users_email", [some "email"])]
  indexNames _ := List.nodup_singleton "users_email"
  childReferences _ := []
  needsQuotes name := name ∈ ["group", "order", "table"]
  base _ := []
  ours _ := ours
  theirs _ := theirs

lemma knownKeys_users (ours theirs : List UserRow) (added : List (ℕ × ℕ)) :
    KnownKeys (users ours theirs) (added.map fun row => insertUser row.1 row.2) := by
  intro statement hstatement key _
  obtain ⟨row, -, rfl⟩ := List.mem_map.mp hstatement
  exact iff_of_true rfl fun row hrow => absurd hrow (List.not_mem_nil)

/-- Ours inserts a user, theirs inserts another one with the same email: the statement of ours is in
a conflict pair and is applied as well. -/
theorem not_placedOnce_sameEmail :
    OncePerKey (users [user 1 7] [user 2 7]) [insertUser 1 7] ∧
      OncePerKey (users [user 1 7] [user 2 7]) [insertUser 2 7] ∧
      KnownKeys (users [user 1 7] [user 2 7]) [insertUser 1 7] ∧
      KnownKeys (users [user 1 7] [user 2 7]) [insertUser 2 7] ∧
      ¬ PlacedOnce (users [user 1 7] [user 2 7]) [insertUser 1 7] [insertUser 2 7] .empty := by
  refine ⟨List.pairwise_singleton _ _, List.pairwise_singleton _ _, knownKeys_users _ _ [(1, 7)],
    knownKeys_users _ _ [(2, 7)], ?_⟩
  rintro ⟨comparison, hrun, hours, -⟩
  have hcomputed : (checkConflictAndReturnDiffs (users [user 1 7] [user 2 7]) [insertUser 1 7]
      [insertUser 2 7] .empty).map (fun comparison => (comparison.buckets.extraOursIndices,
        comparison.buckets.conflictPairs.keys)) = .ok ([0], [(0, 0)]) := rfl
  rw [hrun, map_ok] at hcomputed
  obtain ⟨hextra, hpairs⟩ := Prod.mk.inj (Except.ok.inj hcomputed)
  obtain ⟨place, -, hunique⟩ := hours 0 Nat.one_pos
  have hfirst : Place.extra = place := hunique .extra (by
    show 0 ∈ comparison.buckets.extraOursIndices
    rw [hextra]
    exact List.mem_singleton_self 0)
  have hsecond : Place.conflicting = place := hunique .conflicting (by
    refine ⟨(0, 0), ?_, rfl⟩
    rw [hpairs]
    exact List.mem_singleton_self (0, 0))
  rw [← hfirst] at hsecond
  cases hsecond

lemma effect_insertUser {ours theirs : List UserRow} {id email : ℕ} {cursor : Snapshot (Option ℕ)}
    (hcursor : cursor "users" = [user id email]) :
    (insertUser id email).effect (users ours theirs) cursor 0 =
      .ok ⟨"users", 0, [some id], .insert, (insertUser id email).literals (users ours theirs),
        [(("users_email", [some "email"]), [some email])], []⟩ := by
  have hrow : getFullRowOfInsert (users ours theirs) cursor "users"
      ((users ours theirs).primaryKeys "users") [("id", some id), ("email", some email)] =
        .ok (some (user id email)) := by
    show Except.ok ((cursor "users").find? _) = _
    rw [hcursor]
    simp [Predicate.holds, users, user]
  show Statement.effect (users ours theirs) cursor
    ⟨"users", .insert [("id", some id), ("email", some email)]⟩ 0 = _
  rw [effect_insert, hrow]
  rfl

/-- Two users with different emails. -/
theorem placedOnce_users :
    PlacedOnce (users [user 1 7] [user 2 8]) [insertUser 1 7] [insertUser 2 8] .empty := by
  have hours := @effect_insertUser [user 1 7] [user 2 8] 1 7
    ((users [user 1 7] [user 2 8]).cursor true) rfl
  have htheirs := @effect_insertUser [user 1 7] [user 2 8] 2 8
    ((users [user 1 7] [user 2 8]).cursor false) rfl
  refine (placedOnce_iff (fun table state h => by cases h) (List.pairwise_singleton _ _)
    (List.pairwise_singleton _ _) (knownKeys_users _ _ [(1, 7)]) (knownKeys_users _ _ [(2, 8)])).mpr
      ⟨fun t ht _ => ?_, fun t ht _ _ => ?_, fun t ht _ _ j hashed hget hmeets => ?_⟩
  · cases List.mem_singleton.mp ht
    exact ⟨_, hours⟩
  · cases List.mem_singleton.mp ht
    exact ⟨⟨_, rfl⟩, fun _ => ⟨_, rfl⟩, fun _ => ⟨_, htheirs⟩⟩
  · cases List.mem_singleton.mp ht
    obtain ⟨key, ⟨effect, heffect, hkey⟩, ⟨other, hother, -, effect', heffect', hkey'⟩, -⟩ := hmeets
    have hmem := List.mem_of_getElem? hother
    cases List.mem_singleton.mp hmem
    cases htheirs.symm.trans heffect
    cases hours.symm.trans heffect'
    rw [List.mem_singleton] at hkey hkey'
    rw [hkey] at hkey'
    simp at hkey'

end SqliteReconcile.RowMerge
