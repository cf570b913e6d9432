import SqliteReconcile.RowRun

/-!
# The whole comparison

What the comparison answers, in terms of what was read of the hashed list and found out about the
other one.
-/
namespace SqliteReconcile.RowMerge
open Dicts Outcomes

variable {V : Type} [DecidableEq V] {databases : Databases V}
  {invalid : Dict String InvalidTableState} {effects : List (Effect V)} {looked : List (Looked V)}

abbrev validOf (invalid : Dict String InvalidTableState) (statements : List (Statement V)) :
    Entries V :=
  validEntries invalid statements.zipIdx

/-- The buckets of the two lists, and what was recorded. -/
structure Compared (databases : Databases V) (invalid : Dict String InvalidTableState)
    (isOurs : Bool) (toBuild toLookup : List (Statement V)) (effects : List (Effect V))
    (looked : List (Looked V)) (comparison : Comparison V) : Prop where
  matched : comparison.buckets.matchedOursIndices = looked.flatMap (·.matched isOurs)
  lookedExtra : (if isOurs then comparison.buckets.extraTheirsIndices
    else comparison.buckets.extraOursIndices) =
      (looked.filter fun look => look.verdict = .extra).map (·.index)
  hashedExtra : ∀ j, j ∈ (if isOurs then comparison.buckets.extraOursIndices
    else comparison.buckets.extraTheirsIndices) ↔
      ∃ effect ∈ effects, effect.index = j ∧ effect.key ∉ takenKeys looked effect.table
  conflictPairs : ∀ pair, pair ∈ comparison.buckets.conflictPairs.keys ↔
    ∃ look ∈ looked, ∃ conflict ∈ look.verdict.conflicts,
      pair = getOursAndTheirsIndexOrdered isOurs look.index conflict.1
  invalidTables : ∀ table, comparison.invalidTables.get? table = (invalid.get? table).map fun state =>
    (state.record isOurs (indicesOn table toBuild.zipIdx)).record (!isOurs)
      (indicesOn table toLookup.zipIdx)
  removedKeys : ∀ table, comparison.removedKeys table =
    (looked.filter fun look => look.table = table).foldl (fun removed look =>
      removed.record (recordedSide isOurs look.kind) look.index look.removed)
      (TableForeignKeyConflictState.withDict ⟨.empty, .empty⟩ isOurs
        (Dict.empty.setAll (removedKeysOf (onTable effects table))))

/-- Statements of one table have different keys. -/
def KeysDistinct (effects : List (Effect V)) : Prop :=
  effects.Pairwise fun first second => first.table = second.table → first.key ≠ second.key

lemma keysDistinct_of_oncePerKey {cursor : Snapshot V} {statements : List (Statement V)}
    (honce : OncePerKey databases statements)
    (hread : readEffects databases cursor (validOf invalid statements) = .ok effects) :
    KeysDistinct effects := by
  have hvalid : (validOf invalid statements).Pairwise fun first second =>
      first.1.table = second.1.table →
        ∀ key, first.1.key databases = .ok key → second.1.key databases ≠ .ok key := by
    rw [← List.zipIdx_map_fst 0 statements] at honce
    exact (List.pairwise_map.mp honce).filter _
  refine pairwise_of_mapM (fun {first second firstEffect secondEffect} hfirst hsecond hpair => ?_)
    hread hvalid
  obtain ⟨hfirstTable, -, hfirstKey, -, -⟩ := Statement.effect_fields hfirst
  obtain ⟨hsecondTable, -, hsecondKey, -, -⟩ := Statement.effect_fields hsecond
  intro htable hkey
  refine hpair ?_ firstEffect.key hfirstKey ?_
  · rw [← hfirstTable, ← hsecondTable, htable]
  · rw [hsecondKey, hkey]

lemma partner_eq_some_iff (hdistinct : KeysDistinct effects) {table : String} {key : KeyTuple V}
    {data : KeyValueData V} :
    partner (onTable effects table) key = some data ↔
      ∃ effect ∈ effects, effect.table = table ∧ effect.key = key ∧ effect.data = data := by
  constructor
  · intro h
    obtain ⟨effect, heffect, hpair⟩ := List.mem_map.mp (Dict.mem_of_lastOf h)
    obtain ⟨hmem, htable⟩ := List.mem_filter.mp heffect
    obtain ⟨hkey, hdata⟩ := Prod.mk.inj hpair
    exact ⟨effect, hmem, by simpa using htable, hkey, hdata⟩
  · rintro ⟨effect, hmem, rfl, rfl, rfl⟩
    have hon : effect ∈ onTable effects effect.table := List.mem_filter.mpr ⟨hmem, by simp⟩
    refine Dict.lastOf_eq_of_forall (List.mem_map_of_mem hon) fun data hdata => ?_
    obtain ⟨other, hother, hpair⟩ := List.mem_map.mp hdata
    obtain ⟨hotherMem, htable⟩ := List.mem_filter.mp hother
    obtain ⟨hkey, rfl⟩ := Prod.mk.inj hpair
    by_contra hne
    have hdifferent : other ≠ effect := fun h => hne (h ▸ rfl)
    have hsymm : Std.Symm fun first second : Effect V =>
        first.table = second.table → first.key ≠ second.key :=
      ⟨fun first second h htable hkey => h htable.symm hkey.symm⟩
    exact hdistinct.forall hotherMem hmem hdifferent (by simpa using htable) hkey

/-- Which list is hashed: the one of ours unless the one of theirs is shorter. -/
def hashesOurs (baseToOurs baseToTheirs : List (Statement V)) : Bool :=
  !(baseToTheirs.length < baseToOurs.length)

def ofSide {α : Type} (isOurs : Bool) (ours theirs : α) : α := if isOurs then ours else theirs

def Databases.cursor (databases : Databases V) (isOurs : Bool) : Snapshot V :=
  ofSide isOurs databases.ours databases.theirs

def startWork (invalid : Dict String InvalidTableState) : Work V :=
  ⟨.empty, invalid, fun _ => ⟨.empty, .empty⟩, [], [], .empty⟩

def Work.comparison (work : Work V) (isOurs : Bool) : Comparison V where
  buckets :=
    { matchedOursIndices := work.resMatch
      extraOursIndices := ofSide isOurs (remainingEntries work.tables) work.failedLookups
      extraTheirsIndices := ofSide isOurs work.failedLookups (remainingEntries work.tables)
      conflictPairs := work.conflictStmtsPair }
  invalidTables := work.invalidTables
  removedKeys := work.removedKeys

lemma check_eq (databases : Databases V) (baseToOurs baseToTheirs : List (Statement V))
    (invalid : Dict String InvalidTableState) :
    checkConflictAndReturnDiffs databases baseToOurs baseToTheirs invalid =
      let isOurs := hashesOurs baseToOurs baseToTheirs
      (do
        let work ← (ofSide isOurs baseToOurs baseToTheirs).zipIdx.foldlM
          (buildStatement databases isOurs (databases.cursor isOurs)) (startWork invalid)
        let work ← (ofSide isOurs baseToTheirs baseToOurs).zipIdx.foldlM
          (lookupStatement databases isOurs (databases.cursor !isOurs)) work
        return work.comparison isOurs) := by
  rw [checkConflictAndReturnDiffs]
  by_cases hshort : baseToTheirs.length < baseToOurs.length
  · have hside : hashesOurs baseToOurs baseToTheirs = false := by simp [hashesOurs, hshort]
    simp only [hside, hshort, decide_true, Bool.not_true]
    rfl
  · have hside : hashesOurs baseToOurs baseToTheirs = true := by simp [hashesOurs, hshort]
    simp only [hside, hshort, decide_false, Bool.not_false]
    rfl

lemma mem_remainingEntries {tables : Dict String (TableConflictState V)} {j : ℕ} :
    j ∈ remainingEntries tables ↔ ∃ table state key data, tables.get? table = some state ∧
      state.primaryKeyValueToData.get? key = some data ∧ data.index = j := by
  simp only [remainingEntries, List.mem_flatMap, List.mem_map, Dict.mem_values_iff]
  constructor
  · rintro ⟨state, ⟨table, htable⟩, data, ⟨key, hkey⟩, hindex⟩
    exact ⟨table, state, key, data, htable, hkey, hindex⟩
  · rintro ⟨table, state, key, data, htable, hkey, hindex⟩
    exact ⟨state, ⟨table, htable⟩, data, ⟨key, hkey⟩, hindex⟩

variable {isOurs : Bool} {toBuild toLookup : List (Statement V)} {built work : Work V}

lemma mem_remaining (hdistinct : KeysDistinct effects)
    (hbuilt : ∀ table, built.tables.get? table =
      if onTable effects table = [] then none
      else some (tableState databases table (onTable effects table)))
    (hlooked : LookedUp isOurs built toLookup.zipIdx looked work) (j : ℕ) :
    j ∈ remainingEntries work.tables ↔
      ∃ effect ∈ effects, effect.index = j ∧ effect.key ∉ takenKeys looked effect.table := by
  have hget : ∀ table key, ((takenKeys looked table).foldl Dict.erase
      (tableState databases table (onTable effects table)).primaryKeyValueToData).get? key =
      if key ∈ takenKeys looked table then none else partner (onTable effects table) key := by
    intro table key
    rw [Dict.get?_foldl_erase, tableState, Dict.get?_setAll, Dict.get?_empty, Option.or_none]
    by_cases htaken : key ∈ takenKeys looked table
    · rw [if_pos htaken, if_pos htaken]
    · rw [if_neg htaken, if_neg htaken]
      rfl
  rw [mem_remainingEntries]
  constructor
  · rintro ⟨table, state, key, data, htable, hkey, rfl⟩
    rw [hlooked.tables, hbuilt] at htable
    by_cases htouched : onTable effects table = []
    · rw [if_pos htouched] at htable
      cases htable
    · rw [if_neg htouched] at htable
      cases htable
      have hkey' := (hget table key).symm.trans hkey
      by_cases htaken : key ∈ takenKeys looked table
      · rw [if_pos htaken] at hkey'
        cases hkey'
      · rw [if_neg htaken] at hkey'
        obtain ⟨effect, hmem, rfl, rfl, rfl⟩ := (partner_eq_some_iff hdistinct).mp hkey'
        exact ⟨effect, hmem, rfl, htaken⟩
  · rintro ⟨effect, hmem, rfl, htaken⟩
    have hon : effect ∈ onTable effects effect.table := List.mem_filter.mpr ⟨hmem, by simp⟩
    have htable := hlooked.tables effect.table
    rw [hbuilt, if_neg (List.ne_nil_of_mem hon), Option.map_some] at htable
    have hkey := hget effect.table effect.key
    rw [if_neg htaken, (partner_eq_some_iff hdistinct).mpr ⟨effect, hmem, rfl, rfl, rfl⟩] at hkey
    exact ⟨effect.table, _, effect.key, effect.data, htable, hkey, rfl⟩

/-- The statements that are looked up find partners of kinds that fit. -/
def PartnersFit (databases : Databases V) (invalid : Dict String InvalidTableState)
    (cursor : Snapshot V) (toBuild toLookup : List (Statement V)) : Prop :=
  ∀ effects, readEffects databases cursor (validOf invalid toBuild) = .ok effects →
    PartnersOk databases effects toLookup.zipIdx

section runs

variable {baseToOurs baseToTheirs : List (Statement V)}

omit [DecidableEq V] in
lemma validEntries_of_recorded {before : Entries V}
    (h : Recorded invalid isOurs before built.invalidTables) (entries : Entries V) :
    validEntries built.invalidTables entries = validEntries invalid entries := by
  refine List.filter_congr fun entry _ => ?_
  rw [h, Option.isNone_map]

lemma compared_of_runs (honce : OncePerKey databases toBuild)
    (hread : readEffects databases (databases.cursor isOurs) (validOf invalid toBuild) = .ok effects)
    (hbuilt : Built databases invalid isOurs toBuild.zipIdx effects built)
    (hlooked : LookedUp isOurs built toLookup.zipIdx looked work) :
    Compared databases invalid isOurs toBuild toLookup effects looked (work.comparison isOurs) := by
  have hremaining := mem_remaining (keysDistinct_of_oncePerKey honce hread) hbuilt.tables hlooked
  refine ⟨?_, ?_, fun j => ?_, fun pair => ?_, fun table => ?_, fun table => ?_⟩
  · exact hlooked.resMatch.trans (by rw [hbuilt.resMatch, List.nil_append])
  · have hfailed : work.failedLookups =
        (looked.filter fun look => look.verdict = .extra).map (·.index) := by
      rw [hlooked.failedLookups, hbuilt.failedLookups, List.nil_append]
    cases isOurs <;> exact hfailed
  · cases isOurs <;> exact hremaining j
  · refine (hlooked.conflictStmtsPair pair).trans ?_
    rw [hbuilt.conflictStmtsPair]
    exact or_iff_right (List.not_mem_nil)
  · refine (hlooked.invalidTables table).trans ?_
    rw [hbuilt.invalidTables, Option.map_map]
    rfl
  · refine (hlooked.removedKeys table).trans ?_
    rw [hbuilt.removedKeys]

lemma compared_of_ok {comparison : Comparison V}
    (hside : isOurs = hashesOurs baseToOurs baseToTheirs)
    (hbuild : toBuild = ofSide isOurs baseToOurs baseToTheirs)
    (hlookup : toLookup = ofSide isOurs baseToTheirs baseToOurs)
    (honceBuild : OncePerKey databases toBuild) (honceLookup : OncePerKey databases toLookup)
    (hfit : PartnersFit databases invalid (databases.cursor isOurs) toBuild toLookup)
    (hrun : checkConflictAndReturnDiffs databases baseToOurs baseToTheirs invalid = .ok comparison) :
    ∃ effects looked,
      readEffects databases (databases.cursor isOurs) (validOf invalid toBuild) = .ok effects ∧
      readLooks databases (databases.cursor !isOurs) effects (validOf invalid toLookup) =
        .ok looked ∧
      Compared databases invalid isOurs toBuild toLookup effects looked comparison := by
  rw [check_eq, ← hside] at hrun
  simp only [← hbuild, ← hlookup, bind_eq_ok, pure_eq_ok] at hrun
  obtain ⟨built, hbuildRun, work, hlookupRun, rfl⟩ := hrun
  obtain ⟨effects, heffects, hbuilt⟩ := (start_built databases invalid isOurs).run hbuildRun
  rw [List.nil_append, List.nil_append] at hbuilt
  have honce : OncePerKey databases (([] ++ toLookup.zipIdx).map Prod.fst) := by
    rw [List.nil_append, List.zipIdx_map_fst]
    exact honceLookup
  obtain ⟨hend, -⟩ := (start_lookedUp isOurs built).run hbuilt.tables honce
    (hfit effects heffects) fun look hlook => by cases hlook
  obtain ⟨looked, hlooks, hlooked⟩ := hend work hlookupRun
  rw [validEntries_of_recorded hbuilt.invalidTables] at hlooks
  exact ⟨effects, looked, heffects, hlooks, compared_of_runs honceBuild heffects hbuilt hlooked⟩

lemma exists_ok (hside : isOurs = hashesOurs baseToOurs baseToTheirs)
    (hbuild : toBuild = ofSide isOurs baseToOurs baseToTheirs)
    (hlookup : toLookup = ofSide isOurs baseToTheirs baseToOurs)
    (honceLookup : OncePerKey databases toLookup)
    (hfit : PartnersFit databases invalid (databases.cursor isOurs) toBuild toLookup)
    (heffects : readEffects databases (databases.cursor isOurs) (validOf invalid toBuild) =
      .ok effects)
    (hlooks : readLooks databases (databases.cursor !isOurs) effects (validOf invalid toLookup) =
      .ok looked) :
    ∃ comparison,
      checkConflictAndReturnDiffs databases baseToOurs baseToTheirs invalid = .ok comparison := by
  rw [check_eq, ← hside]
  simp only [← hbuild, ← hlookup]
  obtain ⟨built, hbuildRun⟩ := (start_built databases invalid isOurs).exists_run heffects
  obtain ⟨again, hagain, hbuilt⟩ := (start_built databases invalid isOurs).run hbuildRun
  rw [heffects] at hagain
  cases hagain
  rw [List.nil_append, List.nil_append] at hbuilt
  have honce : OncePerKey databases (([] ++ toLookup.zipIdx).map Prod.fst) := by
    rw [List.nil_append, List.zipIdx_map_fst]
    exact honceLookup
  have hlooks' : readLooks databases (databases.cursor !isOurs) effects
      (validEntries built.invalidTables toLookup.zipIdx) = .ok looked := by
    rw [validEntries_of_recorded hbuilt.invalidTables]
    exact hlooks
  obtain ⟨-, hexists⟩ := (start_lookedUp isOurs built).run hbuilt.tables honce
    (hfit effects heffects) fun look hlook => by cases hlook
  obtain ⟨work, hlookupRun⟩ := hexists looked hlooks'
  refine ⟨work.comparison isOurs, ?_⟩
  have hstart : toBuild.zipIdx.foldlM
      (buildStatement databases isOurs (databases.cursor isOurs)) (startWork invalid) = .ok built :=
    hbuildRun
  rw [hstart, ok_bind, hlookupRun]
  rfl

end runs

end SqliteReconcile.RowMerge
