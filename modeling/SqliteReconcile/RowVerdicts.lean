import SqliteReconcile.RowComparison

/-!
# Verdicts in terms of the statements

Two statements of the two lists are related by their keys and by the values that they take in unique
indexes.
-/
namespace SqliteReconcile.RowMerge
open Dicts Outcomes

variable {V : Type} [DecidableEq V]

/-- What the comparison reads of a statement can be read. -/
def Statement.Readable (databases : Databases V) (cursor : Snapshot V) (statement : Statement V) :
    Prop :=
  ∃ effect, statement.effect databases cursor 0 = .ok effect

/-- The row of a statement has a value in a unique index. -/
def Statement.Takes (databases : Databases V) (cursor : Snapshot V) (statement : Statement V)
    (key : IndexKey V) : Prop :=
  ∃ effect, statement.effect databases cursor 0 = .ok effect ∧ key ∈ effect.unique

def SameKey (databases : Databases V) (first second : Statement V) : Prop :=
  first.table = second.table ∧
    ∃ key, first.key databases = .ok key ∧ second.key databases = .ok key

/-- Two statements make the same change to a row. -/
def SameChange (databases : Databases V) (first second : Statement V) : Prop :=
  SameKey databases first second ∧ first.change.kind = second.change.kind ∧
    first.literals databases = second.literals databases

/-- Two statements make different changes to a row. -/
def PrimaryKeyConflict (databases : Databases V) (first second : Statement V) : Prop :=
  SameKey databases first second ∧ ¬ SameChange databases first second

/-- A statement takes a unique value that the statement `j` of the hashed list was the last one to
take. -/
def Meets (databases : Databases V) (isOurs : Bool) (toBuild : List (Statement V)) (j : ℕ)
    (statement : Statement V) : Prop :=
  ∃ key, statement.Takes databases (databases.cursor !isOurs) key ∧
    (∃ hashed, toBuild[j]? = some hashed ∧ hashed.table = statement.table ∧
      hashed.Takes databases (databases.cursor isOurs) key) ∧
    ∀ j' hashed, toBuild[j']? = some hashed → hashed.table = statement.table →
      hashed.Takes databases (databases.cursor isOurs) key → j' ≤ j

def columnAt (databases : Databases V) (table : String) (place : ℕ) : String :=
  (((databases.primaryKeys table).entries.find? fun entry => entry.2 = place).map Prod.fst).getD ""

def rowKey (databases : Databases V) (table : String) (row : Row V) : KeyTuple V :=
  (List.range (databases.primaryKeys table).keys.length).map fun place =>
    row (columnAt databases table place)

/-- INSERT statements are those whose key the base does not have. -/
def KnownKeys (databases : Databases V) (statements : List (Statement V)) : Prop :=
  ∀ statement ∈ statements, ∀ key, statement.key databases = .ok key →
    (statement.change.kind = .insert ↔
      ∀ row ∈ databases.base statement.table, rowKey databases statement.table row ≠ key)

variable {databases : Databases V}

omit [DecidableEq V] in
lemma SameKey.symm {first second : Statement V} (h : SameKey databases first second) :
    SameKey databases second first := by
  obtain ⟨htable, key, hfirst, hsecond⟩ := h
  exact ⟨htable.symm, key, hsecond, hfirst⟩

omit [DecidableEq V] in
lemma SameChange.symm {first second : Statement V} (h : SameChange databases first second) :
    SameChange databases second first :=
  ⟨h.1.symm, h.2.1.symm, h.2.2.symm⟩

omit [DecidableEq V] in
lemma SameKey.trans {first second third : Statement V} (h : SameKey databases first second)
    (h' : SameKey databases second third) : SameKey databases first third := by
  obtain ⟨htable, key, hfirst, hsecond⟩ := h
  obtain ⟨htable', key', hsecond', hthird⟩ := h'
  rw [hsecond] at hsecond'
  cases hsecond'
  exact ⟨htable.trans htable', key, hfirst, hthird⟩

omit [DecidableEq V] in
lemma OncePerKey.eq_of_sameKey {statements : List (Statement V)}
    (honce : OncePerKey databases statements) {i j : ℕ} {first second : Statement V}
    (hfirst : statements[i]? = some first) (hsecond : statements[j]? = some second)
    (hkey : SameKey databases first second) : i = j := by
  obtain ⟨htable, key, hfirstKey, hsecondKey⟩ := hkey
  obtain ⟨hi, rfl⟩ := List.getElem?_eq_some_iff.mp hfirst
  obtain ⟨hj, rfl⟩ := List.getElem?_eq_some_iff.mp hsecond
  have hpair := List.pairwise_iff_getElem.mp honce
  rcases Nat.lt_trichotomy i j with hlt | heq | hgt
  · exact absurd hsecondKey (hpair i j hi hj hlt htable key hfirstKey)
  · exact heq
  · exact absurd hfirstKey (hpair j i hj hi hgt htable.symm key hsecondKey)

lemma effect_index (cursor : Snapshot V) (statement : Statement V) (i : ℕ) :
    statement.effect databases cursor i =
      (statement.effect databases cursor 0).map fun effect => { effect with index := i } := by
  rw [Statement.effect, Statement.effect]
  cases statement.key databases with
  | error e => rfl
  | ok key =>
    rw [ok_bind, ok_bind]
    cases statement.entry databases cursor with
    | error e => rfl
    | ok entry =>
      rw [ok_bind, ok_bind]
      cases uniqueKeys databases entry with
      | error e => rfl
      | ok unique =>
        rw [ok_bind, ok_bind]
        cases statement.recordedKeys databases entry <;> rfl

variable {cursor : Snapshot V} {statement : Statement V} {i : ℕ}

lemma readable_iff (i : ℕ) : statement.Readable databases cursor ↔
    ∃ effect, statement.effect databases cursor i = .ok effect := by
  rw [Statement.Readable, effect_index cursor statement i]
  constructor
  · rintro ⟨effect, heffect⟩
    rw [heffect]
    exact ⟨_, rfl⟩
  · rintro ⟨effect, heffect⟩
    obtain ⟨original, horiginal, -⟩ := map_eq_ok.mp heffect
    exact ⟨original, horiginal⟩

lemma takes_iff {effect : Effect V} (heffect : statement.effect databases cursor i = .ok effect)
    (key : IndexKey V) : statement.Takes databases cursor key ↔ key ∈ effect.unique := by
  rw [effect_index cursor statement i, map_eq_ok] at heffect
  obtain ⟨original, horiginal, rfl⟩ := heffect
  constructor
  · rintro ⟨other, hother, hmem⟩
    rw [horiginal] at hother
    cases hother
    exact hmem
  · exact fun hmem => ⟨original, horiginal, hmem⟩

lemma entry_indexes {entry : Entry V} (h : statement.entry databases cursor = .ok (some entry)) :
    entry.indexes.Sublist (databases.uniqueIndexes statement.table) := by
  obtain ⟨table, change⟩ := statement
  cases change with
  | delete predicates => cases h
  | insert columns =>
    have hread : Statement.entry databases cursor ⟨table, .insert columns⟩ = (do
      let row ← getFullRowOfInsert databases cursor table (databases.primaryKeys table) columns
      insertEntry databases table row) := rfl
    rw [hread, bind_eq_ok] at h
    obtain ⟨row, -, hentry⟩ := h
    rw [insertEntry] at hentry
    split at hentry
    · cases hentry
    · rw [bind_eq_ok] at hentry
      obtain ⟨row, -, hentry⟩ := hentry
      cases hentry
      exact List.Sublist.refl _
  | update assignments predicates =>
    have hread : Statement.entry databases cursor ⟨table, .update assignments predicates⟩ =
        if Statement.updatesUniqueColumn databases table assignments then do
          let row ← requireFullRow databases cursor table predicates
          let relevant ← relevantIndexes databases row (assignments.map Prod.fst)
            (databases.uniqueIndexes table)
          return some ⟨row, relevant⟩
        else return none := rfl
    rw [hread] at h
    split at h
    · simp only [bind_eq_ok, pure_eq_ok] at h
      obtain ⟨row, -, relevant, hrelevant, hentry⟩ := h
      cases hentry
      exact relevantIndexes_sublist hrelevant
    · cases h

lemma unique_index {effect : Effect V} (heffect : statement.effect databases cursor i = .ok effect) :
    ∀ key ∈ effect.unique, key.1 ∈ databases.uniqueIndexes statement.table := by
  rw [Statement.effect] at heffect
  simp only [bind_eq_ok, pure_eq_ok] at heffect
  obtain ⟨-, -, entry, hentry, unique, hunique, -, -, rfl⟩ := heffect
  intro key hkey
  cases entry with
  | none =>
    cases hunique
    cases hkey
  | some entry =>
    rw [uniqueKeys, Entry.uniqueKeys, bind_eq_ok] at hunique
    obtain ⟨keys, hkeys, hflat⟩ := hunique
    cases hflat
    exact (entry_indexes hentry).subset (index_of_mapM_indexKey hkeys key hkey)

def Ascending (effects : List (Effect V)) : Prop :=
  effects.Pairwise fun first second => first.index < second.index

def IndexesOf (databases : Databases V) (table : String) (effects : List (Effect V)) : Prop :=
  ∀ effect ∈ effects, ∀ key ∈ effect.unique, key.1 ∈ databases.uniqueIndexes table

omit [DecidableEq V] in
lemma mem_valuesIn {effects : List (Effect V)} {table : String} {key : IndexKey V} {j : ℕ}
    (hindexes : IndexesOf databases table effects) (hkey : key.1 ∈ databases.uniqueIndexes table) :
    (key.2, j) ∈ effects.flatMap (·.valuesIn key.1.1) ↔
      ∃ effect ∈ effects, effect.index = j ∧ key ∈ effect.unique := by
  simp only [List.mem_flatMap, Effect.valuesIn, List.mem_map, List.mem_filter]
  constructor
  · rintro ⟨effect, heffect, other, ⟨hother, hname⟩, hpair⟩
    obtain ⟨hvalues, hindex⟩ := Prod.mk.inj hpair
    have hsame : other.1 = key.1 := List.inj_on_of_nodup_map (databases.indexNames table)
      (hindexes effect heffect other hother) hkey (by simpa using hname)
    exact ⟨effect, heffect, hindex, Prod.ext hsame hvalues ▸ hother⟩
  · rintro ⟨effect, heffect, rfl, hmem⟩
    exact ⟨effect, heffect, key, ⟨hmem, by simp⟩, rfl⟩

/-- The statement that holds a value is the last one that takes it. -/
lemma mem_holder {effects : List (Effect V)} {table : String} {key : IndexKey V} {j : ℕ}
    (hascending : Ascending effects) (hindexes : IndexesOf databases table effects)
    (hkey : key.1 ∈ databases.uniqueIndexes table) :
    j ∈ (holder effects key).map Prod.fst ↔
      (∃ effect ∈ effects, effect.index = j ∧ key ∈ effect.unique) ∧
        ∀ effect ∈ effects, key ∈ effect.unique → effect.index ≤ j := by
  have hsorted : (effects.flatMap (·.valuesIn key.1.1)).Pairwise fun first second =>
      first.2 ≤ second.2 := by
    have hconst : ∀ (effect : Effect V) write, write ∈ effect.valuesIn key.1.1 →
        write.2 = effect.index := by
      intro effect write hwrite
      obtain ⟨other, -, rfl⟩ := List.mem_map.mp hwrite
      rfl
    refine List.pairwise_flatMap.mpr ⟨fun effect _ => ?_, hascending.imp ?_⟩
    · refine List.pairwise_of_forall_mem_list fun first hfirst second hsecond => ?_
      rw [hconst effect first hfirst, hconst effect second hsecond]
    · intro first second hlt write hwrite other hother
      rw [hconst first write hwrite, hconst second other hother]
      exact hlt.le
  have hget : (indexState effects key.1).valuesToStmtIndex.get? key.2 =
      Dict.lastOf (effects.flatMap (·.valuesIn key.1.1)) key.2 := by
    rw [indexState, Dict.get?_setAll, Dict.get?_empty, Option.or_none]
  have hholder : j ∈ (holder effects key).map Prod.fst ↔
      Dict.lastOf (effects.flatMap (·.valuesIn key.1.1)) key.2 = some j := by
    rw [holder, hget]
    cases Dict.lastOf (effects.flatMap (·.valuesIn key.1.1)) key.2 with
    | none => simp
    | some last => simp [eq_comm]
  rw [hholder, Dict.lastOf_eq_some_iff_of_sorted hsorted, mem_valuesIn hindexes hkey]
  refine and_congr_right fun _ => ?_
  constructor
  · exact fun h effect heffect hmem =>
      h effect.index ((mem_valuesIn hindexes hkey).mpr ⟨effect, heffect, rfl, hmem⟩)
  · intro h other hother
    obtain ⟨effect, heffect, rfl, hmem⟩ := (mem_valuesIn hindexes hkey).mp hother
    exact h effect heffect hmem

variable {invalid : Dict String InvalidTableState} {isOurs : Bool}
  {toBuild toLookup : List (Statement V)} {effects : List (Effect V)} {looked : List (Looked V)}

omit [DecidableEq V] in
lemma mem_validOf {statements : List (Statement V)} {entry : Statement V × ℕ} :
    entry ∈ validOf invalid statements ↔
      statements[entry.2]? = some entry.1 ∧ invalid.get? entry.1.table = none := by
  rw [validOf, validEntries, List.mem_filter, List.mem_zipIdx_iff_getElem?, Option.isNone_iff_eq_none]

lemma mem_of_readEffects (h : readEffects databases cursor (validOf invalid toBuild) = .ok effects)
    {effect : Effect V} (heffect : effect ∈ effects) :
    ∃ t, toBuild[effect.index]? = some t ∧ invalid.get? t.table = none ∧ t.table = effect.table ∧
      t.effect databases cursor effect.index = .ok effect := by
  obtain ⟨⟨t, j⟩, hmem, hread⟩ := exists_of_mem_mapM h heffect
  obtain ⟨hget, hvalid⟩ := mem_validOf.mp hmem
  obtain ⟨htable, hindex, -, -, -⟩ := Statement.effect_fields hread
  subst hindex
  exact ⟨t, hget, hvalid, htable.symm, hread⟩

lemma exists_effect (h : readEffects databases cursor (validOf invalid toBuild) = .ok effects)
    {j : ℕ} {t : Statement V} (ht : toBuild[j]? = some t) (hvalid : invalid.get? t.table = none) :
    ∃ effect ∈ effects, t.effect databases cursor j = .ok effect := by
  have hmem : (t, j) ∈ validOf invalid toBuild := mem_validOf.mpr ⟨ht, hvalid⟩
  exact exists_result_of_mem h hmem

lemma ascending_of_readEffects
    (h : readEffects databases cursor (validOf invalid toBuild) = .ok effects) :
    Ascending effects := by
  have hsorted : (validOf invalid toBuild).Pairwise fun first second => first.2 < second.2 := by
    refine List.Pairwise.filter _ (List.pairwise_map.mp ?_)
    rw [List.zipIdx_map_snd]
    exact List.pairwise_lt_range' 1 Nat.one_pos
  refine pairwise_of_mapM (fun {first second _ _} hfirst hsecond hlt => ?_) h hsorted
  obtain ⟨-, hfirstIndex, -⟩ := Statement.effect_fields hfirst
  obtain ⟨-, hsecondIndex, -⟩ := Statement.effect_fields hsecond
  rw [hfirstIndex, hsecondIndex]
  exact hlt

omit [DecidableEq V] in
lemma mem_onTable {effect : Effect V} {table : String} :
    effect ∈ onTable effects table ↔ effect ∈ effects ∧ effect.table = table := by
  rw [onTable, List.mem_filter, decide_eq_true_iff]

lemma indexesOf_onTable (h : readEffects databases cursor (validOf invalid toBuild) = .ok effects)
    (table : String) : IndexesOf databases table (onTable effects table) := by
  intro effect heffect key hkey
  obtain ⟨hmem, htable⟩ := mem_onTable.mp heffect
  obtain ⟨t, -, -, hsame, hread⟩ := mem_of_readEffects h hmem
  rw [← htable, ← hsame]
  exact unique_index hread key hkey

lemma mem_met (h : readEffects databases (databases.cursor isOurs) (validOf invalid toBuild) =
      .ok effects) {effect : Effect V}
    (hvalid : invalid.get? statement.table = none)
    (heffect : statement.effect databases (databases.cursor !isOurs) i = .ok effect) (j : ℕ) :
    j ∈ (met (onTable effects statement.table) effect).map Prod.fst ↔
      Meets databases isOurs toBuild j statement := by
  have hascending : Ascending (onTable effects statement.table) :=
    (ascending_of_readEffects h).filter _
  have hmet : j ∈ (met (onTable effects statement.table) effect).map Prod.fst ↔
      ∃ key ∈ effect.unique, j ∈ (holder (onTable effects statement.table) key).map Prod.fst := by
    rw [met, List.map_flatMap, List.mem_flatMap]
  -- a hashed statement of the table takes a value iff its effect has it
  have htaken : ∀ key j', (∃ hashed ∈ onTable effects statement.table, hashed.index = j' ∧
      key ∈ hashed.unique) ↔ ∃ t, toBuild[j']? = some t ∧ t.table = statement.table ∧
        t.Takes databases (databases.cursor isOurs) key := by
    intro key j'
    constructor
    · rintro ⟨hashed, hmem, rfl, hkey⟩
      obtain ⟨hmem, htable⟩ := mem_onTable.mp hmem
      obtain ⟨t, hget, -, hsame, hread⟩ := mem_of_readEffects h hmem
      exact ⟨t, hget, hsame.trans htable, (takes_iff hread key).mpr hkey⟩
    · rintro ⟨t, hget, htable, htakes⟩
      rw [← htable] at hvalid
      obtain ⟨hashed, hmem, hread⟩ := exists_effect h hget hvalid
      obtain ⟨hsame, hindex, -⟩ := Statement.effect_fields hread
      exact ⟨hashed, mem_onTable.mpr ⟨hmem, hsame.trans htable⟩, hindex,
        (takes_iff hread key).mp htakes⟩
  rw [hmet, Meets]
  constructor
  · rintro ⟨key, hkey, hholder⟩
    obtain ⟨hlast, hall⟩ := (mem_holder hascending (indexesOf_onTable h statement.table)
      (unique_index heffect key hkey)).mp hholder
    refine ⟨key, (takes_iff heffect key).mpr hkey, (htaken key j).mp hlast, ?_⟩
    intro j' t hget htable htakes
    obtain ⟨hashed, hmem, rfl, hhashed⟩ := (htaken key j').mpr ⟨t, hget, htable, htakes⟩
    exact hall hashed hmem hhashed
  · rintro ⟨key, htakes, hlast, hall⟩
    have hkey := (takes_iff heffect key).mp htakes
    refine ⟨key, hkey, (mem_holder hascending (indexesOf_onTable h statement.table)
      (unique_index heffect key hkey)).mpr ⟨(htaken key j).mpr hlast, ?_⟩⟩
    intro hashed hmem hhashed
    obtain ⟨t, hget, htable, htakes⟩ := (htaken key hashed.index).mp ⟨hashed, hmem, rfl, hhashed⟩
    exact hall hashed.index t hget htable htakes

lemma sameAs_iff_sameChange {t : Statement V} {effect : Effect V} {j : ℕ}
    (heffect : t.effect databases cursor j = .ok effect) (hkey : SameKey databases t statement) :
    effect.data.sameAs databases statement = true ↔ SameChange databases t statement := by
  obtain ⟨-, -, -, hkind, hliterals⟩ := Statement.effect_fields heffect
  rw [sameAs_iff, SameChange, ← hkind, ← hliterals]
  exact (and_iff_right hkey).symm

lemma partner_iff (honce : OncePerKey databases toBuild)
    (h : readEffects databases cursor (validOf invalid toBuild) = .ok effects)
    (hvalid : invalid.get? statement.table = none) {key : KeyTuple V}
    (hkey : statement.key databases = .ok key) {data : KeyValueData V} :
    partner (onTable effects statement.table) key = some data ↔
      ∃ j t effect, toBuild[j]? = some t ∧ SameKey databases t statement ∧
        t.effect databases cursor j = .ok effect ∧ effect.data = data := by
  rw [partner_eq_some_iff (keysDistinct_of_oncePerKey honce h)]
  constructor
  · rintro ⟨effect, hmem, htable, rfl, hdata⟩
    obtain ⟨t, hget, -, hsame, hread⟩ := mem_of_readEffects h hmem
    obtain ⟨-, -, htKey, -⟩ := Statement.effect_fields hread
    exact ⟨effect.index, t, effect, hget, ⟨hsame.trans htable, effect.key, htKey, hkey⟩, hread, hdata⟩
  · rintro ⟨j, t, effect, hget, ⟨htable, key', htKey, hkey'⟩, hread, hdata⟩
    rw [← htable] at hvalid
    obtain ⟨other, hmem, hother⟩ := exists_effect h hget hvalid
    rw [hread] at hother
    cases hother
    obtain ⟨hsame, -, heffectKey, -⟩ := Statement.effect_fields hread
    rw [hkey] at hkey'
    rw [heffectKey] at htKey
    cases hkey'
    cases htKey
    exact ⟨effect, hmem, hsame.trans htable, rfl, hdata⟩

/-- What is found out about a statement. -/
structure Judged (databases : Databases V) (isOurs : Bool) (toBuild : List (Statement V))
    (statement : Statement V) (verdict : Verdict) : Prop where
  matched : ∀ j, verdict = .matched j ↔
    ∃ t, toBuild[j]? = some t ∧ SameChange databases t statement
  conflicting : ∀ j, j ∈ verdict.conflicts.map Prod.fst ↔
    (∃ t, toBuild[j]? = some t ∧ PrimaryKeyConflict databases t statement) ∨
      (¬ ∃ t ∈ toBuild, SameChange databases t statement) ∧
        Meets databases isOurs toBuild j statement
  extra : verdict = .extra ↔
    (¬ ∃ t ∈ toBuild, SameKey databases t statement) ∧
      ¬ ∃ j, Meets databases isOurs toBuild j statement

lemma Meets.table {j : ℕ} (h : Meets databases isOurs toBuild j statement) :
    ∃ t, toBuild[j]? = some t ∧ t.table = statement.table := by
  obtain ⟨-, -, ⟨t, hget, htable, -⟩, -⟩ := h
  exact ⟨t, hget, htable⟩

lemma judged_of_untouched (huntouched : ∀ t ∈ toBuild, t.table ≠ statement.table) :
    Judged databases isOurs toBuild statement .extra := by
  have hkey : ¬ ∃ t ∈ toBuild, SameKey databases t statement := by
    rintro ⟨t, ht, htable, -⟩
    exact huntouched t ht htable
  have hmeets : ∀ j, ¬ Meets databases isOurs toBuild j statement := by
    intro j hmeets
    obtain ⟨t, hget, htable⟩ := hmeets.table
    exact huntouched t (List.mem_of_getElem? hget) htable
  refine ⟨fun j => ?_, fun j => ?_, ?_⟩
  · refine iff_of_false (fun h => by cases h) ?_
    rintro ⟨t, hget, hsame⟩
    exact hkey ⟨t, List.mem_of_getElem? hget, hsame.1⟩
  · refine iff_of_false (fun h => by cases h) ?_
    rintro (⟨t, hget, hconflict⟩ | ⟨-, hmeet⟩)
    · exact hkey ⟨t, List.mem_of_getElem? hget, hconflict.1⟩
    · exact hmeets j hmeet
  · exact iff_of_true rfl ⟨hkey, fun ⟨j, hmeet⟩ => hmeets j hmeet⟩

lemma conflicts_verdictOfMet (conflicts : List (ℕ × ConflictPair)) :
    (verdictOfMet conflicts).conflicts = conflicts := by
  by_cases h : conflicts = [] <;> simp [verdictOfMet, Verdict.conflicts, h]

lemma judged_of_same (honce : OncePerKey databases toBuild) {j : ℕ} {t : Statement V}
    (hget : toBuild[j]? = some t) (hchange : SameChange databases t statement) :
    Judged databases isOurs toBuild statement (.matched j) := by
  have hunique : ∀ j' t', toBuild[j']? = some t' → SameKey databases t' statement → j' = j :=
    fun j' t' hget' hkey' => honce.eq_of_sameKey hget' hget (hkey'.trans hchange.1.symm)
  refine ⟨fun j' => ?_, fun j' => ?_, ?_⟩
  · constructor
    · intro hverdict
      cases hverdict
      exact ⟨t, hget, hchange⟩
    · rintro ⟨t', hget', hchange'⟩
      rw [hunique j' t' hget' hchange'.1]
  · refine iff_of_false (fun hmem => by cases hmem) ?_
    rintro (⟨t', hget', hkey', hdiffers⟩ | ⟨hnone, -⟩)
    · have hsame := hunique j' t' hget' hkey'
      rw [hsame, hget] at hget'
      cases hget'
      exact hdiffers hchange
    · exact hnone ⟨t, List.mem_of_getElem? hget, hchange⟩
  · refine iff_of_false (fun hverdict => by cases hverdict) ?_
    rintro ⟨hnone, -⟩
    exact hnone ⟨t, List.mem_of_getElem? hget, hchange.1⟩

section judged

variable (h : readEffects databases (databases.cursor isOurs) (validOf invalid toBuild) = .ok effects)
  (hvalid : invalid.get? statement.table = none)
include h hvalid

lemma judged_of_none (hkey : ¬ ∃ t ∈ toBuild, SameKey databases t statement) {effect : Effect V}
    (heffect : statement.effect databases (databases.cursor !isOurs) i = .ok effect) :
    Judged databases isOurs toBuild statement
      (verdictOfMet (met (onTable effects statement.table) effect)) := by
  have hmet := mem_met h hvalid heffect
  have hsame : ¬ ∃ t ∈ toBuild, SameChange databases t statement :=
    fun ⟨t, ht, hchange⟩ => hkey ⟨t, ht, hchange.1⟩
  refine ⟨fun j => ?_, fun j => ?_, ?_⟩
  · refine iff_of_false (fun hverdict => ?_) ?_
    · rw [verdictOfMet] at hverdict
      split at hverdict <;> cases hverdict
    · rintro ⟨t, hget, hchange⟩
      exact hsame ⟨t, List.mem_of_getElem? hget, hchange⟩
  · rw [conflicts_verdictOfMet, hmet]
    constructor
    · exact fun hmeets => .inr ⟨hsame, hmeets⟩
    · rintro (⟨t, hget, hconflict⟩ | ⟨-, hmeets⟩)
      · exact absurd ⟨t, List.mem_of_getElem? hget, hconflict.1⟩ hkey
      · exact hmeets
  · have hextra : verdictOfMet (met (onTable effects statement.table) effect) = .extra ↔
        met (onTable effects statement.table) effect = [] := by
      rw [verdictOfMet]
      split
      · next hnil => exact iff_of_true rfl hnil
      · next hnil => exact iff_of_false (fun hverdict => by cases hverdict) hnil
    rw [hextra, and_iff_right hkey, ← List.map_eq_nil_iff, List.eq_nil_iff_forall_not_mem,
      not_exists]
    exact forall_congr' fun j => not_congr (hmet j)

lemma judged_of_differs (honce : OncePerKey databases toBuild) {j : ℕ} {t : Statement V}
    (hget : toBuild[j]? = some t) (hconflict : PrimaryKeyConflict databases t statement)
    {effect : Effect V}
    (heffect : statement.effect databases (databases.cursor !isOurs) i = .ok effect) :
    Judged databases isOurs toBuild statement
      (.conflicting ((j, .primaryKey) :: met (onTable effects statement.table) effect)) := by
  have hunique : ∀ j' t', toBuild[j']? = some t' → SameKey databases t' statement → j' = j :=
    fun j' t' hget' hkey' => honce.eq_of_sameKey hget' hget (hkey'.trans hconflict.1.symm)
  have hsame : ¬ ∃ t ∈ toBuild, SameChange databases t statement := by
    rintro ⟨t', ht', hchange⟩
    obtain ⟨j', hget'⟩ := List.mem_iff_getElem?.mp ht'
    rw [hunique j' t' hget' hchange.1, hget] at hget'
    cases hget'
    exact hconflict.2 hchange
  refine ⟨fun j' => ?_, fun j' => ?_, ?_⟩
  · refine iff_of_false (fun hverdict => by cases hverdict) ?_
    rintro ⟨t', hget', hchange⟩
    exact hsame ⟨t', List.mem_of_getElem? hget', hchange⟩
  · rw [Verdict.conflicts, List.map_cons, List.mem_cons, mem_met h hvalid heffect]
    constructor
    · rintro (rfl | hmeets)
      · exact .inl ⟨t, hget, hconflict⟩
      · exact .inr ⟨hsame, hmeets⟩
    · rintro (⟨t', hget', hconflict'⟩ | ⟨-, hmeets⟩)
      · exact .inl (hunique j' t' hget' hconflict'.1)
      · exact .inr hmeets
  · refine iff_of_false (fun hverdict => by cases hverdict) ?_
    rintro ⟨hnone, -⟩
    exact hnone ⟨t, List.mem_of_getElem? hget, hconflict.1⟩

lemma touched_iff : onTable effects statement.table ≠ [] ↔ ∃ t ∈ toBuild, t.table = statement.table := by
  constructor
  · intro htouched
    obtain ⟨effect, hmem⟩ := List.exists_mem_of_ne_nil _ htouched
    obtain ⟨hmem, htable⟩ := mem_onTable.mp hmem
    obtain ⟨t, hget, -, hsame, -⟩ := mem_of_readEffects h hmem
    exact ⟨t, List.mem_of_getElem? hget, hsame.trans htable⟩
  · rintro ⟨t, ht, htable⟩
    obtain ⟨j, hget⟩ := List.mem_iff_getElem?.mp ht
    rw [← htable] at hvalid
    obtain ⟨effect, hmem, hread⟩ := exists_effect h hget hvalid
    have heffectTable := (Statement.effect_fields hread).1
    exact List.ne_nil_of_mem (mem_onTable.mpr ⟨hmem, heffectTable.trans htable⟩)

/-- What the comparison finds out about a statement that it looks up. -/
lemma judged_of_look (honce : OncePerKey databases toBuild) {look : Looked V}
    (hlook : statement.look databases (databases.cursor !isOurs)
      (onTable effects statement.table) i = .ok look) :
    Judged databases isOurs toBuild statement look.verdict ∧
      ∀ key, (∃ t ∈ toBuild, t.table = statement.table) → statement.key databases = .ok key →
        look.key = some key := by
  by_cases htouched : onTable effects statement.table = []
  · have huntouched := mt (touched_iff h hvalid).mpr (not_not.mpr htouched)
    rw [Statement.look, if_pos htouched] at hlook
    cases hlook
    refine ⟨judged_of_untouched fun t ht htable => huntouched ⟨t, ht, htable⟩, ?_⟩
    exact fun key hon _ => absurd hon huntouched
  · cases hread : statement.key databases with
    | error e =>
      rw [look_error htouched hread] at hlook
      cases hlook
    | ok key =>
      cases hpartner : partner (onTable effects statement.table) key with
      | none =>
        have hnone : ¬ ∃ t ∈ toBuild, SameKey databases t statement := by
          rintro ⟨t, ht, hkey⟩
          obtain ⟨j, hget⟩ := List.mem_iff_getElem?.mp ht
          have hvalid' := hvalid
          rw [← hkey.1] at hvalid'
          obtain ⟨effect, hmem, hteffect⟩ := exists_effect h hget hvalid'
          have hsome := (partner_iff honce h hvalid hread).mpr ⟨j, t, effect, hget, hkey, hteffect, rfl⟩
          rw [hpartner] at hsome
          cases hsome
        rw [look_none htouched hread hpartner, map_eq_ok] at hlook
        obtain ⟨effect, heffect, rfl⟩ := hlook
        refine ⟨judged_of_none h hvalid hnone heffect, fun other _ hother => ?_⟩
        rw [Except.ok.inj hother]
      | some data =>
        obtain ⟨j, t, found, hget, hkey, htread, rfl⟩ := (partner_iff honce h hvalid hread).mp hpartner
        have hindex : found.data.index = j := (Statement.effect_fields htread).2.1
        have hsameAs := sameAs_iff_sameChange htread hkey
        by_cases hsame : found.data.sameAs databases statement = true
        · rw [look_same htouched hread hpartner hsame, map_eq_ok] at hlook
          obtain ⟨removed, -, rfl⟩ := hlook
          refine ⟨?_, fun other _ hother => by rw [Except.ok.inj hother]⟩
          rw [hindex]
          exact judged_of_same honce hget (hsameAs.mp hsame)
        · rw [look_differs htouched hread hpartner hsame, map_eq_ok] at hlook
          obtain ⟨effect, heffect, rfl⟩ := hlook
          refine ⟨?_, fun other _ hother => by rw [Except.ok.inj hother]⟩
          rw [hindex]
          exact judged_of_differs h hvalid honce hget ⟨hkey, mt hsameAs.mpr hsame⟩ heffect

end judged

end SqliteReconcile.RowMerge
