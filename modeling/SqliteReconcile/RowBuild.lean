import SqliteReconcile.RowEffects

/-!
# The build phase

After the build phase the state of each table is that of the statements on it, in their order.
-/
namespace SqliteReconcile.RowMerge
open Dicts Outcomes

variable {V : Type} [DecidableEq V] {databases : Databases V}

abbrev Entries (V : Type) := List (Statement V × ℕ)

def indicesOn (table : String) (entries : Entries V) : List ℕ :=
  (entries.filter fun entry => entry.1.table = table).map Prod.snd

def InvalidTableState.record (state : InvalidTableState) (isOurs : Bool) (indices : List ℕ) :
    InvalidTableState :=
  if isOurs then { state with baseToOurs := state.baseToOurs ++ indices }
  else { state with baseToTheirs := state.baseToTheirs ++ indices }

def validEntries (invalid : Dict String InvalidTableState) (entries : Entries V) : Entries V :=
  entries.filter fun entry => (invalid.get? entry.1.table).isNone

/-- All statements on invalid tables are recorded, and no other ones. -/
def Recorded (invalid : Dict String InvalidTableState) (isOurs : Bool) (entries : Entries V)
    (invalidTables : Dict String InvalidTableState) : Prop :=
  ∀ table, invalidTables.get? table =
    (invalid.get? table).map (·.record isOurs (indicesOn table entries))

lemma InvalidTableState.record_nil (state : InvalidTableState) (isOurs : Bool) :
    state.record isOurs [] = state := by
  cases isOurs <;> simp [InvalidTableState.record]

lemma InvalidTableState.record_append (state : InvalidTableState) (isOurs : Bool)
    (first rest : List ℕ) :
    state.record isOurs (first ++ rest) = (state.record isOurs first).record isOurs rest := by
  cases isOurs <;> simp [InvalidTableState.record]

omit [DecidableEq V] in
lemma indicesOn_append (table : String) (first rest : Entries V) :
    indicesOn table (first ++ rest) = indicesOn table first ++ indicesOn table rest := by
  rw [indicesOn, List.filter_append, List.map_append]
  rfl

omit [DecidableEq V] in
lemma recorded_nil (invalid : Dict String InvalidTableState) (isOurs : Bool) :
    Recorded invalid isOurs ([] : Entries V) invalid := by
  intro table
  cases invalid.get? table with
  | none => rfl
  | some state => exact congrArg some (state.record_nil isOurs).symm

variable {invalid invalidTables : Dict String InvalidTableState} {isOurs : Bool}
  {entries processed : Entries V} {entry : Statement V × ℕ}

omit [DecidableEq V] in
lemma Recorded.on_valid (h : Recorded invalid isOurs processed invalidTables)
    (hvalid : invalid.get? entry.1.table = none) :
    checkAndRecordForInvalidTables invalidTables entry.1.table entry.2 isOurs = none ∧
      Recorded invalid isOurs (processed ++ [entry]) invalidTables := by
  constructor
  · rw [checkAndRecordForInvalidTables, h, hvalid]
    rfl
  · intro table
    rw [h table, indicesOn_append]
    by_cases htable : entry.1.table = table
    · subst htable
      rw [hvalid]
      rfl
    · rw [indicesOn, indicesOn, List.filter_cons_of_neg (by simpa using htable)]
      simp

omit [DecidableEq V] in
lemma Recorded.on_invalid (h : Recorded invalid isOurs processed invalidTables)
    (hinvalid : invalid.get? entry.1.table ≠ none) :
    ∃ recorded, checkAndRecordForInvalidTables invalidTables entry.1.table entry.2 isOurs =
        some recorded ∧ Recorded invalid isOurs (processed ++ [entry]) recorded := by
  obtain ⟨state, hstate⟩ := Option.ne_none_iff_exists'.mp hinvalid
  have hnow := h entry.1.table
  rw [hstate, Option.map_some] at hnow
  refine ⟨invalidTables.set entry.1.table
    ((state.record isOurs (indicesOn entry.1.table processed)).record isOurs [entry.2]), ?_, ?_⟩
  · rw [checkAndRecordForInvalidTables, hnow]
    rfl
  · intro table
    rw [Dict.get?_set, indicesOn_append]
    by_cases htable : table = entry.1.table
    · subst htable
      have hsingle : indicesOn entry.1.table [entry] = [entry.2] := by simp [indicesOn]
      rw [if_pos rfl, hstate, hsingle, Option.map_some, InvalidTableState.record_append]
    · have hnone : indicesOn table [entry] = [] := by
        rw [indicesOn, List.filter_cons_of_neg (by simpa using Ne.symm htable)]
        rfl
      rw [if_neg htable, h table, hnone, List.append_nil]

def readEffects (databases : Databases V) (cursor : Snapshot V) (entries : Entries V) :
    Except Failure (List (Effect V)) :=
  entries.mapM fun entry => entry.1.effect databases cursor entry.2

def onTable (effects : List (Effect V)) (table : String) : List (Effect V) :=
  effects.filter fun effect => effect.table = table

def removedKeysOf (effects : List (Effect V)) : List (List V × ℕ) :=
  effects.flatMap fun effect => effect.removed.map (·, effect.index)

/-- The variables of the build phase after the statements `processed`, of which those on valid
tables have read `effects`. -/
structure Built (databases : Databases V) (invalid : Dict String InvalidTableState) (isOurs : Bool)
    (processed : Entries V) (effects : List (Effect V)) (work : Work V) : Prop where
  tables : ∀ table, work.tables.get? table =
    if onTable effects table = [] then none
    else some (tableState databases table (onTable effects table))
  invalidTables : Recorded invalid isOurs processed work.invalidTables
  removedKeys : ∀ table, work.removedKeys table =
    TableForeignKeyConflictState.withDict ⟨.empty, .empty⟩ isOurs
      (Dict.empty.setAll (removedKeysOf (onTable effects table)))
  resMatch : work.resMatch = []
  failedLookups : work.failedLookups = []
  conflictStmtsPair : work.conflictStmtsPair = .empty

omit [DecidableEq V] in
lemma onTable_append (effects : List (Effect V)) (effect : Effect V) (table : String) :
    onTable (effects ++ [effect]) table =
      onTable effects table ++ if effect.table = table then [effect] else [] := by
  rw [onTable, List.filter_append]
  by_cases h : effect.table = table <;> simp [onTable, h]

lemma Statement.effect_fields {cursor : Snapshot V} {statement : Statement V} {i : ℕ}
    {effect : Effect V} (h : statement.effect databases cursor i = .ok effect) :
    effect.table = statement.table ∧ effect.index = i ∧ statement.key databases = .ok effect.key ∧
      effect.kind = statement.change.kind ∧ effect.literals = statement.literals databases := by
  rw [Statement.effect] at h
  simp only [bind_eq_ok, pure_eq_ok] at h
  obtain ⟨key, hkey, entry, -, unique, -, removed, -, rfl⟩ := h
  exact ⟨rfl, rfl, hkey, rfl, rfl⟩

lemma start_built (databases : Databases V) (invalid : Dict String InvalidTableState)
    (isOurs : Bool) :
    Built databases invalid isOurs [] []
      ⟨.empty, invalid, fun _ => ⟨.empty, .empty⟩, [], [], .empty⟩ where
  tables _ := rfl
  invalidTables := recorded_nil invalid isOurs
  removedKeys table := by cases isOurs <;> rfl
  resMatch := rfl
  failedLookups := rfl
  conflictStmtsPair := rfl

lemma withDict_record (isOurs : Bool) (writes : List (List V × ℕ)) (i : ℕ) (keys : List (List V)) :
    (TableForeignKeyConflictState.withDict ⟨.empty, .empty⟩ isOurs
        (Dict.empty.setAll writes)).record isOurs i keys =
      TableForeignKeyConflictState.withDict ⟨.empty, .empty⟩ isOurs
        (Dict.empty.setAll (writes ++ keys.map (·, i))) := by
  rw [Dict.setAll_append]
  cases isOurs <;> rfl

variable {effects : List (Effect V)} {work : Work V} {cursor : Snapshot V}

lemma Built.skip (h : Built databases invalid isOurs processed effects work)
    (hinvalid : invalid.get? entry.1.table ≠ none) :
    ∃ work', buildStatement databases isOurs cursor work entry = .ok work' ∧
      Built databases invalid isOurs (processed ++ [entry]) effects work' := by
  obtain ⟨recorded, hcheck, hrecorded⟩ := h.invalidTables.on_invalid hinvalid
  refine ⟨{ work with invalidTables := recorded }, ?_, { h with invalidTables := hrecorded }⟩
  rw [buildStatement, hcheck]

lemma Built.step (h : Built databases invalid isOurs processed effects work)
    (hvalid : invalid.get? entry.1.table = none) :
    ∃ next : Effect V → Work V, buildStatement databases isOurs cursor work entry =
        (entry.1.effect databases cursor entry.2).map next ∧
      ∀ effect, entry.1.effect databases cursor entry.2 = .ok effect →
        Built databases invalid isOurs (processed ++ [entry]) (effects ++ [effect])
          (next effect) := by
  obtain ⟨statement, i⟩ := entry
  obtain ⟨hcheck, hrecorded⟩ := h.invalidTables.on_valid hvalid
  have hstate : (work.tables.get? statement.table).getD
      (newTableConflictState databases statement.table) =
        tableState databases statement.table (onTable effects statement.table) := by
    rw [h.tables]
    split
    · next hnil => rw [hnil, tableState_nil, Option.getD_none]
    · rfl
  refine ⟨fun effect => { work with
    tables := work.tables.set statement.table
      (tableState databases statement.table (onTable effects statement.table ++ [effect]))
    removedKeys := Function.update work.removedKeys statement.table
      ((work.removedKeys statement.table).record isOurs i effect.removed) }, ?_, ?_⟩
  · rw [buildStatement, hcheck]
    show (buildTable databases isOurs cursor i statement.table _ _ statement.change >>= _) = _
    rw [hstate, buildTable_eq]
    cases statement.effect databases cursor i <;> rfl
  · intro effect heffect
    obtain ⟨htable, hindex, -, -, -⟩ := Statement.effect_fields heffect
    refine { h with tables := fun table => ?_, invalidTables := hrecorded, removedKeys := fun table => ?_ }
    · rw [Dict.get?_set, onTable_append, htable]
      by_cases hsame : table = statement.table
      · subst hsame
        rw [if_pos rfl, if_pos rfl, if_neg (by simp)]
      · rw [if_neg hsame, if_neg (Ne.symm hsame), List.append_nil, h.tables]
    · show Function.update work.removedKeys statement.table
        ((work.removedKeys statement.table).record isOurs i effect.removed) table = _
      rw [onTable_append, htable]
      by_cases hsame : table = statement.table
      · subst hsame
        rw [Function.update_self, if_pos rfl, h.removedKeys, withDict_record, removedKeysOf,
          removedKeysOf, List.flatMap_append, List.flatMap_singleton, hindex]
      · rw [Function.update_of_ne hsame, if_neg (Ne.symm hsame), List.append_nil, h.removedKeys]

omit [DecidableEq V] in
lemma validEntries_cons (entry : Statement V × ℕ) (entries : Entries V) :
    validEntries invalid (entry :: entries) =
      if invalid.get? entry.1.table = none then entry :: validEntries invalid entries
      else validEntries invalid entries := by
  rw [validEntries, List.filter_cons]
  simp only [Option.isNone_iff_eq_none]
  rfl

/-- A build phase that ends has read its statements. -/
lemma Built.run (h : Built databases invalid isOurs processed effects work) {work' : Work V}
    (hrun : entries.foldlM (buildStatement databases isOurs cursor) work = .ok work') :
    ∃ more, readEffects databases cursor (validEntries invalid entries) = .ok more ∧
      Built databases invalid isOurs (processed ++ entries) (effects ++ more) work' := by
  induction entries generalizing processed effects work with
  | nil =>
    cases hrun
    exact ⟨[], rfl, by simpa using h⟩
  | cons entry entries ih =>
    rw [List.foldlM_cons, bind_eq_ok] at hrun
    obtain ⟨middle, hfirst, hrest⟩ := hrun
    rw [validEntries_cons]
    by_cases hvalid : invalid.get? entry.1.table = none
    · obtain ⟨next, hnext, hbuilt⟩ := h.step hvalid
      rw [hnext, map_eq_ok] at hfirst
      obtain ⟨effect, heffect, rfl⟩ := hfirst
      obtain ⟨more, hmore, hlast⟩ := ih (hbuilt effect heffect) hrest
      refine ⟨effect :: more, ?_, by simpa using hlast⟩
      rw [readEffects] at hmore
      rw [if_pos hvalid, readEffects, mapM_cons, heffect, ok_bind, hmore, ok_bind]
      rfl
    · obtain ⟨next, hnext, hbuilt⟩ := h.skip hvalid
      rw [hnext] at hfirst
      cases hfirst
      obtain ⟨more, hmore, hlast⟩ := ih hbuilt hrest
      refine ⟨more, ?_, by simpa using hlast⟩
      rw [if_neg hvalid, hmore]

lemma Built.exists_run (h : Built databases invalid isOurs processed effects work)
    {more : List (Effect V)}
    (hread : readEffects databases cursor (validEntries invalid entries) = .ok more) :
    ∃ work', entries.foldlM (buildStatement databases isOurs cursor) work = .ok work' := by
  induction entries generalizing processed effects work more with
  | nil => exact ⟨work, rfl⟩
  | cons entry entries ih =>
    rw [validEntries_cons] at hread
    rw [List.foldlM_cons]
    by_cases hvalid : invalid.get? entry.1.table = none
    · rw [if_pos hvalid, readEffects, mapM_cons, bind_eq_ok] at hread
      simp only [bind_eq_ok] at hread
      obtain ⟨effect, heffect, later, hlater, -⟩ := hread
      obtain ⟨next, hnext, hbuilt⟩ := h.step hvalid
      rw [hnext, heffect, map_ok, ok_bind]
      exact ih (hbuilt effect heffect) hlater
    · rw [if_neg hvalid] at hread
      obtain ⟨next, hnext, hbuilt⟩ := h.skip hvalid
      rw [hnext, ok_bind]
      exact ih hbuilt hread

end SqliteReconcile.RowMerge
