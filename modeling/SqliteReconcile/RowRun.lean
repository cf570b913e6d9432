import SqliteReconcile.RowLookup

/-!
# The runs of the lookup phase

The statements that are looked up have different keys, so that each one finds the hashed list as
the build phase has left it.
-/
namespace SqliteReconcile.RowMerge
open Dicts Outcomes

variable {V : Type} [DecidableEq V] {databases : Databases V}
  {invalid : Dict String InvalidTableState} {effects : List (Effect V)} {work built : Work V}
  {cursor : Snapshot V} {isOurs : Bool} {processed entries : Entries V} {entry : Statement V × ℕ}

def readLooks (databases : Databases V) (cursor : Snapshot V) (effects : List (Effect V))
    (entries : Entries V) : Except Failure (List (Looked V)) :=
  entries.mapM fun entry =>
    entry.1.look databases cursor (onTable effects entry.1.table) entry.2

/-- A list has one statement for a table and a key. -/
def OncePerKey (databases : Databases V) (statements : List (Statement V)) : Prop :=
  statements.Pairwise fun first second => first.table = second.table →
    ∀ key, first.key databases = .ok key → second.key databases ≠ .ok key

/-- The keys that statements have taken from a table. -/
def takenKeys (looked : List (Looked V)) (table : String) : List (KeyTuple V) :=
  (looked.filter fun look => look.table = table).filterMap (·.key)

def Verdict.conflicts : Verdict → List (ℕ × ConflictPair)
  | .conflicting conflicts => conflicts
  | _ => []

def Looked.matched (look : Looked V) (isOurs : Bool) : List ℕ :=
  match look.verdict with
  | .matched index => [if isOurs then index else look.index]
  | _ => []

/-- The variables of the lookup phase after the statements `processed`, of which those on valid
tables have found out `looked`. -/
structure LookedUp (isOurs : Bool) (built : Work V) (processed : Entries V)
    (looked : List (Looked V)) (work : Work V) : Prop where
  tables : ∀ table, work.tables.get? table =
    (built.tables.get? table).map fun state => state.withData
      ((takenKeys looked table).foldl Dict.erase state.primaryKeyValueToData)
  invalidTables : Recorded built.invalidTables (!isOurs) processed work.invalidTables
  removedKeys : ∀ table, work.removedKeys table =
    (looked.filter fun look => look.table = table).foldl (fun removed look =>
      removed.record (recordedSide isOurs look.kind) look.index look.removed)
      (built.removedKeys table)
  resMatch : work.resMatch = built.resMatch ++ looked.flatMap (·.matched isOurs)
  failedLookups : work.failedLookups =
    built.failedLookups ++ (looked.filter fun look => look.verdict = .extra).map (·.index)
  conflictStmtsPair : ∀ pair, pair ∈ work.conflictStmtsPair.keys ↔
    pair ∈ built.conflictStmtsPair.keys ∨ ∃ look ∈ looked, ∃ conflict ∈ look.verdict.conflicts,
      pair = getOursAndTheirsIndexOrdered isOurs look.index conflict.1

omit [DecidableEq V] in
lemma mem_keys_addConflict (work : Work V) (i j : ℕ) (conflict : ConflictPair) (pair : ℕ × ℕ) :
    pair ∈ (work.addConflict isOurs i j conflict).conflictStmtsPair.keys ↔
      pair ∈ work.conflictStmtsPair.keys ∨ pair = getOursAndTheirsIndexOrdered isOurs i j := by
  rw [Work.addConflict, Dict.mem_keys_iff, Dict.mem_keys_iff]
  simp only [Dict.get?_set]
  by_cases hpair : pair = getOursAndTheirsIndexOrdered isOurs i j
  · simp [hpair]
  · simp [hpair]

omit [DecidableEq V] in
lemma mem_keys_addUniqueConflicts (conflicts : List (ℕ × ConflictPair)) (work : Work V) (i : ℕ)
    (pair : ℕ × ℕ) :
    pair ∈ (work.addUniqueConflicts isOurs i conflicts).conflictStmtsPair.keys ↔
      pair ∈ work.conflictStmtsPair.keys ∨
        ∃ conflict ∈ conflicts, pair = getOursAndTheirsIndexOrdered isOurs i conflict.1 := by
  induction conflicts generalizing work with
  | nil => simp [Work.addUniqueConflicts]
  | cons conflict conflicts ih =>
    have hstep : work.addUniqueConflicts isOurs i (conflict :: conflicts) =
      (work.addConflict isOurs i conflict.1 conflict.2).addUniqueConflicts isOurs i conflicts := rfl
    rw [hstep, ih, mem_keys_addConflict, List.exists_mem_cons_iff, or_assoc]

omit [DecidableEq V] in
lemma addVerdict_fields (work : Work V) (look : Looked V) :
    (work.addVerdict isOurs look.index look.verdict).invalidTables = work.invalidTables ∧
      (work.addVerdict isOurs look.index look.verdict).resMatch =
        work.resMatch ++ look.matched isOurs ∧
      (work.addVerdict isOurs look.index look.verdict).failedLookups =
        work.failedLookups ++ (if look.verdict = .extra then [look.index] else []) ∧
      ∀ pair, pair ∈ (work.addVerdict isOurs look.index look.verdict).conflictStmtsPair.keys ↔
        pair ∈ work.conflictStmtsPair.keys ∨ ∃ conflict ∈ look.verdict.conflicts,
          pair = getOursAndTheirsIndexOrdered isOurs look.index conflict.1 := by
  obtain ⟨table, i, kind, key, verdict, removed⟩ := look
  cases verdict with
  | matched index => simp [Work.addVerdict, Work.addToResMatch, Looked.matched, Verdict.conflicts]
  | extra => simp [Work.addVerdict, Work.addFailedLookup, Looked.matched, Verdict.conflicts]
  | conflicting conflicts =>
    rw [Work.addVerdict]
    refine ⟨?_, ?_, ?_, mem_keys_addUniqueConflicts conflicts work i⟩
    · rw [addUniqueConflicts_eq]
    · rw [addUniqueConflicts_eq]
      simp [Looked.matched]
    · rw [addUniqueConflicts_eq]
      simp

lemma get?_popKeyOf (tables : Dict String (TableConflictState V)) (table other : String)
    (key : Option (KeyTuple V)) :
    (popKeyOf tables table key).get? other =
      (tables.get? other).map fun state =>
        if table = other then
          state.withData (key.toList.foldl Dict.erase state.primaryKeyValueToData)
        else state := by
  cases key with
  | none =>
    rw [popKeyOf]
    cases tables.get? other with
    | none => rfl
    | some state => exact congrArg some (ite_self state).symm
  | some key =>
    rw [popKeyOf]
    cases htable : tables.get? table with
    | none =>
      by_cases hother : table = other
      · subst hother
        rw [htable]
        rfl
      · simp [hother]
    | some state =>
      rw [Dict.get?_set]
      by_cases hother : other = table
      · subst hother
        rw [if_pos rfl, htable, Option.map_some, if_pos rfl]
        rfl
      · simp [hother, Ne.symm hother]

variable {looked : List (Looked V)}

omit [DecidableEq V] in
lemma takenKeys_append (looked : List (Looked V)) (look : Looked V) (table : String) :
    takenKeys (looked ++ [look]) table =
      takenKeys looked table ++ if look.table = table then look.key.toList else [] := by
  rw [takenKeys, List.filter_append, List.filterMap_append]
  by_cases h : look.table = table
  · cases hkey : look.key <;> simp [takenKeys, h, hkey]
  · simp [takenKeys, h]

lemma start_lookedUp (isOurs : Bool) (built : Work V) : LookedUp isOurs built [] [] built where
  tables table := by
    cases built.tables.get? table <;> rfl
  invalidTables := recorded_nil built.invalidTables (!isOurs)
  removedKeys table := rfl
  resMatch := (List.append_nil built.resMatch).symm
  failedLookups := (List.append_nil built.failedLookups).symm
  conflictStmtsPair pair := by simp

lemma LookedUp.look (h : LookedUp isOurs built processed looked work) {look : Looked V}
    (hvalid : built.invalidTables.get? entry.1.table = none) :
    LookedUp isOurs built (processed ++ [entry]) (looked ++ [look]) (work.look isOurs look) := by
  obtain ⟨hinvalid, hmatch, hfailed, hconflict⟩ := @addVerdict_fields V isOurs work look
  refine ⟨fun table => ?_, ?_, fun table => ?_, ?_, ?_, fun pair => ?_⟩
  · show (popKeyOf work.tables look.table look.key).get? table = _
    rw [get?_popKeyOf, h.tables, takenKeys_append]
    cases built.tables.get? table with
    | none => rfl
    | some state =>
      refine congrArg some ?_
      by_cases htable : look.table = table
      · rw [if_pos htable]
        exact (if_pos htable).trans (congrArg state.withData List.foldl_append).symm
      · rw [if_neg htable, List.append_nil]
        exact if_neg htable
  · show Recorded _ _ _ (work.addVerdict isOurs look.index look.verdict).invalidTables
    rw [hinvalid]
    exact (h.invalidTables.on_valid hvalid).2
  · show Function.update work.removedKeys look.table _ table = _
    rw [List.filter_append, List.foldl_append]
    by_cases htable : look.table = table
    · subst htable
      rw [Function.update_self, h.removedKeys]
      simp
    · rw [Function.update_of_ne (Ne.symm htable), h.removedKeys]
      simp [htable]
  · show (work.addVerdict isOurs look.index look.verdict).resMatch = _
    rw [hmatch, h.resMatch, List.flatMap_append, List.flatMap_singleton, List.append_assoc]
  · show (work.addVerdict isOurs look.index look.verdict).failedLookups = _
    rw [hfailed, h.failedLookups, List.filter_append, List.map_append, List.append_assoc]
    by_cases hextra : look.verdict = .extra <;> simp [hextra]
  · show pair ∈ (work.addVerdict isOurs look.index look.verdict).conflictStmtsPair.keys ↔ _
    rw [hconflict, h.conflictStmtsPair, or_assoc]
    refine or_congr_right ?_
    simp only [List.mem_append, List.mem_singleton, or_and_right, exists_or, exists_eq_left]

lemma LookedUp.skip (h : LookedUp isOurs built processed looked work)
    (hinvalid : built.invalidTables.get? entry.1.table ≠ none) :
    ∃ work', lookupStatement databases isOurs cursor work entry = .ok work' ∧
      LookedUp isOurs built (processed ++ [entry]) looked work' := by
  obtain ⟨recorded, hcheck, hrecorded⟩ := h.invalidTables.on_invalid hinvalid
  refine ⟨{ work with invalidTables := recorded }, ?_, { h with invalidTables := hrecorded }⟩
  rw [lookupStatement, hcheck]

/-- A statement is in order for the lookup: its key was not taken, and its partner is of a kind that
fits. -/
def InOrder (databases : Databases V) (effects : List (Effect V)) (looked : List (Looked V))
    (statement : Statement V) : Prop :=
  ∀ key, statement.key databases = .ok key →
    key ∉ takenKeys looked statement.table ∧
      PartnerOk (onTable effects statement.table) statement key

/-- The lookup of a statement on a valid table. -/
lemma LookedUp.step (h : LookedUp isOurs built processed looked work)
    (hbuilt : ∀ table, built.tables.get? table =
      if onTable effects table = [] then none
      else some (tableState databases table (onTable effects table)))
    (hvalid : built.invalidTables.get? entry.1.table = none)
    (horder : InOrder databases effects looked entry.1) :
    lookupStatement databases isOurs cursor work entry =
      (entry.1.look databases cursor (onTable effects entry.1.table) entry.2).map
        (work.look isOurs) := by
  obtain ⟨⟨table, change⟩, i⟩ := entry
  have hcheck := (h.invalidTables.on_valid hvalid).1
  have htables := h.tables table
  rw [hbuilt] at htables
  rw [lookupStatement, hcheck]
  by_cases htouched : onTable effects table = []
  · rw [if_pos htouched, Option.map_none] at htables
    simp only [htables]
    rw [ Statement.look, if_pos htouched]
    refine congrArg Except.ok ?_
    rw [Work.look, record_nil, Function.update_eq_self]
    rfl
  · rw [if_neg htouched, Option.map_some] at htables
    have hdata : ∀ key, Statement.key databases ⟨table, change⟩ = .ok key →
        ((takenKeys looked table).foldl Dict.erase
          (tableState databases table (onTable effects table)).primaryKeyValueToData).get? key =
          partner (onTable effects table) key ∧
        PartnerOk (onTable effects table) ⟨table, change⟩ key := by
      intro key hkey
      obtain ⟨hfree, hok⟩ := horder key hkey
      refine ⟨?_, hok⟩
      rw [Dict.get?_foldl_erase, if_neg hfree, tableState, Dict.get?_setAll, Dict.get?_empty,
        Option.or_none]
      rfl
    simp only [htables]
    cases change with
    | delete predicates => exact lookupDelete_eq htables htouched i predicates hdata
    | insert columns => exact lookupInsert_eq htables htouched i columns hdata
    | update assignments predicates =>
      exact lookupUpdate_eq htables htouched i assignments predicates hdata

def KeysFrom (databases : Databases V) (processed : Entries V) (looked : List (Looked V)) : Prop :=
  ∀ look ∈ looked, ∀ key, look.key = some key →
    ∃ entry ∈ processed, entry.1.table = look.table ∧ entry.1.key databases = .ok key

lemma Statement.look_fields {statement : Statement V} {i : ℕ} {look : Looked V}
    (h : statement.look databases cursor effects i = .ok look) :
    look.table = statement.table ∧ look.index = i ∧ look.kind = statement.change.kind ∧
      ∀ key, look.key = some key → statement.key databases = .ok key := by
  by_cases heffects : effects = []
  · rw [Statement.look, if_pos heffects] at h
    cases h
    exact ⟨rfl, rfl, rfl, fun key hkey => by cases hkey⟩
  · cases hread : statement.key databases with
    | error e =>
      rw [look_error heffects hread] at h
      cases h
    | ok key =>
      have hfields : look.table = statement.table ∧ look.index = i ∧
          look.kind = statement.change.kind ∧ look.key = some key := by
        cases hpartner : partner effects key with
        | none =>
          rw [look_none heffects hread hpartner, map_eq_ok] at h
          obtain ⟨effect, -, rfl⟩ := h
          exact ⟨rfl, rfl, rfl, rfl⟩
        | some found =>
          by_cases hsame : found.sameAs databases statement = true
          · rw [look_same heffects hread hpartner hsame, map_eq_ok] at h
            obtain ⟨removed, -, rfl⟩ := h
            exact ⟨rfl, rfl, rfl, rfl⟩
          · rw [look_differs heffects hread hpartner hsame, map_eq_ok] at h
            obtain ⟨effect, -, rfl⟩ := h
            exact ⟨rfl, rfl, rfl, rfl⟩
      obtain ⟨htable, hindex, hkind, hkey⟩ := hfields
      refine ⟨htable, hindex, hkind, fun other hother => ?_⟩
      rw [hkey] at hother
      exact congrArg Except.ok (Option.some.inj hother)

def PartnersOk (databases : Databases V) (effects : List (Effect V)) (entries : Entries V) : Prop :=
  ∀ entry ∈ entries, ∀ key, entry.1.key databases = .ok key →
    PartnerOk (onTable effects entry.1.table) entry.1 key

omit [DecidableEq V] in
lemma mem_takenKeys {key : KeyTuple V} {table : String} :
    key ∈ takenKeys looked table ↔ ∃ look ∈ looked, look.table = table ∧ look.key = some key := by
  simp [takenKeys, and_assoc]

lemma inOrder_of_oncePerKey (honce : OncePerKey databases ((processed ++ entry :: entries).map Prod.fst))
    (hpartners : PartnersOk databases effects (entry :: entries))
    (hkeys : KeysFrom databases processed looked) : InOrder databases effects looked entry.1 := by
  intro key hkey
  refine ⟨fun htaken => ?_, hpartners entry List.mem_cons_self key hkey⟩
  obtain ⟨look, hlook, htable, hlookKey⟩ := mem_takenKeys.mp htaken
  obtain ⟨earlier, hearlier, hsame, hearlierKey⟩ := hkeys look hlook key hlookKey
  have hpair := (List.pairwise_append.mp (List.pairwise_map.mp honce)).2.2 earlier hearlier entry
    List.mem_cons_self
  exact hpair (hsame.trans htable) key hearlierKey hkey

/-- A lookup phase that ends has found out about its statements, and one whose statements can be
read ends. -/
lemma LookedUp.run (h : LookedUp isOurs built processed looked work)
    (hbuilt : ∀ table, built.tables.get? table =
      if onTable effects table = [] then none
      else some (tableState databases table (onTable effects table)))
    (honce : OncePerKey databases ((processed ++ entries).map Prod.fst))
    (hpartners : PartnersOk databases effects entries)
    (hkeys : KeysFrom databases processed looked) :
    (∀ work', entries.foldlM (lookupStatement databases isOurs cursor) work = .ok work' →
      ∃ more, readLooks databases cursor effects (validEntries built.invalidTables entries) =
          .ok more ∧
        LookedUp isOurs built (processed ++ entries) (looked ++ more) work') ∧
    (∀ more, readLooks databases cursor effects (validEntries built.invalidTables entries) =
        .ok more →
      ∃ work', entries.foldlM (lookupStatement databases isOurs cursor) work = .ok work') := by
  induction entries generalizing processed looked work with
  | nil =>
    refine ⟨fun work' hrun => ?_, fun more _ => ⟨work, rfl⟩⟩
    cases hrun
    exact ⟨[], rfl, by simpa using h⟩
  | cons entry entries ih =>
    have hpartners' : PartnersOk databases effects entries :=
      fun later hlater => hpartners later (List.mem_cons_of_mem _ hlater)
    have honce' : OncePerKey databases (((processed ++ [entry]) ++ entries).map Prod.fst) := by
      rw [List.append_assoc]
      exact honce
    rw [List.foldlM_cons, validEntries_cons]
    by_cases hvalid : built.invalidTables.get? entry.1.table = none
    · have hstep : lookupStatement databases isOurs cursor work entry = _ :=
        h.step hbuilt hvalid (inOrder_of_oncePerKey honce hpartners hkeys)
      rw [if_pos hvalid, hstep, readLooks, mapM_cons]
      cases hlook : entry.1.look databases cursor (onTable effects entry.1.table) entry.2 with
      | error e =>
        refine ⟨fun work' hrun => ?_, fun more hmore => ?_⟩
        · cases hrun
        · cases hmore
      | ok look =>
        have hkeys' : KeysFrom databases (processed ++ [entry]) (looked ++ [look]) := by
          obtain ⟨htable, -, -, hkey⟩ := Statement.look_fields hlook
          intro later hlater key hlaterKey
          rcases List.mem_append.mp hlater with hearlier | hlast
          · obtain ⟨source, hsource, hfrom⟩ := hkeys later hearlier key hlaterKey
            exact ⟨source, List.mem_append_left _ hsource, hfrom⟩
          · rw [List.mem_singleton.mp hlast] at hlaterKey ⊢
            exact ⟨entry, by simp, htable.symm, hkey key hlaterKey⟩
        obtain ⟨hend, hexists⟩ := ih (h.look hvalid) honce' hpartners' hkeys'
        rw [map_ok, ok_bind, ok_bind]
        constructor
        · intro work' hrun
          obtain ⟨more, hmore, hlast⟩ := hend work' hrun
          rw [readLooks] at hmore
          refine ⟨look :: more, ?_, by simpa using hlast⟩
          rw [hmore]
          rfl
        · intro more hmore
          rw [bind_eq_ok] at hmore
          obtain ⟨later, hlater, -⟩ := hmore
          exact hexists later hlater
    · obtain ⟨next, hnext, hlooked⟩ := @LookedUp.skip V _ databases _ _ cursor _ _ _ _ h hvalid
      have hkeys' : KeysFrom databases (processed ++ [entry]) looked := by
        intro look hlook key hkey
        obtain ⟨source, hsource, hfrom⟩ := hkeys look hlook key hkey
        exact ⟨source, List.mem_append_left _ hsource, hfrom⟩
      obtain ⟨hend, hexists⟩ := ih hlooked honce' hpartners' hkeys'
      rw [if_neg hvalid, hnext, ok_bind]
      refine ⟨fun work' hrun => ?_, hexists⟩
      obtain ⟨more, hmore, hlast⟩ := hend work' hrun
      exact ⟨more, hmore, by simpa using hlast⟩

end SqliteReconcile.RowMerge
