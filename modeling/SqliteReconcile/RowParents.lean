import SqliteReconcile.RowDriver

/-!
# The parent keys that are recorded as removed

For the pass over the foreign keys the comparison records keys of parent tables. A DELETE is recorded
for its own side with the key of the row that it deletes. An UPDATE is recorded for the hashed side,
whichever side it comes from, with the key that its row has afterwards.
-/
namespace SqliteReconcile.RowMerge
open Dicts Outcomes

variable {V : Type} [DecidableEq V]

def ParentKey (databases : Databases V) (row : Row V) (columns : List (Option String))
    (key : List V) : Prop :=
  databases.null ∉ valuesOf row columns ∧ key = (valuesOf row columns).map databases.hashed

/-- A key that the comparison records of a statement that it reads. -/
def Statement.Records (databases : Databases V) (statement : Statement V) (key : List V) : Prop :=
  match statement.change with
  | .insert _ => False
  | .delete predicates => ∃ row, firstRow databases databases.base statement.table predicates =
      some row ∧ ∃ columns ∈ databases.childReferences statement.table,
        ParentKey databases row columns key
  | .update _ _ => ∃ row, statement.written databases = some row ∧
      ∃ index ∈ databases.uniqueIndexes statement.table,
        index.2 ∈ databases.childReferences statement.table ∧ statement.Gives index.2 ∧
          ParentKey databases row index.2 key

variable {databases : Databases V} {cursor : Snapshot V} {table : String}

omit [DecidableEq V] in
lemma eq_valuesOf {columns : List (Option String)} {row : Row V} {values : List V}
    (h : readColumns row columns = .ok values) : values = valuesOf row columns := by
  induction columns generalizing values with
  | nil =>
    cases h
    rfl
  | cons column rest ih =>
    rw [readColumns, mapM_cons] at h
    simp only [bind_eq_ok, pure_eq_ok] at h
    obtain ⟨value, hvalue, later, hlater, rfl⟩ := h
    cases column with
    | none => cases hvalue
    | some name =>
      cases hvalue
      rw [ih hlater]
      rfl

omit [DecidableEq V] in
lemma mem_flatten_mapM {α β : Type} {f : α → Except Failure (List β)} {l : List α}
    {results : List (List β)} (h : l.mapM f = .ok results) {b : β} :
    b ∈ results.flatten ↔ ∃ a ∈ l, ∃ found, f a = .ok found ∧ b ∈ found := by
  rw [List.mem_flatten]
  constructor
  · rintro ⟨found, hfound, hb⟩
    obtain ⟨a, ha, hread⟩ := exists_of_mem_mapM h hfound
    exact ⟨a, ha, found, hread, hb⟩
  · rintro ⟨a, ha, found, hread, hb⟩
    obtain ⟨found', hfound, hread'⟩ := exists_result_of_mem h ha
    rw [hread] at hread'
    cases hread'
    exact ⟨found, hfound, hb⟩

lemma mem_deletedKey {row : Row V} {columns : List (Option String)} {found : List (List V)}
    (h : deletedKey databases row columns = .ok found) {key : List V} :
    key ∈ found ↔ ParentKey databases row columns key := by
  rw [deletedKey, bind_eq_ok] at h
  obtain ⟨values, hvalues, h⟩ := h
  cases pure_eq_ok.mp h
  rw [eq_valuesOf hvalues, ParentKey]
  by_cases hnull : databases.null ∈ valuesOf row columns <;> simp [hnull]

lemma mem_recordedKeys_delete {predicates : List (Predicate V)} {entry : Option (Entry V)}
    {keys : List (List V)}
    (h : Statement.recordedKeys databases ⟨table, .delete predicates⟩ entry = .ok keys)
    (key : List V) : key ∈ keys ↔ Statement.Records databases ⟨table, .delete predicates⟩ key := by
  have hread : Statement.recordedKeys databases ⟨table, .delete predicates⟩ entry =
      if tableIsParent databases table then do
        let row ← requireFullRow databases databases.base table predicates
        let keys ← (databases.childReferences table).mapM (deletedKey databases row)
        return keys.flatten
      else .ok [] := rfl
  rw [hread] at h
  rcases ite_eq_ok.mp h with ⟨-, h⟩ | ⟨hparent, h⟩
  · simp only [bind_eq_ok, pure_eq_ok] at h
    obtain ⟨row, hrow, found, hfound, rfl⟩ := h
    have hfetched := firstRow_of_required hrow
    rw [mem_flatten_mapM hfound]
    constructor
    · rintro ⟨columns, hcolumns, one, hone, hkey⟩
      exact ⟨row, hfetched, columns, hcolumns, (mem_deletedKey hone).mp hkey⟩
    · rintro ⟨other, hother, columns, hcolumns, hkey⟩
      have hsame : some other = some row := hother.symm.trans hfetched
      cases hsame
      obtain ⟨one, -, hone⟩ := exists_result_of_mem hfound hcolumns
      exact ⟨columns, hcolumns, one, hone, (mem_deletedKey hone).mpr hkey⟩
  · cases h
    have hnone : databases.childReferences table = [] := by simpa [tableIsParent] using hparent
    refine iff_of_false List.not_mem_nil ?_
    rintro ⟨row, -, columns, hcolumns, -⟩
    have hmem : columns ∈ databases.childReferences table := hcolumns
    rw [hnone] at hmem
    cases hmem

lemma scanIndexColumns_null {row : Row V} {columnsUpdated : List String}
    {columns : List (Option String)} {scanned : Bool × Bool}
    (hnull : ∃ name, some name ∈ columns ∧ row name = databases.null)
    (h : scanIndexColumns databases row columnsUpdated columns = .ok scanned) :
    scanned.2 = true := by
  induction columns generalizing scanned with
  | nil =>
    obtain ⟨name, hname, -⟩ := hnull
    cases hname
  | cons column rest ih =>
    rw [scanIndexColumns] at h
    simp only [bind_eq_ok] at h
    obtain ⟨value, hvalue, h⟩ := h
    rcases ite_eq_ok.mp h with ⟨-, h⟩ | ⟨hne, h⟩
    · cases pure_eq_ok.mp h
      rfl
    · obtain ⟨later, hlater, h⟩ := bind_eq_ok.mp h
      cases pure_eq_ok.mp h
      obtain ⟨name, hname, hvalueNull⟩ := hnull
      rcases List.mem_cons.mp hname with rfl | hname
      · cases hvalue
        exact absurd hvalueNull hne
      · have hlast : later.2 = true := ih ⟨name, hname, hvalueNull⟩ hlater
        exact hlast

lemma mem_relevantIndexes_iff {row : Row V} {columnsUpdated : List String}
    {indexes relevant : List IndexColumns} (hplain : ∀ index ∈ indexes, none ∉ index.2)
    (h : relevantIndexes databases row columnsUpdated indexes = .ok relevant)
    (index : IndexColumns) :
    index ∈ relevant ↔ index ∈ indexes ∧
      (∃ column ∈ columnsUpdated, some column ∈ index.2) ∧
        databases.null ∉ valuesOf row index.2 := by
  induction indexes generalizing relevant with
  | nil =>
    cases h
    simp
  | cons first rest ih =>
    rw [relevantIndexes] at h
    simp only [bind_eq_ok, pure_eq_ok] at h
    obtain ⟨scanned, hscanned, later, hlater, rfl⟩ := h
    have hrest := ih (fun other hother => hplain other (List.mem_cons_of_mem _ hother)) hlater
    have hfirst : (scanned.1 && !scanned.2) = true ↔
        (∃ column ∈ columnsUpdated, some column ∈ first.2) ∧
          databases.null ∉ valuesOf row first.2 := by
      by_cases hnull : databases.null ∈ valuesOf row first.2
      · obtain ⟨column, hcolumn, hvalue⟩ := List.mem_filterMap.mp hnull
        obtain ⟨name, rfl, hname⟩ := Option.map_eq_some_iff.mp hvalue
        have hhas := scanIndexColumns_null ⟨name, hcolumn, hname⟩ hscanned
        simp [hhas, hnull]
      · have hvalues : ∀ name, some name ∈ first.2 → row name ≠ databases.null := by
          intro name hname hisNull
          exact hnull (List.mem_filterMap.mpr ⟨some name, hname, congrArg some hisNull⟩)
        rw [scanIndexColumns_eq (hplain first List.mem_cons_self) hvalues] at hscanned
        cases hscanned
        have hassigned : (first.2.any fun column => column ∈ columnsUpdated.map some) = true ↔
            ∃ column ∈ columnsUpdated, some column ∈ first.2 := by
          simp only [List.any_eq_true, decide_eq_true_iff, List.mem_map]
          constructor
          · rintro ⟨_, hin, column, hcolumn, rfl⟩
            exact ⟨column, hcolumn, hin⟩
          · rintro ⟨column, hcolumn, hin⟩
            exact ⟨some column, hin, column, hcolumn, rfl⟩
        rw [Bool.not_false, Bool.and_true, hassigned, and_iff_left hnull]
    by_cases hrelevant : (scanned.1 && !scanned.2) = true
    · rw [if_pos hrelevant, List.mem_cons, List.mem_cons, hrest]
      constructor
      · rintro (rfl | ⟨hmem, hrelevant'⟩)
        · exact ⟨.inl rfl, hfirst.mp hrelevant⟩
        · exact ⟨.inr hmem, hrelevant'⟩
      · rintro ⟨rfl | hmem, hrelevant'⟩
        · exact .inl rfl
        · exact .inr ⟨hmem, hrelevant'⟩
    · rw [if_neg hrelevant, hrest, List.mem_cons]
      refine and_congr_left fun hrelevant' => ⟨.inr, ?_⟩
      rintro (rfl | hmem)
      · exact absurd (hfirst.mpr hrelevant') hrelevant
      · exact hmem

lemma mem_recordedKeys_update (hs : Supported databases) {assignments : List (String × V)}
    {predicates : List (Predicate V)} {row : Row V} {relevant : List IndexColumns}
    (hwritten : Statement.written databases ⟨table, .update assignments predicates⟩ = some row)
    (hrelevant : relevantIndexes databases row (assignments.map Prod.fst)
      (databases.uniqueIndexes table) = .ok relevant) {keys : List (List V)}
    (h : Statement.recordedKeys databases ⟨table, .update assignments predicates⟩
      (some ⟨row, relevant⟩) = .ok keys) (key : List V) :
    key ∈ keys ↔ Statement.Records databases ⟨table, .update assignments predicates⟩ key := by
  have hread : Statement.recordedKeys databases ⟨table, .update assignments predicates⟩
      (some ⟨row, relevant⟩) =
      if tableIsParent databases table then do
        let keys ← relevant.mapM (updatedKey databases (databases.childReferences table) row)
        return keys.flatten
      else .ok [] := rfl
  have hmem : ∀ index, index ∈ relevant ↔ index ∈ databases.uniqueIndexes table ∧
      (∃ assignment ∈ assignments, some assignment.1 ∈ index.2) ∧
        databases.null ∉ valuesOf row index.2 := by
    intro index
    rw [mem_relevantIndexes_iff (hs.plainIndexes table) hrelevant]
    simp
  have hrecords : Statement.Records databases ⟨table, .update assignments predicates⟩ key ↔
      ∃ index ∈ relevant, index.2 ∈ databases.childReferences table ∧
        key = (valuesOf row index.2).map databases.hashed := by
    constructor
    · rintro ⟨other, hother, index, hindex, hparent, hgives, hnull, hkey⟩
      have hsame : some other = some row := hother.symm.trans hwritten
      cases hsame
      exact ⟨index, (hmem index).mpr ⟨hindex, hgives, hnull⟩, hparent, hkey⟩
    · rintro ⟨index, hindex, hparent, hkey⟩
      obtain ⟨hindex, hgives, hnull⟩ := (hmem index).mp hindex
      exact ⟨row, hwritten, index, hindex, hparent, hgives, hnull, hkey⟩
  rw [hread] at h
  rw [hrecords]
  rcases ite_eq_ok.mp h with ⟨-, h⟩ | ⟨hparent, h⟩
  · simp only [bind_eq_ok, pure_eq_ok] at h
    obtain ⟨found, hfound, rfl⟩ := h
    rw [mem_flatten_mapM hfound]
    refine exists_congr fun index => and_congr_right fun hindex => ?_
    obtain ⟨one, -, hone⟩ := exists_result_of_mem hfound hindex
    have hkeys : key ∈ one ↔ index.2 ∈ databases.childReferences table ∧
        key = (valuesOf row index.2).map databases.hashed := by
      rw [updatedKey] at hone
      rcases ite_eq_ok.mp hone with ⟨hparent, hone⟩ | ⟨hparent, hone⟩
      · obtain ⟨values, hvalues, hone⟩ := bind_eq_ok.mp hone
        cases pure_eq_ok.mp hone
        rw [eq_valuesOf hvalues, List.mem_singleton, and_iff_right hparent]
      · cases pure_eq_ok.mp hone
        exact iff_of_false List.not_mem_nil fun hboth => hparent hboth.1
    rw [← hkeys]
    constructor
    · rintro ⟨other, hother, hkey⟩
      rw [hone] at hother
      cases hother
      exact hkey
    · exact fun hkey => ⟨one, hone, hkey⟩
  · cases h
    have hnone : databases.childReferences table = [] := by simpa [tableIsParent] using hparent
    refine iff_of_false List.not_mem_nil ?_
    rintro ⟨index, -, hin, -⟩
    rw [hnone] at hin
    cases hin

lemma mem_removed_iff {statement : Statement V} {i : ℕ} {effect : Effect V}
    (hb : BaseOk databases) (hcursor : Constrained databases cursor) (hkeyed : Keyed databases cursor)
    (hfits : statement.Fits databases)
    (hrow : ∀ row, statement.written databases = some row → row ∈ cursor statement.table)
    (h : statement.effect databases cursor i = .ok effect) (key : List V) :
    key ∈ effect.removed ↔ statement.Records databases key := by
  obtain ⟨table, change⟩ := statement
  rw [Statement.effect] at h
  simp only [bind_eq_ok, pure_eq_ok] at h
  obtain ⟨own, hown, entry, hentry, unique, -, removed, hremoved, rfl⟩ := h
  cases change with
  | insert columns =>
    rw [recordedKeys_insert] at hremoved
    cases hremoved
    exact iff_of_false List.not_mem_nil id
  | delete predicates => exact mem_recordedKeys_delete hremoved key
  | update assignments predicates =>
    obtain ⟨target, htarget⟩ := exists_targets_of_update hfits hown
    have hwritten : Statement.written databases ⟨table, .update assignments predicates⟩ =
      some (assign assignments target) := htarget.written hb
    have hnames := names_congr (rowKey_assign hfits.change.2 target).symm htarget.names
    have hfetched := firstRow_of_names hb.toSupported hcursor hkeyed (hrow _ hwritten) hnames
    have hread : Statement.entry databases cursor ⟨table, .update assignments predicates⟩ =
        if Statement.updatesUniqueColumn databases table assignments then do
          let row ← requireFullRow databases cursor table predicates
          let relevant ← relevantIndexes databases row (assignments.map Prod.fst)
            (databases.uniqueIndexes table)
          return some ⟨row, relevant⟩
        else return none := rfl
    rw [hread] at hentry
    rcases ite_eq_ok.mp hentry with ⟨-, hentry⟩ | ⟨hupdates, hentry⟩
    · simp only [bind_eq_ok, pure_eq_ok] at hentry
      obtain ⟨row, hrequired, relevant, hrelevant, rfl⟩ := hentry
      have hsame := firstRow_of_required hrequired
      rw [hfetched] at hsame
      cases hsame
      exact mem_recordedKeys_update hb.toSupported hwritten hrelevant hremoved key
    · cases pure_eq_ok.mp hentry
      have hnil : removed = [] := by
        have hempty : Statement.recordedKeys databases ⟨table, .update assignments predicates⟩ none =
            if tableIsParent databases table then .ok [] else .ok [] := rfl
        rw [hempty, ite_self] at hremoved
        exact (Except.ok.inj hremoved).symm
      rw [hnil]
      refine iff_of_false List.not_mem_nil ?_
      rintro ⟨row, -, index, hindex, -, ⟨assignment, hassignment, hcolumn⟩, -⟩
      refine hupdates (List.any_eq_true.mpr ⟨assignment, hassignment, decide_eq_true ?_⟩)
      exact List.mem_flatMap.mpr ⟨index, hindex, hcolumn⟩

section looks

variable {invalid : Dict String InvalidTableState} {hashed : Bool}
  {toBuild toLookup : List (Statement V)} {effects : List (Effect V)} {looked : List (Looked V)}
  {look : Looked V} {s : Statement V} {i : ℕ}

lemma look_removed (htouched : effects ≠ []) (h : s.look databases cursor effects i = .ok look) :
    (∃ j, look.verdict = .matched j) ∧ removedOfSame databases s = .ok look.removed ∨
      (¬ ∃ j, look.verdict = .matched j) ∧
        ∃ effect, s.effect databases cursor i = .ok effect ∧ look.removed = effect.removed := by
  cases hkey : s.key databases with
  | error e =>
    rw [look_error htouched hkey] at h
    cases h
  | ok key =>
    cases hpartner : partner effects key with
    | none =>
      rw [look_none htouched hkey hpartner, map_eq_ok] at h
      obtain ⟨effect, heffect, rfl⟩ := h
      refine .inr ⟨?_, effect, heffect, rfl⟩
      rintro ⟨j, hverdict⟩
      rw [verdictOfMet] at hverdict
      split at hverdict <;> cases hverdict
    | some found =>
      by_cases hsame : found.sameAs databases s = true
      · rw [look_same htouched hkey hpartner hsame, map_eq_ok] at h
        obtain ⟨removed, hremoved, rfl⟩ := h
        exact .inl ⟨⟨found.index, rfl⟩, hremoved⟩
      · rw [look_differs htouched hkey hpartner hsame, map_eq_ok] at h
        obtain ⟨effect, heffect, rfl⟩ := h
        refine .inr ⟨?_, effect, heffect, rfl⟩
        rintro ⟨j, hverdict⟩
        cases hverdict

/-- A statement that is looked up records its keys if the hashed side touches its table, and makes
another change unless it is a DELETE. -/
lemma mem_look_removed_iff (hb : BaseOk databases)
    (hcursor : Constrained databases (databases.cursor !hashed))
    (hkeyed : Keyed databases (databases.cursor !hashed)) (hfits : s.Fits databases)
    (hrow : ∀ row, s.written databases = some row → row ∈ databases.cursor (!hashed) s.table)
    (h : readEffects databases (databases.cursor hashed) (validOf invalid toBuild) = .ok effects)
    (honce : OncePerKey databases toBuild) (hvalid : invalid.get? s.table = none)
    (hlook : s.look databases (databases.cursor !hashed) (onTable effects s.table) i = .ok look)
    (key : List V) :
    key ∈ look.removed ↔ (∃ t ∈ toBuild, t.table = s.table) ∧
      (s.change.kind = .delete ∨ ¬ ∃ t ∈ toBuild, SameChange databases t s) ∧
        s.Records databases key := by
  by_cases huntouched : onTable effects s.table = []
  · have hnone := mt (touched_iff h hvalid).mpr (not_not.mpr huntouched)
    rw [Statement.look, if_pos huntouched] at hlook
    cases hlook
    exact iff_of_false List.not_mem_nil fun hboth => hnone hboth.1
  · have htouched := (touched_iff h hvalid).mp huntouched
    have hmatched : (∃ j, look.verdict = .matched j) ↔ ∃ t ∈ toBuild, SameChange databases t s := by
      have hjudged := (judged_of_look h hvalid honce hlook).1
      constructor
      · rintro ⟨j, hverdict⟩
        obtain ⟨t, hget, hsame⟩ := (hjudged.matched j).mp hverdict
        exact ⟨t, List.mem_of_getElem? hget, hsame⟩
      · rintro ⟨t, ht, hsame⟩
        obtain ⟨j, hget⟩ := List.mem_iff_getElem?.mp ht
        exact ⟨j, (hjudged.matched j).mpr ⟨t, hget, hsame⟩⟩
    rw [and_iff_right htouched]
    rcases look_removed huntouched hlook with ⟨hsame, hremoved⟩ | ⟨hdiffers, effect, heffect, hremoved⟩
    · rw [removedOfSame] at hremoved
      rcases ite_eq_ok.mp hremoved with ⟨hdelete, hremoved⟩ | ⟨hkind, hremoved⟩
      · obtain ⟨table, change⟩ := s
        cases change with
        | insert columns => cases hdelete
        | update assignments predicates => cases hdelete
        | delete predicates =>
          rw [mem_recordedKeys_delete hremoved]
          exact (and_iff_right (.inl rfl)).symm
      · rw [← Except.ok.inj hremoved]
        exact iff_of_false List.not_mem_nil fun hboth =>
          hboth.1.elim hkind fun hother => hother (hmatched.mp hsame)
    · rw [hremoved, mem_removed_iff hb hcursor hkeyed hfits hrow heffect]
      exact (and_iff_right (.inr (mt hmatched.mpr hdiffers))).symm

end looks

omit [DecidableEq V] in
lemma dict_withDict (removed : TableForeignKeyConflictState V) (side other : Bool)
    (dict : Dict (List V) ℕ) :
    (removed.withDict side dict).dict other = if other = side then dict else removed.dict other := by
  cases side <;> cases other <;> rfl

/-- The keys that statements record for one side, with their indices. -/
def recordedFor (hashed side : Bool) (looked : List (Looked V)) : List (List V × ℕ) :=
  (looked.filter fun look => recordedSide hashed look.kind = side).flatMap
    fun look => look.removed.map (·, look.index)

lemma dict_foldl_record (hashed side : Bool) (looked : List (Looked V))
    (removed : TableForeignKeyConflictState V) :
    (looked.foldl (fun removed look =>
        removed.record (recordedSide hashed look.kind) look.index look.removed) removed).dict side =
      (removed.dict side).setAll (recordedFor hashed side looked) := by
  induction looked generalizing removed with
  | nil => rfl
  | cons look looked ih =>
    rw [List.foldl_cons, ih, TableForeignKeyConflictState.record, dict_withDict, recordedFor,
      recordedFor]
    by_cases hside : recordedSide hashed look.kind = side
    · rw [if_pos hside.symm, List.filter_cons_of_pos (by simpa using hside), List.flatMap_cons,
        Dict.setAll_append, hside]
    · rw [if_neg (Ne.symm hside), List.filter_cons_of_neg (by simpa using hside)]

omit [DecidableEq V] in
lemma sorted_records {α : Type} {l : List α} {index : α → ℕ} {keys : α → List (List V)}
    (hsorted : l.Pairwise fun first second => index first < index second) :
    (l.flatMap fun a => (keys a).map (·, index a)).Pairwise
      fun first second => first.2 ≤ second.2 := by
  refine List.pairwise_flatMap.mpr ⟨fun a _ => ?_, hsorted.imp fun {first second} hlt => ?_⟩
  · exact List.pairwise_map.mpr (List.pairwise_of_forall fun _ _ => le_refl _)
  · intro x hx y hy
    obtain ⟨_, -, rfl⟩ := List.mem_map.mp hx
    obtain ⟨_, -, rfl⟩ := List.mem_map.mp hy
    exact hlt.le

/-- The index that is recorded last is the greatest one. -/
lemma lastOf_eq_some_iff_isGreatest {writes : List (List V × ℕ)} {key : List V} {i : ℕ}
    {indices : Set ℕ} (hsorted : writes.Pairwise fun first second => first.2 ≤ second.2)
    (hmem : ∀ j, (key, j) ∈ writes ↔ j ∈ indices) :
    Dict.lastOf writes key = some i ↔ IsGreatest indices i := by
  rw [Dict.lastOf_eq_some_iff_of_sorted hsorted, hmem]
  exact and_congr_right fun _ => forall_congr' fun j => by rw [hmem]

lemma lastOf_eq_none_iff {writes : List (List V × ℕ)} {key : List V} {indices : Set ℕ}
    (hmem : ∀ j, (key, j) ∈ writes ↔ j ∈ indices) :
    Dict.lastOf writes key = none ↔ indices = ∅ := by
  constructor
  · intro hnone
    refine Set.eq_empty_of_forall_notMem fun j hj => ?_
    obtain ⟨last, hlast⟩ := Dict.lastOf_isSome ((hmem j).mpr hj)
    rw [hnone] at hlast
    cases hlast
  · intro hempty
    cases hlast : Dict.lastOf writes key with
    | none => rfl
    | some j =>
      have hj := (hmem j).mp (Dict.mem_of_lastOf hlast)
      rw [hempty] at hj
      cases hj

section removed

variable {invalid : Dict String InvalidTableState} {baseToOurs baseToTheirs : List (Statement V)}
  {comparison : Comparison V}

/-- The statements of a list on a table that record a key and satisfy a condition. -/
def recordingIndices (databases : Databases V) (list : List (Statement V)) (table : String)
    (key : List V) (condition : Statement V → Prop) : Set ℕ :=
  {j | ∃ s, list[j]? = some s ∧ s.table = table ∧ s.Records databases key ∧ condition s}

section lists

variable (hd : Diffs databases invalid baseToOurs baseToTheirs)
  (hsides : ∀ side, Constrained databases (databases.cursor side))
  (hvalid : invalid.get? table = none) {hashed : Bool} {effects : List (Effect V)}
  {looked : List (Looked V)}
  (h : readEffects databases (databases.cursor hashed)
    (validOf invalid (ofSide hashed baseToOurs baseToTheirs)) = .ok effects)
include hd hsides hvalid h

lemma mem_removedKeysOf_iff (key : List V) (j : ℕ) :
    (key, j) ∈ removedKeysOf (onTable effects table) ↔
      j ∈ recordingIndices databases (ofSide hashed baseToOurs baseToTheirs) table key
        fun _ => True := by
  have hremoved : ∀ {s : Statement V} {i : ℕ} {effect : Effect V},
      s ∈ ofSide hashed baseToOurs baseToTheirs →
      s.effect databases (databases.cursor hashed) i = .ok effect →
      (key ∈ effect.removed ↔ s.Records databases key) := fun hs heffect =>
    mem_removed_iff hd.base (hsides hashed) (hd.keyed hashed) ((hd.diff hashed).fits _ hs)
      (fun row hrow => hd.mem_written hashed hs hrow) heffect key
  rw [removedKeysOf, List.mem_flatMap]
  constructor
  · rintro ⟨effect, heffect, hkey⟩
    obtain ⟨hmem, htable⟩ := mem_onTable.mp heffect
    obtain ⟨own, hown, hpair⟩ := List.mem_map.mp hkey
    obtain ⟨rfl, rfl⟩ := Prod.mk.inj hpair
    obtain ⟨s, hget, -, hsame, hread⟩ := mem_of_readEffects h hmem
    exact ⟨s, hget, hsame.trans htable, (hremoved (List.mem_of_getElem? hget) hread).mp hown, trivial⟩
  · rintro ⟨s, hget, rfl, hrecords, -⟩
    obtain ⟨effect, hmem, hread⟩ := exists_effect h hget hvalid
    obtain ⟨htable, hindex, -⟩ := Statement.effect_fields hread
    refine ⟨effect, mem_onTable.mpr ⟨hmem, htable⟩, List.mem_map.mpr ⟨key, ?_, ?_⟩⟩
    · exact (hremoved (List.mem_of_getElem? hget) hread).mpr hrecords
    · rw [hindex]

lemma mem_recordedFor_iff
    (hl : readLooks databases (databases.cursor !hashed) effects
      (validOf invalid (ofSide (!hashed) baseToOurs baseToTheirs)) = .ok looked)
    (side : Bool) (key : List V) (j : ℕ) :
    (key, j) ∈ recordedFor hashed side (looked.filter fun look => look.table = table) ↔
      j ∈ recordingIndices databases (ofSide (!hashed) baseToOurs baseToTheirs) table key fun s =>
        (∃ t ∈ ofSide hashed baseToOurs baseToTheirs, t.table = table) ∧
          recordedSide hashed s.change.kind = side ∧ (s.change.kind = .delete ∨
            ¬ ∃ t ∈ ofSide hashed baseToOurs baseToTheirs, SameChange databases t s) := by
  have hremoved : ∀ {s : Statement V} {i : ℕ} {look : Looked V},
      s ∈ ofSide (!hashed) baseToOurs baseToTheirs → invalid.get? s.table = none →
      s.look databases (databases.cursor !hashed) (onTable effects s.table) i = .ok look →
      (key ∈ look.removed ↔ (∃ t ∈ ofSide hashed baseToOurs baseToTheirs, t.table = s.table) ∧
        (s.change.kind = .delete ∨
          ¬ ∃ t ∈ ofSide hashed baseToOurs baseToTheirs, SameChange databases t s) ∧
        s.Records databases key) := fun hs hsValid hlook =>
    mem_look_removed_iff hd.base (hsides !hashed) (hd.keyed !hashed) ((hd.diff !hashed).fits _ hs)
      (fun row hrow => hd.mem_written (!hashed) hs hrow) h (hd.diff hashed).once hsValid hlook key
  rw [recordedFor, List.mem_flatMap]
  constructor
  · rintro ⟨look, hlook, hkey⟩
    obtain ⟨hlook, hside⟩ := List.mem_filter.mp hlook
    obtain ⟨hmem, htable⟩ := List.mem_filter.mp hlook
    obtain ⟨own, hown, hpair⟩ := List.mem_map.mp hkey
    obtain ⟨rfl, rfl⟩ := Prod.mk.inj hpair
    obtain ⟨⟨s, i⟩, hentry, hread⟩ := exists_of_mem_mapM hl hmem
    obtain ⟨hget, hsValid⟩ := mem_validOf.mp hentry
    obtain ⟨hsame, hindex, hkind, -⟩ := Statement.look_fields hread
    obtain ⟨htouched, hdiffers, hrecords⟩ :=
      (hremoved (List.mem_of_getElem? hget) hsValid hread).mp hown
    have hon : s.table = table := hsame.symm.trans (of_decide_eq_true htable)
    refine ⟨s, hindex ▸ hget, hon, hrecords, hon ▸ htouched, ?_, hdiffers⟩
    rw [← hkind]
    exact of_decide_eq_true hside
  · rintro ⟨s, hget, rfl, hrecords, htouched, hside, hdiffers⟩
    have hentry : (s, j) ∈ validOf invalid (ofSide (!hashed) baseToOurs baseToTheirs) :=
      mem_validOf.mpr ⟨hget, hvalid⟩
    obtain ⟨look, hmem, hread⟩ := exists_result_of_mem hl hentry
    obtain ⟨hsame, hindex, hkind, -⟩ := Statement.look_fields hread
    refine ⟨look, List.mem_filter.mpr ⟨List.mem_filter.mpr ⟨hmem, decide_eq_true hsame⟩, ?_⟩,
      List.mem_map.mpr ⟨key, ?_, ?_⟩⟩
    · rw [hkind]
      exact decide_eq_true hside
    · exact (hremoved (List.mem_of_getElem? hget) hvalid hread).mpr ⟨htouched, hdiffers, hrecords⟩
    · rw [hindex]

end lists

/-- What the comparison records of a valid parent table. The side that is not hashed gets the keys of
its DELETEs. The hashed side gets the keys of its statements and those that UPDATEs of the other side
write, with or without an entry of its own; where both give a key, the other side's entry stays.
Statements of the other side count only if the hashed side touches the table, and an UPDATE does not
count if the hashed side makes the same change. -/
theorem removedKeys_exact (hd : Diffs databases invalid baseToOurs baseToTheirs)
    (hsides : ∀ side, Constrained databases (databases.cursor side))
    (hrun : checkConflictAndReturnDiffs databases baseToOurs baseToTheirs invalid = .ok comparison)
    (hvalid : invalid.get? table = none) (key : List V) (i : ℕ) :
    let hashed := hashesOurs baseToOurs baseToTheirs
    let own := ofSide hashed baseToOurs baseToTheirs
    let other := ofSide hashed baseToTheirs baseToOurs
    let touched := ∃ t ∈ own, t.table = table
    let updates := recordingIndices databases other table key fun s =>
      touched ∧ s.change.kind = .update ∧ ¬ ∃ t ∈ own, SameChange databases t s
    (((comparison.removedKeys table).dict hashed).get? key = some i ↔
      IsGreatest updates i ∨ updates = ∅ ∧
        IsGreatest (recordingIndices databases own table key fun _ => True) i) ∧
    (((comparison.removedKeys table).dict !hashed).get? key = some i ↔
      IsGreatest (recordingIndices databases other table key fun s =>
        touched ∧ s.change.kind = .delete) i) := by
  obtain ⟨hashed, hhashed⟩ : ∃ hashed, hashed = hashesOurs baseToOurs baseToTheirs := ⟨_, rfl⟩
  have hlists : ofSide hashed baseToTheirs baseToOurs = ofSide (!hashed) baseToOurs baseToTheirs := by
    cases hashed <;> rfl
  have honce : ∀ side, OncePerKey databases (ofSide side baseToOurs baseToTheirs) :=
    fun side => (hd.diff side).once
  have hfit : PartnersFit databases invalid (databases.cursor hashed)
      (ofSide hashed baseToOurs baseToTheirs) (ofSide (!hashed) baseToOurs baseToTheirs) :=
    partnersFit (honce hashed) (knownKeys_of_rowDiff hd.base (hd.diff hashed))
      (knownKeys_of_rowDiff hd.base (hd.diff !hashed))
  obtain ⟨effects, looked, h, hl, hc⟩ :=
    compared_of_ok hhashed rfl hlists.symm (honce hashed) (honce !hashed) hfit hrun
  -- both dictionaries are filled by assignments with indices that do not decrease
  have hsorted : (looked.filter fun look => look.table = table).Pairwise
      fun first second => first.index < second.index := (ascending_of_readLooks hl).filter _
  have hsortedFor : ∀ side, (recordedFor hashed side (looked.filter fun look =>
      look.table = table)).Pairwise fun first second => first.2 ≤ second.2 :=
    fun side => sorted_records (hsorted.filter _)
  have hsortedOwn : (removedKeysOf (onTable effects table)).Pairwise
      fun first second => first.2 ≤ second.2 :=
    sorted_records ((ascending_of_readEffects h).filter _)
  have hdict : ∀ side, (comparison.removedKeys table).dict side =
      ((TableForeignKeyConflictState.withDict ⟨.empty, .empty⟩ hashed (Dict.empty.setAll
        (removedKeysOf (onTable effects table)))).dict side).setAll
          (recordedFor hashed side (looked.filter fun look => look.table = table)) := by
    intro side
    rw [hc.removedKeys, dict_foldl_record]
  simp only [← hhashed, hlists]
  constructor
  · have hupdates : ∀ j, (key, j) ∈ recordedFor hashed hashed
        (looked.filter fun look => look.table = table) ↔
        j ∈ recordingIndices databases (ofSide (!hashed) baseToOurs baseToTheirs) table key fun s =>
          (∃ t ∈ ofSide hashed baseToOurs baseToTheirs, t.table = table) ∧
            s.change.kind = .update ∧
              ¬ ∃ t ∈ ofSide hashed baseToOurs baseToTheirs, SameChange databases t s := by
      intro j
      rw [mem_recordedFor_iff hd hsides hvalid h hl]
      refine exists_congr fun s => and_congr_right fun _ => and_congr_right fun _ =>
        and_congr_right fun hrecords => and_congr_right fun _ => ?_
      obtain ⟨own, change⟩ := s
      cases change with
      | insert columns => exact absurd hrecords id
      | update assignments predicates => simp [Change.kind, recordedSide]
      | delete predicates => simp [Change.kind, recordedSide]
    rw [hdict, dict_withDict, if_pos rfl, Dict.get?_setAll, Dict.get?_setAll, Dict.get?_empty,
      Option.or_none, Option.or_eq_some_iff, lastOf_eq_some_iff_isGreatest (hsortedFor hashed) hupdates,
      lastOf_eq_none_iff hupdates, lastOf_eq_some_iff_isGreatest hsortedOwn
        (mem_removedKeysOf_iff hd hsides hvalid h key)]
  · have hdeletes : ∀ j, (key, j) ∈ recordedFor hashed (!hashed)
        (looked.filter fun look => look.table = table) ↔
        j ∈ recordingIndices databases (ofSide (!hashed) baseToOurs baseToTheirs) table key fun s =>
          (∃ t ∈ ofSide hashed baseToOurs baseToTheirs, t.table = table) ∧
            s.change.kind = .delete := by
      intro j
      rw [mem_recordedFor_iff hd hsides hvalid h hl]
      refine exists_congr fun s => and_congr_right fun _ => and_congr_right fun _ =>
        and_congr_right fun hrecords => and_congr_right fun _ => ?_
      obtain ⟨own, change⟩ := s
      cases change with
      | insert columns => exact absurd hrecords id
      | update assignments predicates => simp [Change.kind, recordedSide]
      | delete predicates => simp [Change.kind, recordedSide]
    rw [hdict, dict_withDict, if_neg (by simp), Dict.get?_setAll]
    have hempty : (TableForeignKeyConflictState.dict (⟨.empty, .empty⟩ :
        TableForeignKeyConflictState V) !hashed).get? key = none := by cases hashed <;> rfl
    rw [hempty, Option.or_none, lastOf_eq_some_iff_isGreatest (hsortedFor !hashed) hdeletes]

end removed

def referred : Databases (Option ℕ) :=
  accounts.withLinks fun table => ⟨.empty, if table = "users" then [[some "email"]] else []⟩

/-- The email that ours gives an account is recorded. -/
theorem removedKeys_exact_referred : ∃ comparison,
    checkConflictAndReturnDiffs referred [changeEmail] [insertUser 2 9] .empty = .ok comparison ∧
    ∀ key i,
      let hashed := hashesOurs [changeEmail] [insertUser 2 9]
      let own := ofSide hashed [changeEmail] [insertUser 2 9]
      let other := ofSide hashed [insertUser 2 9] [changeEmail]
      let touched := ∃ t ∈ own, t.table = "users"
      let updates := recordingIndices referred other "users" key fun s =>
        touched ∧ s.change.kind = .update ∧ ¬ ∃ t ∈ own, SameChange referred t s
      (((comparison.removedKeys "users").dict hashed).get? key = some i ↔
        IsGreatest updates i ∨ updates = ∅ ∧
          IsGreatest (recordingIndices referred own "users" key fun _ => True) i) ∧
      (((comparison.removedKeys "users").dict !hashed).get? key = some i ↔
        IsGreatest (recordingIndices referred other "users" key fun s =>
          touched ∧ s.change.kind = .delete) i) := by
  obtain ⟨comparison, hrun⟩ : ∃ comparison, checkConflictAndReturnDiffs referred [changeEmail]
    [insertUser 2 9] .empty = .ok comparison := ⟨_, rfl⟩
  refine ⟨comparison, hrun, removedKeys_exact (diffs_accounts.withLinks _) (fun side => ?_) hrun rfl⟩
  cases side with
  | true => exact constrained_onUsers (List.pairwise_singleton _ _)
  | false =>
    refine constrained_onUsers (List.pairwise_cons.mpr ⟨fun row hrow => ?_, List.pairwise_singleton _ _⟩)
    rw [List.mem_singleton.mp hrow]
    decide

end SqliteReconcile.RowMerge
