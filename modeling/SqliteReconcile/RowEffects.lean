import SqliteReconcile.Outcomes
import SqliteReconcile.RowMerge

/-!
# What one statement does to the comparison

Of a statement the comparison reads its key, the values that its row has in the unique indexes
and the parent keys that it removes. The state of a table is a function of what was read.
-/
namespace SqliteReconcile.RowMerge
open Dicts Outcomes

variable {V : Type} [DecidableEq V]

def Change.kind : Change V → Kind
  | .insert _ => .insert
  | .update _ _ => .update
  | .delete _ => .delete

def Statement.key (databases : Databases V) (statement : Statement V) :
    Except Failure (KeyTuple V) :=
  let keyColumns := databases.primaryKeys statement.table
  match statement.change with
  | .insert columns =>
    (getKeyValuesAndColumnToLiteralInsert keyColumns columns).map Prod.fst
  | .update _ predicates => getPrimaryKeyValuesFromWhere databases keyColumns predicates
  | .delete predicates => getPrimaryKeyValuesFromWhere databases keyColumns predicates

def Statement.literals (databases : Databases V) (statement : Statement V) :
    Option (Literals V) :=
  match statement.change with
  | .insert columns =>
    let keyColumns := databases.primaryKeys statement.table
    some (columns.foldl (placeColumn keyColumns)
      (List.replicate keyColumns.keys.length none, ∅)).2
  | .update assignments _ => some (columnToLiteral assignments)
  | .delete _ => none

/-- The unique indexes of which an UPDATE may change the values of a row. -/
def relevantIndexes (databases : Databases V) (row : Row V) (columnsUpdated : List String) :
    List IndexColumns → Except Failure (List IndexColumns)
  | [] => .ok []
  | index :: rest => do
    let scanned ← scanIndexColumns databases row columnsUpdated index.2
    let relevant ← relevantIndexes databases row columnsUpdated rest
    return if scanned.1 && !scanned.2 then index :: relevant else relevant

/-- The row that a statement writes, with the unique indexes that it is entered in. -/
structure Entry (V : Type) where
  row : Row V
  indexes : List IndexColumns

def insertEntry (databases : Databases V) (table : String) (row : Option (Row V)) :
    Except Failure (Option (Entry V)) :=
  let indexes := databases.uniqueIndexes table
  if indexes.isEmpty then .ok none
  else do
    let row ← requireRow row
    return some ⟨row, indexes⟩

def Statement.entry (databases : Databases V) (cursor : Snapshot V) (statement : Statement V) :
    Except Failure (Option (Entry V)) :=
  match statement.change with
  | .insert columns => do
    let row ← getFullRowOfInsert databases cursor statement.table
      (databases.primaryKeys statement.table) columns
    insertEntry databases statement.table row
  | .update assignments predicates =>
    if Statement.updatesUniqueColumn databases statement.table assignments then do
      let row ← requireFullRow databases cursor statement.table predicates
      let relevant ← relevantIndexes databases row (assignments.map Prod.fst)
        (databases.uniqueIndexes statement.table)
      return some ⟨row, relevant⟩
    else return none
  | .delete _ => return none

abbrev IndexKey (V : Type) := IndexColumns × List V

def indexKey (databases : Databases V) (row : Row V) (index : IndexColumns) :
    Except Failure (List (IndexKey V)) := do
  let values ← readColumns row index.2
  return if databases.null ∈ values then [] else [(index, values.map databases.hashed)]

def Entry.uniqueKeys (databases : Databases V) (entry : Entry V) :
    Except Failure (List (IndexKey V)) := do
  let keys ← entry.indexes.mapM (indexKey databases entry.row)
  return keys.flatten

/-- The values that the row of a statement has in unique indexes. -/
def uniqueKeys (databases : Databases V) : Option (Entry V) → Except Failure (List (IndexKey V))
  | some entry => entry.uniqueKeys databases
  | none => .ok []

def deletedKey (databases : Databases V) (row : Row V) (columns : List (Option String)) :
    Except Failure (List (List V)) := do
  let values ← readColumns row columns
  return if databases.null ∈ values then [] else [values.map databases.hashed]

/-- The parent keys that the comparison records as removed by a statement. -/
def Statement.recordedKeys (databases : Databases V) (statement : Statement V)
    (entry : Option (Entry V)) : Except Failure (List (List V)) :=
  let references := databases.childReferences statement.table
  if tableIsParent databases statement.table then
    match statement.change, entry with
    | .delete predicates, _ => do
      let row ← requireFullRow databases databases.base statement.table predicates
      let keys ← references.mapM (deletedKey databases row)
      return keys.flatten
    | .update _ _, some entry => do
      let keys ← entry.indexes.mapM (updatedKey databases references entry.row)
      return keys.flatten
    | _, _ => .ok []
  else .ok []

structure Effect (V : Type) where
  table : String
  index : ℕ
  key : KeyTuple V
  kind : Kind
  literals : Option (Literals V)
  unique : List (IndexKey V)
  removed : List (List V)

def Effect.data (effect : Effect V) : KeyValueData V := ⟨effect.index, effect.kind, effect.literals⟩

def Effect.valuesIn (effect : Effect V) (indexName : String) : List (List V × ℕ) :=
  (effect.unique.filter fun key => key.1.1 = indexName).map fun key => (key.2, effect.index)

def indexState (effects : List (Effect V)) (index : IndexColumns) : UniqueIndexState V :=
  ⟨index.1, index.2, Dict.empty.setAll (effects.flatMap (·.valuesIn index.1))⟩

def tableState (databases : Databases V) (table : String) (effects : List (Effect V)) :
    TableConflictState V where
  primaryKeyColumnsToIndex := databases.primaryKeys table
  primaryKeyValueToData := Dict.empty.setAll (effects.map fun effect => (effect.key, effect.data))
  uniqueKeyColumnNames := (databases.uniqueIndexes table).flatMap Prod.snd
  uniqueIndexes := (databases.uniqueIndexes table).map (indexState effects)

lemma tableState_nil (databases : Databases V) (table : String) :
    tableState databases table [] = newTableConflictState databases table := rfl

variable {databases : Databases V} {row : Row V}

lemma firstRow_of_fetched {snapshot : Snapshot V} {table : String} {bareColumns : List String}
    {predicates : List (Predicate V)} {found : Option (Row V)}
    (h : fetchRow databases snapshot table bareColumns predicates = .ok found) :
    firstRow databases snapshot table predicates = found := by
  unfold fetchRow at h
  split at h
  · cases h
  · exact Except.ok.inj h

lemma firstRow_of_required {snapshot : Snapshot V} {table : String}
    {predicates : List (Predicate V)}
    (h : requireFullRow databases snapshot table predicates = .ok row) :
    firstRow databases snapshot table predicates = some row := by
  obtain ⟨found, hfetched, hrow⟩ := bind_eq_ok.mp h
  rw [firstRow_of_fetched hfetched]
  cases found with
  | none => cases hrow
  | some found =>
    cases hrow
    rfl

lemma getRelevantUniqueIndexes_map (columnsUpdated : List String)
    {state : IndexColumns → UniqueIndexState V} (hstate : ∀ index, (state index).columnNames = index.2)
    (indexes : List IndexColumns) :
    getRelevantUniqueIndexesFromUpdate databases row columnsUpdated (indexes.map state) =
      (relevantIndexes databases row columnsUpdated indexes).map (List.map state) := by
  induction indexes with
  | nil => rfl
  | cons index rest ih =>
    rw [List.map_cons, getRelevantUniqueIndexesFromUpdate, relevantIndexes, ih, hstate]
    cases scanIndexColumns databases row columnsUpdated index.2 with
    | error e => rfl
    | ok scanned =>
      cases relevantIndexes databases row columnsUpdated rest with
      | error e => rfl
      | ok relevant =>
        show Except.ok _ = Except.ok _
        by_cases h : (scanned.1 && !scanned.2) = true <;> simp [h]

lemma relevantIndexes_sublist {columnsUpdated : List String} {indexes relevant : List IndexColumns}
    (h : relevantIndexes databases row columnsUpdated indexes = .ok relevant) :
    relevant.Sublist indexes := by
  induction indexes generalizing relevant with
  | nil =>
    cases h
    exact .slnil
  | cons index rest ih =>
    rw [relevantIndexes] at h
    simp only [bind_eq_ok, pure_eq_ok] at h
    obtain ⟨scanned, -, later, hlater, rfl⟩ := h
    split
    · exact (ih hlater).cons_cons index
    · exact (ih hlater).cons index

def addKeys (i : ℕ) (keys : List (IndexKey V)) (uniqueIndex : UniqueIndexState V) :
    UniqueIndexState V :=
  { uniqueIndex with
    valuesToStmtIndex := uniqueIndex.valuesToStmtIndex.setAll
      ((keys.filter fun key => key.1.1 = uniqueIndex.indexName).map fun key => (key.2, i)) }

lemma addKeys_nil (i : ℕ) (uniqueIndex : UniqueIndexState V) : addKeys i [] uniqueIndex = uniqueIndex :=
  rfl

lemma indexKey_name {index : IndexColumns} {keys : List (IndexKey V)}
    (h : indexKey databases row index = .ok keys) : ∀ key ∈ keys, key.1 = index := by
  rw [indexKey] at h
  simp only [bind_eq_ok, pure_eq_ok] at h
  obtain ⟨values, -, rfl⟩ := h
  split
  · simp
  · simp

lemma addIndexValue_eq {state : IndexColumns → UniqueIndexState V}
    (hstate : ∀ index, (state index).indexName = index.1 ∧ (state index).columnNames = index.2)
    (i : ℕ) (index : IndexColumns) :
    addIndexValue databases row i (state index) =
      (indexKey databases row index).map fun keys => addKeys i keys (state index) := by
  rw [addIndexValue, indexKey, (hstate index).2]
  cases readColumns row index.2 with
  | error e => rfl
  | ok values =>
    show Except.ok _ = Except.ok _
    congr 1
    by_cases hnull : databases.null ∈ values
    · rw [if_pos hnull, if_pos hnull]
      exact (addKeys_nil i (state index)).symm
    · rw [if_neg hnull, if_neg hnull]
      simp [addKeys, (hstate index).1, (hstate index).2, Dict.setAll]

omit [DecidableEq V] in
lemma filter_keys_nil {keys : List (IndexKey V)} {name : String}
    (h : ∀ key ∈ keys, key.1.1 ≠ name) : (keys.filter fun key => key.1.1 = name) = [] :=
  List.filter_eq_nil_iff.mpr fun key hkey => by simpa using h key hkey

lemma addKeys_append_of_left {keys more : List (IndexKey V)} {uniqueIndex : UniqueIndexState V}
    (i : ℕ) (h : ∀ key ∈ keys, key.1.1 ≠ uniqueIndex.indexName) :
    addKeys i (keys ++ more) uniqueIndex = addKeys i more uniqueIndex := by
  simp only [addKeys, List.filter_append, filter_keys_nil h, List.nil_append]

lemma addKeys_append_of_right {keys more : List (IndexKey V)} {uniqueIndex : UniqueIndexState V}
    (i : ℕ) (h : ∀ key ∈ more, key.1.1 ≠ uniqueIndex.indexName) :
    addKeys i (keys ++ more) uniqueIndex = addKeys i keys uniqueIndex := by
  simp only [addKeys, List.filter_append, filter_keys_nil h, List.append_nil]

lemma index_of_mapM_indexKey {indexes : List IndexColumns} {keys : List (List (IndexKey V))}
    (h : indexes.mapM (indexKey databases row) = .ok keys) :
    ∀ key ∈ keys.flatten, key.1 ∈ indexes := by
  induction indexes generalizing keys with
  | nil =>
    cases h
    simp
  | cons index rest ih =>
    rw [mapM_cons] at h
    simp only [bind_eq_ok, pure_eq_ok] at h
    obtain ⟨first, hfirst, later, hlater, rfl⟩ := h
    intro key hkey
    rw [List.flatten_cons, List.mem_append] at hkey
    rcases hkey with hkey | hkey
    · rw [indexKey_name hfirst key hkey]
      exact List.mem_cons_self
    · exact List.mem_cons_of_mem _ (ih hlater key hkey)

lemma mapM_addIndexValue {state : IndexColumns → UniqueIndexState V}
    (hstate : ∀ index, (state index).indexName = index.1 ∧ (state index).columnNames = index.2)
    (i : ℕ) {indexes relevant : List IndexColumns} (hsub : relevant.Sublist indexes)
    (hnames : (indexes.map Prod.fst).Nodup) :
    (indexes.map state).mapM (fun uniqueIndex =>
        if uniqueIndex.indexName ∈ relevant.map Prod.fst then addIndexValue databases row i uniqueIndex
        else return uniqueIndex) =
      (relevant.mapM (indexKey databases row)).map fun keys =>
        (indexes.map state).map (addKeys i keys.flatten) := by
  induction hsub with
  | slnil => rfl
  | @cons relevant indexes index hsub ih =>
    obtain ⟨hnot, hnames⟩ := List.nodup_cons.mp hnames
    have hout : (state index).indexName ∉ relevant.map Prod.fst := by
      rw [(hstate index).1]
      exact fun hmem => hnot ((hsub.map Prod.fst).subset hmem)
    rw [List.map_cons, mapM_cons, if_neg hout, ih hnames]
    cases hkeys : relevant.mapM (indexKey databases row) with
    | error e => rfl
    | ok keys =>
      have hsame : addKeys i keys.flatten (state index) = state index := by
        have hother : ∀ key ∈ keys.flatten, key.1.1 ≠ (state index).indexName := by
          intro key hkey hname
          exact hout (hname ▸ List.mem_map_of_mem (index_of_mapM_indexKey hkeys key hkey))
        rw [← List.append_nil keys.flatten, addKeys_append_of_left i hother, addKeys_nil]
      show Except.ok _ = Except.ok (addKeys i keys.flatten (state index) :: _)
      rw [hsame]
  | @cons_cons relevant indexes index hsub ih =>
    obtain ⟨hnot, hnames⟩ := List.nodup_cons.mp hnames
    have hin : (state index).indexName ∈ (index :: relevant).map Prod.fst := by
      rw [(hstate index).1]
      exact List.mem_cons_self
    have hne : ∀ uniqueIndex ∈ indexes.map state, uniqueIndex.indexName ≠ index.1 := by
      intro uniqueIndex hmem hname
      obtain ⟨other, hother, rfl⟩ := List.mem_map.mp hmem
      rw [(hstate other).1] at hname
      exact hnot (hname ▸ List.mem_map_of_mem hother)
    have hrest : (indexes.map state).mapM (fun uniqueIndex =>
        if uniqueIndex.indexName ∈ (index :: relevant).map Prod.fst then
          addIndexValue databases row i uniqueIndex
        else return uniqueIndex) = (indexes.map state).mapM (fun uniqueIndex =>
          if uniqueIndex.indexName ∈ relevant.map Prod.fst then
            addIndexValue databases row i uniqueIndex
          else return uniqueIndex) := by
      refine mapM_congr fun uniqueIndex hmem => ?_
      simp only [List.map_cons, List.mem_cons, hne uniqueIndex hmem, false_or]
    have hcons : (index :: indexes).map state = state index :: indexes.map state := rfl
    rw [hcons, mapM_cons, hrest, if_pos hin, addIndexValue_eq hstate, ih hnames, mapM_cons]
    cases hfirst : indexKey databases row index with
    | error e => rfl
    | ok first =>
      cases hkeys : relevant.mapM (indexKey databases row) with
      | error e => rfl
      | ok keys =>
        have hhead : addKeys i (first ++ keys.flatten) (state index) =
            addKeys i first (state index) := by
          refine addKeys_append_of_right i fun key hkey hname => ?_
          rw [(hstate index).1] at hname
          have hmem := index_of_mapM_indexKey hkeys key hkey
          exact hnot (hname ▸ (hsub.map Prod.fst).subset (List.mem_map_of_mem hmem))
        have htail : (indexes.map state).map (addKeys i (first ++ keys.flatten)) =
            (indexes.map state).map (addKeys i keys.flatten) := by
          refine List.map_congr_left fun uniqueIndex hmem => ?_
          refine addKeys_append_of_left i fun key hkey hname => hne uniqueIndex hmem ?_
          rw [← hname, indexKey_name hfirst key hkey]
        show Except.ok _ = Except.ok (addKeys i (first ++ keys.flatten) (state index) ::
          (indexes.map state).map (addKeys i (first ++ keys.flatten)))
        rw [hhead, htail]

variable {effects : List (Effect V)}

lemma indexState_names (effects : List (Effect V)) (index : IndexColumns) :
    (indexState effects index).indexName = index.1 ∧
      (indexState effects index).columnNames = index.2 := ⟨rfl, rfl⟩

lemma addKeys_indexState (effect : Effect V) (index : IndexColumns) :
    addKeys effect.index effect.unique (indexState effects index) =
      indexState (effects ++ [effect]) index := by
  rw [indexState, indexState, List.flatMap_append, Dict.setAll_append, List.flatMap_singleton]
  rfl

lemma uniqueKeys_nil (row : Row V) : Entry.uniqueKeys databases ⟨row, []⟩ = .ok [] := rfl

lemma addUniqueIndexesValue_eq {indexes relevant : List IndexColumns} (i : ℕ)
    (hsub : relevant.Sublist indexes) (hnames : (indexes.map Prod.fst).Nodup) :
    addUniqueIndexesValue databases (some row) (relevant.map (indexState effects)) i
        (indexes.map (indexState effects)) =
      (Entry.uniqueKeys databases ⟨row, relevant⟩).map fun keys =>
        (indexes.map (indexState effects)).map (addKeys i keys) := by
  cases relevant with
  | nil =>
    have hsame : (indexes.map (indexState effects)).map (addKeys i []) =
        indexes.map (indexState effects) := List.map_id _
    rw [uniqueKeys_nil, Except.map, hsame]
    rfl
  | cons index relevant =>
    have hmap : ((index :: relevant).map (indexState effects)).map (·.indexName) =
        (index :: relevant).map Prod.fst := by
      rw [List.map_map]
      rfl
    have hloop := @mapM_addIndexValue V _ databases row _ (indexState_names effects) i _ _ hsub hnames
    have hkeys : Entry.uniqueKeys databases ⟨row, index :: relevant⟩ =
        ((index :: relevant).mapM (indexKey databases row)).map List.flatten := by
      rw [Entry.uniqueKeys]
      cases (index :: relevant).mapM (indexKey databases row) <;> rfl
    rw [addUniqueIndexesValue, if_neg (by simp), hmap, hkeys]
    refine hloop.trans ?_
    cases (index :: relevant).mapM (indexKey databases row) <;> rfl

def holder (effects : List (Effect V)) (key : IndexKey V) : List (ℕ × ConflictPair) :=
  (((indexState effects key.1).valuesToStmtIndex.get? key.2).map fun index =>
    (index, .uniqueIndexes key.1.1 key.1.2)).toList

lemma checkIndexValue_eq (index : IndexColumns) :
    checkIndexValue databases row (indexState effects index) =
      (indexKey databases row index).map fun keys => keys.flatMap (holder effects) := by
  rw [checkIndexValue, indexKey, (indexState_names effects index).2]
  cases readColumns row index.2 with
  | error e => rfl
  | ok values =>
    show Except.ok _ = Except.ok _
    congr 1
    by_cases hnull : databases.null ∈ values
    · rw [if_pos hnull, if_pos hnull]
      rfl
    · rw [if_neg hnull, if_neg hnull]
      simp [holder, indexState]

lemma checkUniqueIndexesValue_eq (relevant : List IndexColumns) :
    checkUniqueIndexesValue databases (some row) (relevant.map (indexState effects)) =
      (Entry.uniqueKeys databases ⟨row, relevant⟩).map fun keys => keys.flatMap (holder effects) := by
  have hloop : (relevant.map (indexState effects)).mapM (checkIndexValue databases row) =
      (relevant.mapM (indexKey databases row)).map
        (List.map fun keys => keys.flatMap (holder effects)) := by
    rw [mapM_map]
    induction relevant with
    | nil => rfl
    | cons index relevant ih =>
      rw [mapM_cons, mapM_cons, ih, Function.comp, checkIndexValue_eq]
      cases indexKey databases row index with
      | error e => rfl
      | ok keys => cases relevant.mapM (indexKey databases row) <;> rfl
  have hflat : ∀ keys : List (List (IndexKey V)),
      (keys.map fun keys => keys.flatMap (holder effects)).flatten =
        keys.flatten.flatMap (holder effects) := by
    intro keys
    induction keys with
    | nil => rfl
    | cons first keys ih =>
      rw [List.map_cons, List.flatten_cons, List.flatten_cons, List.flatMap_append, ih]
  cases relevant with
  | nil => rfl
  | cons index relevant =>
    have hread : checkUniqueIndexesValue databases (some row)
        ((index :: relevant).map (indexState effects)) = (do
          let conflicts ← ((index :: relevant).map (indexState effects)).mapM
            (checkIndexValue databases row)
          return conflicts.flatten) := rfl
    rw [hread, hloop, Entry.uniqueKeys]
    cases (index :: relevant).mapM (indexKey databases row) with
    | error e => rfl
    | ok keys => exact congrArg Except.ok (hflat keys)

def TableForeignKeyConflictState.record (removed : TableForeignKeyConflictState V)
    (isOurs : Bool) (i : ℕ) (keys : List (List V)) : TableForeignKeyConflictState V :=
  removed.withDict isOurs ((removed.dict isOurs).setAll (keys.map (·, i)))

lemma record_nil (removed : TableForeignKeyConflictState V) (isOurs : Bool) (i : ℕ) :
    removed.record isOurs i [] = removed := by
  cases isOurs <;> rfl

lemma foldl_setAll (i : ℕ) (keys : List (List (List V))) (dict : Dict (List V) ℕ) :
    keys.foldl (fun dict keys => dict.setAll (keys.map (·, i))) dict =
      dict.setAll (keys.flatten.map (·, i)) := by
  induction keys generalizing dict with
  | nil => rfl
  | cons first keys ih =>
    rw [List.foldl_cons, ih, List.flatten_cons, List.map_append, Dict.setAll_append]

lemma processDelete_eq (row : Option (Row V)) (i : ℕ) (references : List (List (Option String)))
    (dict : Dict (List V) ℕ) :
    processDeleteForForeignLinkAsParent databases row i references dict = (do
      let row ← requireRow row
      let keys ← references.mapM (deletedKey databases row)
      return dict.setAll (keys.flatten.map (·, i))) := by
  have hstep : ∀ (row : Row V) (dict : Dict (List V) ℕ) (columns : List (Option String)),
      (do
        let values ← readColumns row columns
        return if databases.null ∈ values then dict
          else dict.set (values.map databases.hashed) i : Except Failure (Dict (List V) ℕ)) =
        (deletedKey databases row columns).map fun keys => dict.setAll (keys.map (·, i)) := by
    intro row dict columns
    rw [deletedKey]
    cases readColumns row columns with
    | error e => rfl
    | ok values =>
      show Except.ok _ = Except.ok _
      congr 1
      by_cases hnull : databases.null ∈ values
      · rw [if_pos hnull, if_pos hnull]
        rfl
      · rw [if_neg hnull, if_neg hnull]
        rfl
  cases row with
  | none => rfl
  | some row =>
    have hloop := foldlM_eq_mapM (hstep row) references dict
    refine hloop.trans ?_
    show _ = (do
      let keys ← references.mapM (deletedKey databases row)
      return dict.setAll (keys.flatten.map (·, i)))
    cases references.mapM (deletedKey databases row) with
    | error e => rfl
    | ok keys => exact congrArg Except.ok (foldl_setAll i keys dict)

lemma processUpdate_eq (i : ℕ) (relevant : List IndexColumns)
    (references : List (List (Option String))) (dict : Dict (List V) ℕ) :
    processUpdateForForeignLinkAsParent databases row i (relevant.map (indexState effects))
        references dict = (do
      let keys ← relevant.mapM (updatedKey databases references row)
      return dict.setAll (keys.flatten.map (·, i))) := by
  have hstep : ∀ (dict : Dict (List V) ℕ) (index : IndexColumns),
      (do
        if (indexState effects index).columnNames ∈ references then
          let values ← readColumns row (indexState effects index).columnNames
          return dict.set (values.map databases.hashed) i
        else return dict : Except Failure (Dict (List V) ℕ)) =
        (updatedKey databases references row index).map fun keys =>
          dict.setAll (keys.map (·, i)) := by
    intro dict index
    rw [updatedKey, (indexState_names effects index).2]
    by_cases hmem : index.2 ∈ references
    · rw [if_pos hmem, if_pos hmem]
      cases readColumns row index.2 <;> rfl
    · rw [if_neg hmem, if_neg hmem]
      rfl
  have hloop := foldlM_eq_mapM hstep relevant dict
  rw [processUpdateForForeignLinkAsParent, List.foldlM_map]
  refine hloop.trans ?_
  cases relevant.mapM (updatedKey databases references row) with
  | error e => rfl
  | ok keys => exact congrArg Except.ok (foldl_setAll i keys dict)

def Statement.effect (databases : Databases V) (cursor : Snapshot V) (statement : Statement V)
    (i : ℕ) : Except Failure (Effect V) := do
  let key ← statement.key databases
  let entry ← statement.entry databases cursor
  let unique ← uniqueKeys databases entry
  let removed ← statement.recordedKeys databases entry
  return ⟨statement.table, i, key, statement.change.kind, statement.literals databases, unique,
    removed⟩

lemma tableState_append (databases : Databases V) (table : String) (effects : List (Effect V))
    (effect : Effect V) :
    tableState databases table (effects ++ [effect]) =
      { (tableState databases table effects).setData effect.key effect.data with
        uniqueIndexes := ((databases.uniqueIndexes table).map (indexState effects)).map
          (addKeys effect.index effect.unique) } := by
  have hindexes : (databases.uniqueIndexes table).map (indexState (effects ++ [effect])) =
      ((databases.uniqueIndexes table).map (indexState effects)).map
        (addKeys effect.index effect.unique) := by
    rw [List.map_map]
    exact List.map_congr_left fun index _ => (addKeys_indexState effect index).symm
  rw [tableState, hindexes, List.map_append, Dict.setAll_append]
  rfl

lemma tableState_append_of_nil (databases : Databases V) (table : String)
    {effect : Effect V} (h : effect.unique = []) :
    tableState databases table (effects ++ [effect]) =
      (tableState databases table effects).setData effect.key effect.data := by
  have hsame : ((databases.uniqueIndexes table).map (indexState effects)).map
      (addKeys effect.index []) = (databases.uniqueIndexes table).map (indexState effects) :=
    List.map_id _
  rw [tableState_append, h, hsame]
  rfl

/-- The parent keys of a DELETE are recorded, and the rest depends on what was recorded. -/
lemma recordDelete_eq {σ : Type} (table : String) (predicates : List (Predicate V)) (isOurs : Bool)
    (i : ℕ) (removed : TableForeignKeyConflictState V) (entry : Option (Entry V))
    (f : TableForeignKeyConflictState V → σ) :
    (if tableIsParent databases table then do
      let row ← fetchRow databases databases.base table [] predicates
      let dict ← processDeleteForForeignLinkAsParent databases row i
        (databases.childReferences table) (removed.dict isOurs)
      return f (removed.withDict isOurs dict)
    else return f removed) =
      (Statement.recordedKeys databases ⟨table, .delete predicates⟩ entry).map fun keys =>
        f (removed.record isOurs i keys) := by
  have hread : Statement.recordedKeys databases ⟨table, .delete predicates⟩ entry =
      if tableIsParent databases table then do
        let row ← requireFullRow databases databases.base table predicates
        let keys ← (databases.childReferences table).mapM (deletedKey databases row)
        return keys.flatten
      else .ok [] := by
    cases entry <;> rfl
  rw [hread]
  by_cases hparent : tableIsParent databases table = true
  · rw [if_pos hparent, if_pos hparent, requireFullRow]
    cases fetchRow databases databases.base table [] predicates with
    | error e => rfl
    | ok row =>
      rw [ok_bind, ok_bind, processDelete_eq]
      cases requireRow row with
      | error e => rfl
      | ok row =>
        rw [ok_bind, ok_bind]
        cases (databases.childReferences table).mapM (deletedKey databases row) <;> rfl
  · rw [if_neg hparent, if_neg hparent, map_ok, record_nil]
    rfl

lemma recordUpdate_eq {σ : Type} (table : String) (assignments : List (String × V))
    (predicates : List (Predicate V)) (isOurs : Bool) (i : ℕ)
    (removed : TableForeignKeyConflictState V) (relevant : List IndexColumns)
    (f : TableForeignKeyConflictState V → σ) :
    (if tableIsParent databases table then do
      let dict ← processUpdateForForeignLinkAsParent databases row i
        (relevant.map (indexState effects)) (databases.childReferences table) (removed.dict isOurs)
      return f (removed.withDict isOurs dict)
    else return f removed) =
      (Statement.recordedKeys databases ⟨table, .update assignments predicates⟩
        (some ⟨row, relevant⟩)).map fun keys => f (removed.record isOurs i keys) := by
  have hread : Statement.recordedKeys databases ⟨table, .update assignments predicates⟩
      (some ⟨row, relevant⟩) = if tableIsParent databases table then do
        let keys ← relevant.mapM (updatedKey databases (databases.childReferences table) row)
        return keys.flatten
      else .ok [] := rfl
  rw [hread]
  by_cases hparent : tableIsParent databases table = true
  · rw [if_pos hparent, if_pos hparent, processUpdate_eq]
    cases relevant.mapM (updatedKey databases (databases.childReferences table) row) <;> rfl
  · rw [if_neg hparent, if_neg hparent, map_ok, record_nil]
    rfl

lemma buildTable_delete (cursor : Snapshot V) (isOurs : Bool) (i : ℕ) (table : String)
    (effects : List (Effect V)) (removed : TableForeignKeyConflictState V)
    (predicates : List (Predicate V)) :
    buildTable databases isOurs cursor i table (tableState databases table effects) removed
        (.delete predicates) =
      (Statement.effect databases cursor ⟨table, .delete predicates⟩ i).map fun effect =>
        (tableState databases table (effects ++ [effect]),
          removed.record isOurs i effect.removed) := by
  have hread : Statement.effect databases cursor ⟨table, .delete predicates⟩ i = (do
      let key ← getPrimaryKeyValuesFromWhere databases (databases.primaryKeys table) predicates
      let removed ← Statement.recordedKeys databases ⟨table, .delete predicates⟩ none
      return ⟨table, i, key, .delete, none, [], removed⟩) := rfl
  have hcolumns : (tableState databases table effects).primaryKeyColumnsToIndex =
      databases.primaryKeys table := rfl
  rw [hread, buildTable, hcolumns]
  cases getPrimaryKeyValuesFromWhere databases (databases.primaryKeys table) predicates with
  | error e => rfl
  | ok key =>
    have hstate : ∀ keys, tableState databases table (effects ++ [⟨table, i, key, .delete, none, [], keys⟩]) =
        (tableState databases table effects).setData key ⟨i, .delete, none⟩ :=
      fun keys => tableState_append_of_nil databases table rfl
    refine (recordDelete_eq table predicates isOurs i removed none fun removed =>
      ((tableState databases table effects).setData key ⟨i, .delete, none⟩, removed)).trans ?_
    cases Statement.recordedKeys databases ⟨table, .delete predicates⟩ none with
    | error e => rfl
    | ok keys => exact congrArg Except.ok (Prod.ext (hstate keys).symm rfl)

lemma recordedKeys_insert (table : String) (columns : List (String × V)) (entry : Option (Entry V)) :
    Statement.recordedKeys databases ⟨table, .insert columns⟩ entry = .ok [] := by
  cases entry <;> exact ite_self _

lemma addUniqueIndexesValue_insert (row : Option (Row V)) (table : String) (i : ℕ) :
    addUniqueIndexesValue databases row
        ((databases.uniqueIndexes table).map (indexState effects)) i
        ((databases.uniqueIndexes table).map (indexState effects)) = (do
      let entry ← insertEntry databases table row
      let keys ← uniqueKeys databases entry
      return ((databases.uniqueIndexes table).map (indexState effects)).map (addKeys i keys)) := by
  rw [insertEntry]
  by_cases hempty : (databases.uniqueIndexes table).isEmpty = true
  · rw [if_pos hempty, List.isEmpty_iff.mp hempty]
    rfl
  · rw [if_neg hempty]
    cases row with
    | none =>
      rw [addUniqueIndexesValue, List.isEmpty_map, if_neg hempty]
      rfl
    | some row =>
      rw [addUniqueIndexesValue_eq i (List.Sublist.refl _) (databases.indexNames table)]
      show _ = (do
        let keys ← Entry.uniqueKeys databases ⟨row, databases.uniqueIndexes table⟩
        return _)
      cases Entry.uniqueKeys databases ⟨row, databases.uniqueIndexes table⟩ <;> rfl

def placedColumns (databases : Databases V) (table : String) (columns : List (String × V)) :
    List (Option V) × Literals V :=
  columns.foldl (placeColumn (databases.primaryKeys table))
    (List.replicate (databases.primaryKeys table).keys.length none, ∅)

omit [DecidableEq V] in
lemma getKeyValues_insert (table : String) (columns : List (String × V)) :
    getKeyValuesAndColumnToLiteralInsert (databases.primaryKeys table) columns =
      (allPlaced (placedColumns databases table columns).1).map fun key =>
        (key, (placedColumns databases table columns).2) := by
  rw [getKeyValuesAndColumnToLiteralInsert, placedColumns]
  set placed := columns.foldl (placeColumn (databases.primaryKeys table))
    (List.replicate (databases.primaryKeys table).keys.length none, ∅)
  show (allPlaced placed.1 >>= _) = _
  cases allPlaced placed.1 <;> rfl

lemma effect_insert (cursor : Snapshot V) (i : ℕ) (table : String) (columns : List (String × V)) :
    Statement.effect databases cursor ⟨table, .insert columns⟩ i = (do
      let key ← allPlaced (placedColumns databases table columns).1
      let row ← getFullRowOfInsert databases cursor table (databases.primaryKeys table) columns
      let entry ← insertEntry databases table row
      let unique ← uniqueKeys databases entry
      return ⟨table, i, key, .insert, some (placedColumns databases table columns).2, unique, []⟩) := by
  have hread : Statement.effect databases cursor ⟨table, .insert columns⟩ i = (do
      let key ← (getKeyValuesAndColumnToLiteralInsert (databases.primaryKeys table) columns).map
        Prod.fst
      let entry ← (do
        let row ← getFullRowOfInsert databases cursor table (databases.primaryKeys table) columns
        insertEntry databases table row)
      let unique ← uniqueKeys databases entry
      let removed ← Statement.recordedKeys databases ⟨table, .insert columns⟩ entry
      return ⟨table, i, key, .insert, some (placedColumns databases table columns).2, unique, removed⟩) := rfl
  rw [hread, getKeyValues_insert]
  cases allPlaced (placedColumns databases table columns).1 with
  | error e => rfl
  | ok key =>
    rw [map_ok, map_ok, ok_bind, ok_bind]
    cases getFullRowOfInsert databases cursor table (databases.primaryKeys table) columns with
    | error e => rfl
    | ok row =>
      rw [ok_bind, ok_bind]
      cases insertEntry databases table row with
      | error e => rfl
      | ok entry =>
        rw [ok_bind, ok_bind, recordedKeys_insert]
        cases uniqueKeys databases entry <;> rfl

lemma buildTable_insert (cursor : Snapshot V) (isOurs : Bool) (i : ℕ) (table : String)
    (effects : List (Effect V)) (removed : TableForeignKeyConflictState V)
    (columns : List (String × V)) :
    buildTable databases isOurs cursor i table (tableState databases table effects) removed
        (.insert columns) =
      (Statement.effect databases cursor ⟨table, .insert columns⟩ i).map fun effect =>
        (tableState databases table (effects ++ [effect]),
          removed.record isOurs i effect.removed) := by
  have hread : buildTable databases isOurs cursor i table (tableState databases table effects)
      removed (.insert columns) = (do
        let read ← getKeyValuesAndColumnToLiteralInsert (databases.primaryKeys table) columns
        let row ← getFullRowOfInsert databases cursor table (databases.primaryKeys table) columns
        let uniqueIndexes ← addUniqueIndexesValue databases row
          ((databases.uniqueIndexes table).map (indexState effects)) i
          ((databases.uniqueIndexes table).map (indexState effects))
        return ({ (tableState databases table effects).setData read.1 ⟨i, .insert, some read.2⟩ with
          uniqueIndexes }, removed)) := rfl
  rw [hread, effect_insert, getKeyValues_insert]
  cases allPlaced (placedColumns databases table columns).1 with
  | error e => rfl
  | ok key =>
    rw [map_ok, ok_bind, ok_bind]
    cases getFullRowOfInsert databases cursor table (databases.primaryKeys table) columns with
    | error e => rfl
    | ok row =>
      rw [ok_bind, ok_bind, addUniqueIndexesValue_insert]
      cases insertEntry databases table row with
      | error e => rfl
      | ok entry =>
        rw [ok_bind, ok_bind]
        cases uniqueKeys databases entry with
        | error e => rfl
        | ok unique =>
          let effect : Effect V :=
            ⟨table, i, key, .insert, some (placedColumns databases table columns).2, unique, []⟩
          have hstate := tableState_append databases table effects effect
          exact congrArg Except.ok (Prod.ext hstate.symm (record_nil removed isOurs i).symm)

lemma effect_update (cursor : Snapshot V) (i : ℕ) (table : String)
    (assignments : List (String × V)) (predicates : List (Predicate V)) :
    Statement.effect databases cursor ⟨table, .update assignments predicates⟩ i = (do
      let key ← getPrimaryKeyValuesFromWhere databases (databases.primaryKeys table) predicates
      if Statement.updatesUniqueColumn databases table assignments then
        let row ← requireFullRow databases cursor table predicates
        let relevant ← relevantIndexes databases row (assignments.map Prod.fst)
          (databases.uniqueIndexes table)
        let unique ← Entry.uniqueKeys databases ⟨row, relevant⟩
        let removed ← Statement.recordedKeys databases ⟨table, .update assignments predicates⟩
          (some ⟨row, relevant⟩)
        return ⟨table, i, key, .update, some (columnToLiteral assignments), unique, removed⟩
      else return ⟨table, i, key, .update, some (columnToLiteral assignments), [], []⟩) := by
  have hread : Statement.effect databases cursor ⟨table, .update assignments predicates⟩ i = (do
      let key ← getPrimaryKeyValuesFromWhere databases (databases.primaryKeys table) predicates
      let entry ← (if Statement.updatesUniqueColumn databases table assignments then do
          let row ← requireFullRow databases cursor table predicates
          let relevant ← relevantIndexes databases row (assignments.map Prod.fst)
            (databases.uniqueIndexes table)
          return some ⟨row, relevant⟩
        else return none)
      let unique ← uniqueKeys databases entry
      let removed ← Statement.recordedKeys databases ⟨table, .update assignments predicates⟩ entry
      return ⟨table, i, key, .update, some (columnToLiteral assignments), unique, removed⟩) := rfl
  rw [hread]
  cases getPrimaryKeyValuesFromWhere databases (databases.primaryKeys table) predicates with
  | error e => rfl
  | ok key =>
    rw [ok_bind, ok_bind]
    by_cases hupdates : Statement.updatesUniqueColumn databases table assignments = true
    · rw [if_pos hupdates, if_pos hupdates]
      cases requireFullRow databases cursor table predicates with
      | error e => rfl
      | ok row =>
        rw [ok_bind, ok_bind]
        cases relevantIndexes databases row (assignments.map Prod.fst)
          (databases.uniqueIndexes table) <;> rfl
    · rw [if_neg hupdates, if_neg hupdates]
      have hnone : Statement.recordedKeys databases ⟨table, .update assignments predicates⟩ none =
          .ok [] := ite_self _
      show (Statement.recordedKeys databases ⟨table, .update assignments predicates⟩ none >>= _) = _
      rw [hnone]
      rfl

lemma buildTable_update (cursor : Snapshot V) (isOurs : Bool) (i : ℕ) (table : String)
    (effects : List (Effect V)) (removed : TableForeignKeyConflictState V)
    (assignments : List (String × V)) (predicates : List (Predicate V)) :
    buildTable databases isOurs cursor i table (tableState databases table effects) removed
        (.update assignments predicates) =
      (Statement.effect databases cursor ⟨table, .update assignments predicates⟩ i).map fun effect =>
        (tableState databases table (effects ++ [effect]),
          removed.record isOurs i effect.removed) := by
  rw [effect_update, buildTable]
  show (getPrimaryKeyValuesFromWhere databases (databases.primaryKeys table) predicates >>= _) = _
  cases getPrimaryKeyValuesFromWhere databases (databases.primaryKeys table) predicates with
  | error e => rfl
  | ok key =>
    rw [ok_bind, ok_bind]
    show (if Statement.updatesUniqueColumn databases table assignments = true then _ else _) = _
    by_cases hupdates : Statement.updatesUniqueColumn databases table assignments = true
    · rw [if_pos hupdates, if_pos hupdates]
      cases requireFullRow databases cursor table predicates with
      | error e => rfl
      | ok row =>
        have hcolumns := fun index => (indexState_names effects index).2
        rw [ok_bind, ok_bind]
        show (getRelevantUniqueIndexesFromUpdate databases row (assignments.map Prod.fst)
          ((databases.uniqueIndexes table).map (indexState effects)) >>= _) = _
        rw [getRelevantUniqueIndexes_map (assignments.map Prod.fst) hcolumns]
        cases hrelevant : relevantIndexes databases row (assignments.map Prod.fst)
          (databases.uniqueIndexes table) with
        | error e => rfl
        | ok relevant =>
          have hadd := @addUniqueIndexesValue_eq V _ databases row effects _ _ i
            (relevantIndexes_sublist hrelevant) (databases.indexNames table)
          rw [map_ok, ok_bind, ok_bind]
          show (addUniqueIndexesValue databases (some row) (relevant.map (indexState effects)) i
            ((databases.uniqueIndexes table).map (indexState effects)) >>= _) = _
          rw [hadd]
          cases Entry.uniqueKeys databases ⟨row, relevant⟩ with
          | error e => rfl
          | ok unique =>
            rw [map_ok, ok_bind, ok_bind]
            have hstate : ∀ keys, tableState databases table (effects ++
                [⟨table, i, key, .update, some (columnToLiteral assignments), unique, keys⟩]) = _ :=
              fun keys => tableState_append databases table effects
                ⟨table, i, key, .update, some (columnToLiteral assignments), unique, keys⟩
            refine (@recordUpdate_eq V _ databases row effects _ table assignments predicates isOurs i
              removed relevant fun removed => (_, removed)).trans ?_
            cases Statement.recordedKeys databases ⟨table, .update assignments predicates⟩
              (some ⟨row, relevant⟩) with
            | error e => rfl
            | ok keys => exact congrArg Except.ok (Prod.ext (hstate keys).symm rfl)
    · rw [if_neg hupdates, if_neg hupdates]
      have hstate := @tableState_append_of_nil V _ effects databases table
        ⟨table, i, key, .update, some (columnToLiteral assignments), [], []⟩ rfl
      exact congrArg Except.ok (Prod.ext hstate.symm (record_nil removed isOurs i).symm)

/-- The state of a table after one more statement of the hashed list. -/
lemma buildTable_eq (cursor : Snapshot V) (isOurs : Bool) (i : ℕ) (table : String)
    (effects : List (Effect V)) (removed : TableForeignKeyConflictState V) (change : Change V) :
    buildTable databases isOurs cursor i table (tableState databases table effects) removed change =
      (Statement.effect databases cursor ⟨table, change⟩ i).map fun effect =>
        (tableState databases table (effects ++ [effect]),
          removed.record isOurs i effect.removed) := by
  cases change with
  | delete predicates => exact buildTable_delete cursor isOurs i table effects removed predicates
  | insert columns => exact buildTable_insert cursor isOurs i table effects removed columns
  | update assignments predicates =>
    exact buildTable_update cursor isOurs i table effects removed assignments predicates

end SqliteReconcile.RowMerge
