import SqliteReconcile.RowBuild

/-!
# The lookup phase

A statement that is looked up meets the statement of the hashed list with its key, and those that
hold its values in unique indexes.
-/
namespace SqliteReconcile.RowMerge
open Dicts Outcomes

variable {V : Type} [DecidableEq V] {databases : Databases V}

def partner (effects : List (Effect V)) (key : KeyTuple V) : Option (KeyValueData V) :=
  Dict.lastOf (effects.map fun effect => (effect.key, effect.data)) key

/-- Both sides make the same change to a row. -/
def KeyValueData.sameAs (databases : Databases V) (data : KeyValueData V)
    (statement : Statement V) : Bool :=
  data.kind = statement.change.kind ∧ data.columnToLiteral = statement.literals databases

def met (effects : List (Effect V)) (effect : Effect V) : List (ℕ × ConflictPair) :=
  effect.unique.flatMap (holder effects)

inductive Verdict
  | matched (index : ℕ)
  | conflicting (conflicts : List (ℕ × ConflictPair))
  | extra
  deriving DecidableEq

/-- A statement of the other list, with what was found out about it. A table that the hashed list
does not touch is not read. -/
structure Looked (V : Type) where
  table : String
  index : ℕ
  kind : Kind
  key : Option (KeyTuple V)
  verdict : Verdict
  removed : List (List V)

/-- A statement whose key is free conflicts on unique indexes only. -/
def verdictOfMet (conflicts : List (ℕ × ConflictPair)) : Verdict :=
  if conflicts = [] then .extra else .conflicting conflicts

/-- The parent keys that a statement removes whose partner makes the same change. -/
def removedOfSame (databases : Databases V) (statement : Statement V) :
    Except Failure (List (List V)) :=
  if statement.change.kind = .delete then statement.recordedKeys databases none else .ok []

def Statement.look (databases : Databases V) (cursor : Snapshot V) (effects : List (Effect V))
    (statement : Statement V) (i : ℕ) : Except Failure (Looked V) :=
  if effects = [] then .ok ⟨statement.table, i, statement.change.kind, none, .extra, []⟩
  else do
    let key ← statement.key databases
    match partner effects key with
    | some data =>
      if data.sameAs databases statement then
        let removed ← removedOfSame databases statement
        return ⟨statement.table, i, statement.change.kind, some key, .matched data.index, removed⟩
      else
        let effect ← statement.effect databases cursor i
        return ⟨statement.table, i, statement.change.kind, some key,
          .conflicting ((data.index, .primaryKey) :: met effects effect), effect.removed⟩
    | none =>
      let effect ← statement.effect databases cursor i
      return ⟨statement.table, i, statement.change.kind, some key,
        verdictOfMet (met effects effect), effect.removed⟩

def Work.addVerdict (work : Work V) (isOurs : Bool) (i : ℕ) : Verdict → Work V
  | .matched index => work.addToResMatch isOurs i index
  | .conflicting conflicts => work.addUniqueConflicts isOurs i conflicts
  | .extra => work.addFailedLookup i

/-- The side that parent keys are recorded for: an UPDATE takes the one of the hashed list. -/
def recordedSide (isOurs : Bool) : Kind → Bool
  | .delete => !isOurs
  | _ => isOurs

def popKeyOf (tables : Dict String (TableConflictState V)) (table : String) :
    Option (KeyTuple V) → Dict String (TableConflictState V)
  | none => tables
  | some key =>
    match tables.get? table with
    | none => tables
    | some state => tables.set table (state.popKey key)

def Work.look (work : Work V) (isOurs : Bool) (looked : Looked V) : Work V :=
  { work.addVerdict isOurs looked.index looked.verdict with
    tables := popKeyOf work.tables looked.table looked.key
    removedKeys := Function.update work.removedKeys looked.table
      ((work.removedKeys looked.table).record (recordedSide isOurs looked.kind) looked.index
        looked.removed) }

variable {effects : List (Effect V)} {work : Work V} {cursor : Snapshot V} {isOurs : Bool}

def TableConflictState.withData (state : TableConflictState V)
    (data : Dict (KeyTuple V) (KeyValueData V)) : TableConflictState V :=
  { state with primaryKeyValueToData := data }

variable {data : Dict (KeyTuple V) (KeyValueData V)} {table : String} {key : KeyTuple V}

/-- The partner is of a kind that a consistent list allows. -/
def PartnerOk (effects : List (Effect V)) (statement : Statement V) (key : KeyTuple V) : Prop :=
  ∀ data, partner effects key = some data →
    (data.kind = .insert ↔ statement.change.kind = .insert) ∧
      (data.kind = .delete → data.columnToLiteral = none)

lemma sameAs_iff {found : KeyValueData V} {statement : Statement V} :
    found.sameAs databases statement = true ↔
      found.kind = statement.change.kind ∧ found.columnToLiteral = statement.literals databases :=
  decide_eq_true_iff

section look

variable {statement : Statement V} {i : ℕ} {found : KeyValueData V}

lemma look_none (heffects : effects ≠ []) (hkey : statement.key databases = .ok key)
    (hpartner : partner effects key = none) :
    statement.look databases cursor effects i =
      (statement.effect databases cursor i).map fun effect => ⟨statement.table, i,
        statement.change.kind, some key, verdictOfMet (met effects effect), effect.removed⟩ := by
  rw [Statement.look, if_neg heffects, hkey, ok_bind, hpartner]
  cases statement.effect databases cursor i <;> rfl

lemma look_same (heffects : effects ≠ []) (hkey : statement.key databases = .ok key)
    (hpartner : partner effects key = some found)
    (hsame : found.sameAs databases statement = true) :
    statement.look databases cursor effects i =
      (removedOfSame databases statement).map fun removed => ⟨statement.table, i,
        statement.change.kind, some key, .matched found.index, removed⟩ := by
  rw [Statement.look, if_neg heffects, hkey, ok_bind, hpartner]
  show (if _ then _ else _) = _
  rw [if_pos hsame]
  cases removedOfSame databases statement <;> rfl

lemma look_differs (heffects : effects ≠ []) (hkey : statement.key databases = .ok key)
    (hpartner : partner effects key = some found)
    (hsame : ¬ found.sameAs databases statement = true) :
    statement.look databases cursor effects i =
      (statement.effect databases cursor i).map fun effect => ⟨statement.table, i,
        statement.change.kind, some key,
        .conflicting ((found.index, .primaryKey) :: met effects effect), effect.removed⟩ := by
  rw [Statement.look, if_neg heffects, hkey, ok_bind, hpartner]
  show (if _ then _ else _) = _
  rw [if_neg hsame]
  cases statement.effect databases cursor i <;> rfl

end look

lemma look_error {statement : Statement V} {i : ℕ} {e : Failure} (heffects : effects ≠ [])
    (hkey : statement.key databases = .error e) :
    statement.look databases cursor effects i = .error e := by
  rw [Statement.look, if_neg heffects, hkey]
  rfl

omit [DecidableEq V] in
lemma addUniqueConflicts_eq (conflicts : List (ℕ × ConflictPair)) (work : Work V) (i : ℕ) :
    work.addUniqueConflicts isOurs i conflicts = { work with
      conflictStmtsPair := (work.addUniqueConflicts isOurs i conflicts).conflictStmtsPair } := by
  induction conflicts generalizing work with
  | nil => rfl
  | cons conflict conflicts ih => exact ih (work.addConflict isOurs i conflict.1 conflict.2)

lemma popKeyOf_of_get? (htables : work.tables.get? table =
    some ((tableState databases table effects).withData data)) :
    popKeyOf work.tables table (some key) =
      work.tables.set table (((tableState databases table effects).withData data).popKey key) := by
  rw [popKeyOf, htables]

/-- A key that no statement has left is not taken. -/
lemma popKeyOf_of_none (htables : work.tables.get? table =
    some ((tableState databases table effects).withData data)) (hkey : data.get? key = none) :
    popKeyOf work.tables table (some key) = work.tables := by
  have hstate : ((tableState databases table effects).withData data).popKey key =
      (tableState databases table effects).withData data := by
    rw [TableConflictState.popKey, TableConflictState.withData, Dict.erase_eq_self hkey]
  rw [popKeyOf_of_get? htables, hstate, Dict.set_eq_self htables]

lemma effect_delete (cursor : Snapshot V) (i : ℕ) (table : String)
    (predicates : List (Predicate V)) :
    Statement.effect databases cursor ⟨table, .delete predicates⟩ i = (do
      let key ← getPrimaryKeyValuesFromWhere databases (databases.primaryKeys table) predicates
      let removed ← Statement.recordedKeys databases ⟨table, .delete predicates⟩ none
      return ⟨table, i, key, .delete, none, [], removed⟩) := rfl

def Work.withRemoved (work : Work V) (table : String) (isOurs : Bool) (i : ℕ)
    (keys : List (List V)) : Work V :=
  { work with
    removedKeys := Function.update work.removedKeys table
      ((work.removedKeys table).record isOurs i keys) }

omit [DecidableEq V] in
lemma withRemoved_update_self (work : Work V) (table : String) :
    { work with removedKeys := Function.update work.removedKeys table (work.removedKeys table) } =
      work := by
  rw [Function.update_eq_self]

lemma withRemoved_nil (work : Work V) (table : String) (isOurs : Bool) (i : ℕ) :
    work.withRemoved table isOurs i [] = work := by
  rw [Work.withRemoved, record_nil, withRemoved_update_self]

lemma recordDelete_work (side : Bool) (i : ℕ) (predicates : List (Predicate V)) :
    work.recordDelete databases side i table predicates =
      (Statement.recordedKeys databases ⟨table, .delete predicates⟩ none).map
        (work.withRemoved table side i) := by
  have hrecord := @recordDelete_eq V _ databases _ table predicates side i (work.removedKeys table)
    none fun removed =>
      { work with removedKeys := Function.update work.removedKeys table removed }
  rw [withRemoved_update_self] at hrecord
  exact hrecord

lemma recordUpdate_work (side : Bool) (i : ℕ) (row : Row V) (relevant : List IndexColumns)
    (assignments : List (String × V)) (predicates : List (Predicate V)) :
    work.recordUpdate databases side i table row (relevant.map (indexState effects)) =
      (Statement.recordedKeys databases ⟨table, .update assignments predicates⟩
        (some ⟨row, relevant⟩)).map (work.withRemoved table side i) := by
  have hrecord := @recordUpdate_eq V _ databases row effects _ table assignments predicates side i
    (work.removedKeys table) relevant fun removed =>
      { work with removedKeys := Function.update work.removedKeys table removed }
  rw [withRemoved_update_self] at hrecord
  exact hrecord

lemma removedOfSame_delete (table : String) (predicates : List (Predicate V)) :
    removedOfSame databases ⟨table, .delete predicates⟩ =
      Statement.recordedKeys databases ⟨table, .delete predicates⟩ none := rfl

lemma popKey_addUniqueConflicts (work : Work V) (state : TableConflictState V) (i : ℕ)
    (conflicts : List (ℕ × ConflictPair)) :
    (work.popKey table state key).addUniqueConflicts isOurs i conflicts =
      { work.addUniqueConflicts isOurs i conflicts with
        tables := work.tables.set table (state.popKey key) } := by
  induction conflicts generalizing work with
  | nil => rfl
  | cons conflict conflicts ih => exact ih (work.addConflict isOurs i conflict.1 conflict.2)

lemma look_of_met {kind : Kind} {i : ℕ} {conflicts : List (ℕ × ConflictPair)}
    {keys : List (List V)} (htables : work.tables.get? table =
      some ((tableState databases table effects).withData data)) (hkey : data.get? key = none) :
    work.look isOurs ⟨table, i, kind, some key, verdictOfMet conflicts, keys⟩ =
      (if conflicts = [] then work.addFailedLookup i
        else work.addUniqueConflicts isOurs i conflicts).withRemoved table
        (recordedSide isOurs kind) i keys := by
  rw [Work.look, popKeyOf_of_none htables hkey, verdictOfMet]
  by_cases hnil : conflicts = []
  · rw [if_pos hnil, if_pos hnil]
    rfl
  · rw [if_neg hnil, if_neg hnil]
    show ({ work.addUniqueConflicts isOurs i conflicts with tables := _, removedKeys := _ } : Work V) = _
    rw [addUniqueConflicts_eq]
    rfl

lemma look_of_same {kind : Kind} {i index : ℕ} {keys : List (List V)}
    (htables : work.tables.get? table =
      some ((tableState databases table effects).withData data)) :
    work.look isOurs ⟨table, i, kind, some key, .matched index, keys⟩ =
      ((work.addToResMatch isOurs i index).popKey table
        ((tableState databases table effects).withData data) key).withRemoved table
        (recordedSide isOurs kind) i keys := by
  rw [Work.look, popKeyOf_of_get? htables]
  rfl

lemma look_of_conflict {kind : Kind} {i index : ℕ} {conflict : ConflictPair}
    {conflicts : List (ℕ × ConflictPair)} {keys : List (List V)}
    (htables : work.tables.get? table =
      some ((tableState databases table effects).withData data)) :
    work.look isOurs ⟨table, i, kind, some key, .conflicting ((index, conflict) :: conflicts), keys⟩ =
      ((((work.addConflict isOurs i index conflict).popKey table
        ((tableState databases table effects).withData data) key).addUniqueConflicts isOurs i
          conflicts).withRemoved table (recordedSide isOurs kind) i keys) := by
  rw [Work.look, popKeyOf_of_get? htables, popKey_addUniqueConflicts]
  show ({ (work.addConflict isOurs i index conflict).addUniqueConflicts isOurs i conflicts with
    tables := _, removedKeys := _ } : Work V) = _
  rw [addUniqueConflicts_eq]
  rfl

lemma lookupDelete_eq (htables : work.tables.get? table =
      some ((tableState databases table effects).withData data)) (heffects : effects ≠ [])
    (i : ℕ) (predicates : List (Predicate V))
    (hdata : ∀ key, Statement.key databases ⟨table, .delete predicates⟩ = .ok key →
      data.get? key = partner effects key ∧ PartnerOk effects ⟨table, .delete predicates⟩ key) :
    lookupDelete databases isOurs i table ((tableState databases table effects).withData data) work
        predicates =
      (Statement.look databases cursor effects ⟨table, .delete predicates⟩ i).map
        (work.look isOurs) := by
  have hcolumns : ((tableState databases table effects).withData data).primaryKeyColumnsToIndex =
    databases.primaryKeys table := rfl
  rw [lookupDelete, recordDelete_work, hcolumns]
  cases hkey : getPrimaryKeyValuesFromWhere databases (databases.primaryKeys table) predicates with
  | error e =>
    have hread : Statement.key databases ⟨table, .delete predicates⟩ = .error e := hkey
    rw [look_error heffects hread]
    rfl
  | ok key =>
    have hread : Statement.key databases ⟨table, .delete predicates⟩ = .ok key := hkey
    obtain ⟨hget, hok⟩ := hdata key hread
    have hentry : ((tableState databases table effects).withData data).primaryKeyValueToData.get?
      key = partner effects key := hget
    rw [ok_bind, hentry]
    cases hpartner : partner effects key with
    | none =>
      rw [look_none heffects hread hpartner, effect_delete, hkey, ok_bind]
      cases Statement.recordedKeys databases ⟨table, .delete predicates⟩ none with
      | error e => rfl
      | ok keys =>
        refine congrArg Except.ok ?_
        refine Eq.trans ?_ (look_of_met htables (hget.trans hpartner)).symm
        rfl
    | some found =>
      obtain ⟨hkind, hliterals⟩ := hok found hpartner
      cases hfound : found.kind with
      | insert => cases hkind.mp hfound
      | delete =>
        have hsame : found.sameAs databases ⟨table, .delete predicates⟩ = true :=
          sameAs_iff.mpr ⟨hfound, hliterals hfound⟩
        rw [look_same heffects hread hpartner hsame, removedOfSame_delete]
        cases Statement.recordedKeys databases ⟨table, .delete predicates⟩ none with
        | error e => rfl
        | ok keys =>
          refine congrArg Except.ok ?_
          refine Eq.trans ?_ (look_of_same htables).symm
          rw [Work.meetDelete, hfound]
          rfl
      | update =>
        have hsame : ¬ found.sameAs databases ⟨table, .delete predicates⟩ = true := by
          intro h
          rw [(sameAs_iff.mp h).1] at hfound
          cases hfound
        rw [look_differs heffects hread hpartner hsame, effect_delete, hkey, ok_bind]
        cases Statement.recordedKeys databases ⟨table, .delete predicates⟩ none with
        | error e => rfl
        | ok keys =>
          refine congrArg Except.ok ?_
          refine Eq.trans ?_ (look_of_conflict htables).symm
          rw [Work.meetDelete, hfound]
          rfl

lemma checkUniqueIndexesValue_insert (row : Option (Row V)) (table : String) :
    checkUniqueIndexesValue databases row ((databases.uniqueIndexes table).map (indexState effects)) =
      (do
        let entry ← insertEntry databases table row
        let unique ← uniqueKeys databases entry
        return unique.flatMap (holder effects)) := by
  rw [insertEntry]
  by_cases hempty : (databases.uniqueIndexes table).isEmpty = true
  · rw [if_pos hempty, List.isEmpty_iff.mp hempty]
    rfl
  · rw [if_neg hempty]
    cases row with
    | none =>
      rw [checkUniqueIndexesValue, List.isEmpty_map, if_neg hempty]
      rfl
    | some row =>
      rw [checkUniqueIndexesValue_eq]
      show _ = (do
        let unique ← Entry.uniqueKeys databases ⟨row, databases.uniqueIndexes table⟩
        return unique.flatMap (holder effects))
      cases Entry.uniqueKeys databases ⟨row, databases.uniqueIndexes table⟩ <;> rfl

lemma checkInsert_eq (i : ℕ) (columns : List (String × V)) (toAddToExtra : Bool) :
    checkInsert databases isOurs cursor i table
        ((tableState databases table effects).withData data) columns work toAddToExtra = (do
      let row ← getFullRowOfInsert databases cursor table (databases.primaryKeys table) columns
      let entry ← insertEntry databases table row
      let unique ← uniqueKeys databases entry
      return if unique.flatMap (holder effects) = [] ∧ toAddToExtra then work.addFailedLookup i
        else work.addUniqueConflicts isOurs i (unique.flatMap (holder effects))) := by
  rw [checkInsert]
  show (getFullRowOfInsert databases cursor table (databases.primaryKeys table) columns >>= _) = _
  cases getFullRowOfInsert databases cursor table (databases.primaryKeys table) columns with
  | error e => rfl
  | ok row =>
    rw [ok_bind, ok_bind]
    show (checkUniqueIndexesValue databases row
      ((databases.uniqueIndexes table).map (indexState effects)) >>= _) = _
    rw [checkUniqueIndexesValue_insert]
    cases insertEntry databases table row with
    | error e => rfl
    | ok entry =>
      rw [ok_bind, ok_bind]
      cases uniqueKeys databases entry with
      | error e => rfl
      | ok unique =>
        refine congrArg Except.ok ?_
        by_cases hnil : unique.flatMap (holder effects) = []
        · cases toAddToExtra <;> simp [hnil, Work.addUniqueConflicts]
        · simp [hnil]

lemma lookupInsert_eq (htables : work.tables.get? table =
      some ((tableState databases table effects).withData data)) (heffects : effects ≠ [])
    (i : ℕ) (columns : List (String × V))
    (hdata : ∀ key, Statement.key databases ⟨table, .insert columns⟩ = .ok key →
      data.get? key = partner effects key ∧ PartnerOk effects ⟨table, .insert columns⟩ key) :
    lookupInsert databases isOurs cursor i table
        ((tableState databases table effects).withData data) work columns =
      (Statement.look databases cursor effects ⟨table, .insert columns⟩ i).map
        (work.look isOurs) := by
  have hread : Statement.key databases ⟨table, .insert columns⟩ =
      (getKeyValuesAndColumnToLiteralInsert (databases.primaryKeys table) columns).map Prod.fst := rfl
  have hcolumns : ((tableState databases table effects).withData data).primaryKeyColumnsToIndex =
    databases.primaryKeys table := rfl
  rw [getKeyValues_insert] at hread
  rw [lookupInsert, hcolumns, getKeyValues_insert]
  cases hplaced : allPlaced (placedColumns databases table columns).1 with
  | error e =>
    rw [hplaced] at hread
    rw [look_error heffects hread]
    rfl
  | ok key =>
    rw [hplaced] at hread
    obtain ⟨hget, hok⟩ := hdata key hread
    have hentry : ((tableState databases table effects).withData data).primaryKeyValueToData.get?
      key = partner effects key := hget
    rw [map_ok, ok_bind]
    simp only [hentry]
    cases hpartner : partner effects key with
    | none =>
      show checkInsert databases isOurs cursor i table _ columns work true = _
      rw [checkInsert_eq, look_none heffects hread hpartner, effect_insert, hplaced, ok_bind]
      cases getFullRowOfInsert databases cursor table (databases.primaryKeys table) columns with
      | error e => rfl
      | ok row =>
        rw [ok_bind, ok_bind]
        cases insertEntry databases table row with
        | error e => rfl
        | ok entry =>
          rw [ok_bind, ok_bind]
          cases uniqueKeys databases entry with
          | error e => rfl
          | ok unique =>
            refine congrArg Except.ok ?_
            refine Eq.trans ?_ (look_of_met htables (hget.trans hpartner)).symm
            rw [withRemoved_nil]
            exact if_congr (and_iff_left rfl) rfl rfl
    | some found =>
      obtain ⟨hkind, -⟩ := hok found hpartner
      have hfound : found.kind = .insert := hkind.mpr rfl
      show (if found.kind ≠ .insert then _ else if _ then _ else _) = _
      rw [if_neg (not_not.mpr hfound)]
      by_cases hsame : found.sameAs databases ⟨table, .insert columns⟩ = true
      · have hliterals : found.columnToLiteral = some (placedColumns databases table columns).2 :=
          (sameAs_iff.mp hsame).2
        rw [if_pos hliterals, look_same heffects hread hpartner hsame]
        refine congrArg Except.ok ?_
        refine Eq.trans ?_ (look_of_same htables).symm
        rw [withRemoved_nil]
      · have hliterals : ¬ found.columnToLiteral =
            some (placedColumns databases table columns).2 :=
          fun h => hsame (sameAs_iff.mpr ⟨hfound, h⟩)
        rw [if_neg hliterals, checkInsert_eq, look_differs heffects hread hpartner hsame,
          effect_insert, hplaced, ok_bind]
        cases getFullRowOfInsert databases cursor table (databases.primaryKeys table) columns with
        | error e => rfl
        | ok row =>
          rw [ok_bind, ok_bind]
          cases insertEntry databases table row with
          | error e => rfl
          | ok entry =>
            rw [ok_bind, ok_bind]
            cases uniqueKeys databases entry with
            | error e => rfl
            | ok unique =>
              refine congrArg Except.ok ?_
              refine Eq.trans ?_ (look_of_conflict htables).symm
              rw [withRemoved_nil, if_neg (by simp)]
              rfl

lemma checkUpdate_eq (i : ℕ) (assignments : List (String × V)) (predicates : List (Predicate V))
    (toAddToExtra : Bool) {key : KeyTuple V}
    (hkey : Statement.key databases ⟨table, .update assignments predicates⟩ = .ok key) :
    checkUpdate databases isOurs cursor i table
        ((tableState databases table effects).withData data) assignments predicates work
        toAddToExtra =
      (Statement.effect databases cursor ⟨table, .update assignments predicates⟩ i).map fun effect =>
        (if met effects effect = [] ∧ toAddToExtra then work.addFailedLookup i
          else work.addUniqueConflicts isOurs i (met effects effect)).withRemoved table isOurs i
            effect.removed := by
  have hread : getPrimaryKeyValuesFromWhere databases (databases.primaryKeys table) predicates =
    .ok key := hkey
  rw [effect_update, hread, ok_bind, checkUpdate]
  show (if Statement.updatesUniqueColumn databases table assignments = true then _ else _) = _
  by_cases hupdates : Statement.updatesUniqueColumn databases table assignments = true
  · rw [if_pos hupdates, if_pos hupdates]
    cases requireFullRow databases cursor table predicates with
    | error e => rfl
    | ok row =>
      have hcolumns := fun index => (indexState_names effects index).2
      rw [ok_bind, ok_bind]
      show (getRelevantUniqueIndexesFromUpdate databases row (assignments.map Prod.fst)
        ((databases.uniqueIndexes table).map (indexState effects)) >>= _) = _
      rw [getRelevantUniqueIndexes_map (assignments.map Prod.fst) hcolumns]
      cases relevantIndexes databases row (assignments.map Prod.fst)
        (databases.uniqueIndexes table) with
      | error e => rfl
      | ok relevant =>
        rw [map_ok, ok_bind, ok_bind, checkUniqueIndexesValue_eq]
        cases Entry.uniqueKeys databases ⟨row, relevant⟩ with
        | error e => rfl
        | ok unique =>
          rw [map_ok, ok_bind, ok_bind, recordUpdate_work isOurs i row relevant assignments predicates]
          cases Statement.recordedKeys databases ⟨table, .update assignments predicates⟩
            (some ⟨row, relevant⟩) with
          | error e => rfl
          | ok keys =>
            refine congrArg Except.ok ?_
            show (if unique.flatMap (holder effects) = [] ∧ toAddToExtra then _ else _) =
              (if unique.flatMap (holder effects) = [] ∧ toAddToExtra then _ else _ : Work V).withRemoved
                table isOurs i keys
            split
            · next h =>
              rw [h.1]
              rfl
            · rfl
  · rw [if_neg hupdates, if_neg hupdates]
    refine congrArg Except.ok ?_
    refine Eq.trans ?_ (withRemoved_nil _ table isOurs i).symm
    cases toAddToExtra <;> rfl

lemma lookupUpdate_eq (htables : work.tables.get? table =
      some ((tableState databases table effects).withData data)) (heffects : effects ≠ [])
    (i : ℕ) (assignments : List (String × V)) (predicates : List (Predicate V))
    (hdata : ∀ key, Statement.key databases ⟨table, .update assignments predicates⟩ = .ok key →
      data.get? key = partner effects key ∧
        PartnerOk effects ⟨table, .update assignments predicates⟩ key) :
    lookupUpdate databases isOurs cursor i table
        ((tableState databases table effects).withData data) work assignments predicates =
      (Statement.look databases cursor effects ⟨table, .update assignments predicates⟩ i).map
        (work.look isOurs) := by
  have hcolumns : ((tableState databases table effects).withData data).primaryKeyColumnsToIndex =
    databases.primaryKeys table := rfl
  rw [lookupUpdate, hcolumns]
  cases hkey : getPrimaryKeyValuesFromWhere databases (databases.primaryKeys table) predicates with
  | error e =>
    have hread : Statement.key databases ⟨table, .update assignments predicates⟩ = .error e := hkey
    rw [look_error heffects hread]
    rfl
  | ok key =>
    have hread : Statement.key databases ⟨table, .update assignments predicates⟩ = .ok key := hkey
    obtain ⟨hget, hok⟩ := hdata key hread
    have hentry : ((tableState databases table effects).withData data).primaryKeyValueToData.get?
      key = partner effects key := hget
    rw [ok_bind, hentry]
    -- a partner with another change is in conflict, whatever its kind
    have hconflict : ∀ found : KeyValueData V, partner effects key = some found →
        ¬ found.sameAs databases ⟨table, .update assignments predicates⟩ = true →
        checkUpdate databases isOurs cursor i table
          ((tableState databases table effects).withData data) assignments predicates
          ((work.addConflict isOurs i found.index .primaryKey).popKey table
            ((tableState databases table effects).withData data) key) false =
        (Statement.look databases cursor effects ⟨table, .update assignments predicates⟩ i).map
          (work.look isOurs) := by
      intro found hpartner hsame
      rw [checkUpdate_eq i assignments predicates false hread,
        look_differs heffects hread hpartner hsame]
      cases Statement.effect databases cursor ⟨table, .update assignments predicates⟩ i with
      | error e => rfl
      | ok effect =>
        refine congrArg Except.ok ?_
        refine Eq.trans ?_ (look_of_conflict htables).symm
        refine congrArg (fun work => Work.withRemoved work table isOurs i effect.removed) ?_
        exact if_neg (by simp)
    cases hpartner : partner effects key with
    | none =>
      show checkUpdate databases isOurs cursor i table _ assignments predicates work true = _
      rw [checkUpdate_eq i assignments predicates true hread, look_none heffects hread hpartner]
      cases Statement.effect databases cursor ⟨table, .update assignments predicates⟩ i with
      | error e => rfl
      | ok effect =>
        refine congrArg Except.ok ?_
        refine Eq.trans ?_ (look_of_met htables (hget.trans hpartner)).symm
        refine congrArg (fun work => Work.withRemoved work table isOurs i effect.removed) ?_
        exact if_congr (and_iff_left rfl) rfl rfl
    | some found =>
      obtain ⟨hkind, hliterals⟩ := hok found hpartner
      cases hfound : found.kind with
      | insert => cases hkind.mp hfound
      | delete =>
        have hsame : ¬ found.sameAs databases ⟨table, .update assignments predicates⟩ = true := by
          intro h
          rw [(sameAs_iff.mp h).1] at hfound
          cases hfound
        refine Eq.trans ?_ (hconflict found hpartner hsame)
        simp only [hfound]
      | update =>
        by_cases hsame : found.sameAs databases ⟨table, .update assignments predicates⟩ = true
        · have hliterals : found.columnToLiteral = some (columnToLiteral assignments) :=
            (sameAs_iff.mp hsame).2
          rw [look_same heffects hread hpartner hsame]
          simp only [hfound]
          show (if _ then _ else _) = _
          rw [if_pos hliterals]
          refine congrArg Except.ok ?_
          refine Eq.trans ?_ (look_of_same htables).symm
          rw [withRemoved_nil]
        · have hliterals : ¬ found.columnToLiteral = some (columnToLiteral assignments) :=
            fun h => hsame (sameAs_iff.mpr ⟨hfound, h⟩)
          refine Eq.trans ?_ (hconflict found hpartner hsame)
          simp only [hfound]
          exact if_neg hliterals

end SqliteReconcile.RowMerge
