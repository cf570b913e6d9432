import SqliteReconcile.Dicts

/-!
# The row merge

The merge driver compares the statements that lead from the base to each branch. The shorter list
is hashed by primary key and by the values of unique indexes, the other one is looked up.
-/
namespace SqliteReconcile.RowMerge
open Dicts

inductive Failure
  | assertionError
  | typeError
  | indexError
  | operationalError
  deriving DecidableEq

abbrev Row (V : Type) := String → V

abbrev Snapshot (V : Type) := String → List (Row V)

/-- The three databases with the schema they share. sqldiff prints different values differently. -/
structure Databases (V : Type) where
  null : V
  /-- sqlglot reads NULL, negative numbers and blobs as other expressions. -/
  isLiteral : V → Bool
  /-- One of the values that Python holds equal. -/
  hashed : V → V
  /-- Whether SQLite holds two values of a column equal. -/
  equal : String → String → V → V → Bool
  primaryKeys : String → Dict String ℕ
  /-- The columns of a primary key have the places 0, 1, ... -/
  keyPlaces : ∀ table,
    (primaryKeys table).values.Perm (List.range (primaryKeys table).values.length)
  uniqueIndexes : String → List (String × List (Option String))
  indexNames : ∀ table, ((uniqueIndexes table).map Prod.fst).Nodup
  /-- The columns of a table that foreign keys of other tables name. -/
  childReferences : String → List (List (Option String))
  /-- The names that SQLite reads in quotes only. -/
  needsQuotes : String → Bool
  base : Snapshot V
  ours : Snapshot V
  theirs : Snapshot V

inductive Predicate (V : Type)
  | eq (column : String) (value : V)
  | isNull (column : String)
  deriving DecidableEq

def Predicate.column {V : Type} : Predicate V → String
  | .eq column _ | .isNull column => column

inductive Change (V : Type)
  | insert (columns : List (String × V))
  | update (assignments : List (String × V)) (predicates : List (Predicate V))
  | delete (predicates : List (Predicate V))
  deriving DecidableEq

structure Statement (V : Type) where
  table : String
  change : Change V
  deriving DecidableEq

inductive Kind
  | insert
  | update
  | delete
  deriving DecidableEq

abbrev KeyTuple (V : Type) := List V

/-- The column dictionary of a statement. -/
abbrev Literals (V : Type) := Finmap fun _ : String => V

structure KeyValueData (V : Type) where
  index : ℕ
  kind : Kind
  columnToLiteral : Option (Literals V)

structure UniqueIndexState (V : Type) where
  indexName : String
  columnNames : List (Option String)
  valuesToStmtIndex : Dict (List V) ℕ

structure TableConflictState (V : Type) where
  primaryKeyColumnsToIndex : Dict String ℕ
  primaryKeyValueToData : Dict (KeyTuple V) (KeyValueData V)
  uniqueKeyColumnNames : List (Option String)
  uniqueIndexes : List (UniqueIndexState V)

structure InvalidTableState where
  baseToOurs : List ℕ
  baseToTheirs : List ℕ

structure TableForeignKeyConflictState (V : Type) where
  removedParentKeysByOurs : Dict (List V) ℕ
  removedParentKeysByTheirs : Dict (List V) ℕ

inductive ConflictPair
  | primaryKey
  | uniqueIndexes (indexName : String) (indexColumns : List (Option String))
  deriving DecidableEq

structure Work (V : Type) where
  tables : Dict String (TableConflictState V)
  invalidTables : Dict String InvalidTableState
  removedKeys : String → TableForeignKeyConflictState V
  resMatch : List ℕ
  failedLookups : List ℕ
  conflictStmtsPair : Dict (ℕ × ℕ) (List ConflictPair)

structure DiffBuckets where
  matchedOursIndices : List ℕ
  extraOursIndices : List ℕ
  extraTheirsIndices : List ℕ
  conflictPairs : Dict (ℕ × ℕ) (List ConflictPair)

variable {V : Type} [DecidableEq V]

def allPlaced (values : List (Option V)) : Except Failure (KeyTuple V) :=
  match values.mapM id with
  | some key => .ok key
  | none => .error .assertionError

/-- The value of a column of the key takes its place. -/
def placeKeyValue (keyColumnToIndex : Dict String ℕ) (values : List (Option V)) (column : String)
    (value : V) : Except Failure (List (Option V)) :=
  match keyColumnToIndex.get? column with
  | some index => .ok (values.set index (some value))
  | none => .error .assertionError

def placePredicate (databases : Databases V) (keyColumnToIndex : Dict String ℕ)
    (values : List (Option V)) : Predicate V → Except Failure (List (Option V))
  | .eq column value =>
    if databases.isLiteral value then placeKeyValue keyColumnToIndex values column value
    else .error .assertionError
  | .isNull column => placeKeyValue keyColumnToIndex values column databases.null

def getPrimaryKeyValuesFromWhere (databases : Databases V) (keyColumnToIndex : Dict String ℕ)
    (predicates : List (Predicate V)) : Except Failure (KeyTuple V) := do
  let values ← predicates.foldlM (placePredicate databases keyColumnToIndex)
    (List.replicate keyColumnToIndex.keys.length none)
  allPlaced values

/-- A value of an INSERT goes to the key or to the other columns. -/
def placeColumn (keyColumnToIndex : Dict String ℕ) (placed : List (Option V) × Literals V)
    (column : String × V) : List (Option V) × Literals V :=
  match keyColumnToIndex.get? column.1 with
  | some index => (placed.1.set index (some column.2), placed.2)
  | none => (placed.1, placed.2.insert column.1 column.2)

def getKeyValuesAndColumnToLiteralInsert (keyColumnToIndex : Dict String ℕ)
    (columns : List (String × V)) : Except Failure (KeyTuple V × Literals V) := do
  let placed := columns.foldl (placeColumn keyColumnToIndex)
    (List.replicate keyColumnToIndex.keys.length none, ∅)
  let key ← allPlaced placed.1
  return (key, placed.2)

/-- `column_to_literal[column] = value` for each assignment. -/
def columnToLiteral (assignments : List (String × V)) : Literals V :=
  assignments.foldl (fun literals assignment => literals.insert assignment.1 assignment.2) ∅

def Predicate.holds (databases : Databases V) (table : String) (row : Row V) :
    Predicate V → Bool
  | .eq column value =>
    row column ≠ databases.null && value ≠ databases.null &&
      databases.equal table column (row column) value
  | .isNull column => row column = databases.null

def buildWhereExprFromInsert (databases : Databases V) (keyColumnToIndex : Dict String ℕ)
    (columns : List (String × V)) : Except Failure (List (Predicate V)) :=
  let predicates := (columns.filter fun column => column.1 ∈ keyColumnToIndex.keys).map
    fun column =>
      if column.2 = databases.null then .isNull column.1 else .eq column.1 column.2
  if predicates = [] then .error .assertionError else .ok predicates

def firstRow (databases : Databases V) (snapshot : Snapshot V) (table : String)
    (predicates : List (Predicate V)) : Option (Row V) :=
  (snapshot table).find? fun row => predicates.all (·.holds databases table row)

/-- `SELECT * FROM table WHERE ...`, and its first row. The table is written without quotes, and so
are the columns of a WHERE that the driver builds. -/
def fetchRow (databases : Databases V) (snapshot : Snapshot V) (table : String)
    (bareColumns : List String) (predicates : List (Predicate V)) :
    Except Failure (Option (Row V)) :=
  if (table :: bareColumns).any databases.needsQuotes then .error .operationalError
  else .ok (firstRow databases snapshot table predicates)

/-- `row[...]` of a row that may be missing. -/
def requireRow : Option (Row V) → Except Failure (Row V)
  | some row => .ok row
  | none => .error .typeError

/-- `row[...]` of the row of an UPDATE or a DELETE. -/
def requireFullRow (databases : Databases V) (snapshot : Snapshot V) (table : String)
    (predicates : List (Predicate V)) : Except Failure (Row V) := do
  let row ← fetchRow databases snapshot table [] predicates
  requireRow row

/-- `row[column_name]`, where an expression in an index has no column name. -/
def readColumn (row : Row V) : Option String → Except Failure V
  | some column => .ok (row column)
  | none => .error .indexError

def readColumns (row : Row V) (columns : List (Option String)) : Except Failure (List V) :=
  columns.mapM (readColumn row)

/-- Whether a column of the index was updated, and whether the row has no value in the index. -/
def scanIndexColumns (databases : Databases V) (row : Row V) (columnsUpdated : List String) :
    List (Option String) → Except Failure (Bool × Bool)
  | [] => .ok (false, false)
  | column :: rest => do
    let updated : Bool := column ∈ columnsUpdated.map some
    let value ← readColumn row column
    if value = databases.null then return (updated, true)
    else
      let scanned ← scanIndexColumns databases row columnsUpdated rest
      return (updated || scanned.1, scanned.2)

def getRelevantUniqueIndexesFromUpdate (databases : Databases V) (row : Row V)
    (columnsUpdated : List String) :
    List (UniqueIndexState V) → Except Failure (List (UniqueIndexState V))
  | [] => .ok []
  | uniqueIndex :: rest => do
    let scanned ← scanIndexColumns databases row columnsUpdated uniqueIndex.columnNames
    let relevant ← getRelevantUniqueIndexesFromUpdate databases row columnsUpdated rest
    return if scanned.1 && !scanned.2 then uniqueIndex :: relevant else relevant

def addIndexValue (databases : Databases V) (row : Row V) (i : ℕ)
    (uniqueIndex : UniqueIndexState V) : Except Failure (UniqueIndexState V) := do
  let values ← readColumns row uniqueIndex.columnNames
  return if databases.null ∈ values then uniqueIndex
    else { uniqueIndex with
      valuesToStmtIndex := uniqueIndex.valuesToStmtIndex.set (values.map databases.hashed) i }

/-- `add_or_check_unique_indexes_value` that adds. The relevant indexes are those of the table
itself, so that they change there. -/
def addUniqueIndexesValue (databases : Databases V) (row : Option (Row V))
    (relevant : List (UniqueIndexState V)) (i : ℕ) (uniqueIndexes : List (UniqueIndexState V)) :
    Except Failure (List (UniqueIndexState V)) :=
  if relevant.isEmpty then .ok uniqueIndexes
  else do
    let row ← requireRow row
    uniqueIndexes.mapM fun uniqueIndex =>
      if uniqueIndex.indexName ∈ relevant.map (·.indexName) then
        addIndexValue databases row i uniqueIndex
      else return uniqueIndex

def checkIndexValue (databases : Databases V) (row : Row V) (uniqueIndex : UniqueIndexState V) :
    Except Failure (List (ℕ × ConflictPair)) := do
  let values ← readColumns row uniqueIndex.columnNames
  return if databases.null ∈ values then []
    else ((uniqueIndex.valuesToStmtIndex.get? (values.map databases.hashed)).map fun index =>
      (index, .uniqueIndexes uniqueIndex.indexName uniqueIndex.columnNames)).toList

/-- `add_or_check_unique_indexes_value` that checks. -/
def checkUniqueIndexesValue (databases : Databases V) (row : Option (Row V))
    (relevant : List (UniqueIndexState V)) : Except Failure (List (ℕ × ConflictPair)) :=
  if relevant.isEmpty then .ok []
  else do
    let row ← requireRow row
    let conflicts ← relevant.mapM (checkIndexValue databases row)
    return conflicts.flatten

def processDeleteForForeignLinkAsParent (databases : Databases V) (row : Option (Row V))
    (index : ℕ) (tableParentReferences : List (List (Option String)))
    (dictToAdd : Dict (List V) ℕ) : Except Failure (Dict (List V) ℕ) := do
  let row ← requireRow row
  tableParentReferences.foldlM (fun dictToAdd columns => do
    let values ← readColumns row columns
    return if databases.null ∈ values then dictToAdd
      else dictToAdd.set (values.map databases.hashed) index) dictToAdd

def processUpdateForForeignLinkAsParent (databases : Databases V) (row : Row V) (index : ℕ)
    (relevant : List (UniqueIndexState V)) (tableParentReferences : List (List (Option String)))
    (dictToAdd : Dict (List V) ℕ) : Except Failure (Dict (List V) ℕ) :=
  relevant.foldlM (fun dictToAdd uniqueIndex => do
    if uniqueIndex.columnNames ∈ tableParentReferences then
      let values ← readColumns row uniqueIndex.columnNames
      return dictToAdd.set (values.map databases.hashed) index
    else return dictToAdd) dictToAdd

/-- `get_foreign_dict_to_add`, and a dictionary in its place. -/
def TableForeignKeyConflictState.dict (state : TableForeignKeyConflictState V) (isOurs : Bool) :
    Dict (List V) ℕ :=
  if isOurs then state.removedParentKeysByOurs else state.removedParentKeysByTheirs

def TableForeignKeyConflictState.withDict (state : TableForeignKeyConflictState V) (isOurs : Bool)
    (dict : Dict (List V) ℕ) : TableForeignKeyConflictState V :=
  if isOurs then { state with removedParentKeysByOurs := dict }
  else { state with removedParentKeysByTheirs := dict }

def newTableConflictState (databases : Databases V) (table : String) : TableConflictState V where
  primaryKeyColumnsToIndex := databases.primaryKeys table
  primaryKeyValueToData := .empty
  uniqueKeyColumnNames := (databases.uniqueIndexes table).flatMap Prod.snd
  uniqueIndexes := (databases.uniqueIndexes table).map fun index => ⟨index.1, index.2, .empty⟩

/-- The statement is recorded if its table is invalid. -/
def checkAndRecordForInvalidTables (invalidTables : Dict String InvalidTableState)
    (table : String) (index : ℕ) (isOurs : Bool) : Option (Dict String InvalidTableState) :=
  (invalidTables.get? table).map fun state =>
    invalidTables.set table
      (if isOurs then { state with baseToOurs := state.baseToOurs ++ [index] }
      else { state with baseToTheirs := state.baseToTheirs ++ [index] })

def tableIsParent (databases : Databases V) (table : String) : Bool :=
  !(databases.childReferences table).isEmpty

/-- `get_full_row_from_expr` of an INSERT. -/
def getFullRowOfInsert (databases : Databases V) (snapshot : Snapshot V) (table : String)
    (keyColumnToIndex : Dict String ℕ) (columns : List (String × V)) :
    Except Failure (Option (Row V)) := do
  let predicates ← buildWhereExprFromInsert databases keyColumnToIndex columns
  fetchRow databases snapshot table (predicates.map (·.column)) predicates

def TableConflictState.setData (state : TableConflictState V) (key : KeyTuple V)
    (data : KeyValueData V) : TableConflictState V :=
  { state with primaryKeyValueToData := state.primaryKeyValueToData.set key data }

def TableConflictState.popKey (state : TableConflictState V) (key : KeyTuple V) :
    TableConflictState V :=
  { state with primaryKeyValueToData := state.primaryKeyValueToData.erase key }

def TableConflictState.updatesUniqueColumn (state : TableConflictState V)
    (assignments : List (String × V)) : Bool :=
  assignments.any fun assignment => some assignment.1 ∈ state.uniqueKeyColumnNames

/-- What the build phase makes of the state of one table, for one statement of a valid table. -/
def buildTable (databases : Databases V) (buildWithBaseToOurs : Bool) (buildCursor : Snapshot V)
    (i : ℕ) (table : String) (state : TableConflictState V)
    (removed : TableForeignKeyConflictState V) :
    Change V → Except Failure (TableConflictState V × TableForeignKeyConflictState V)
  | .delete predicates => do
    let key ← getPrimaryKeyValuesFromWhere databases state.primaryKeyColumnsToIndex predicates
    let state := state.setData key ⟨i, .delete, none⟩
    if tableIsParent databases table then
      let row ← fetchRow databases databases.base table [] predicates
      let dict ← processDeleteForForeignLinkAsParent databases row i
        (databases.childReferences table) (removed.dict buildWithBaseToOurs)
      return (state, removed.withDict buildWithBaseToOurs dict)
    else return (state, removed)
  | .insert columns => do
    let (key, literals) ← getKeyValuesAndColumnToLiteralInsert state.primaryKeyColumnsToIndex columns
    let state := state.setData key ⟨i, .insert, some literals⟩
    let row ← getFullRowOfInsert databases buildCursor table state.primaryKeyColumnsToIndex columns
    let uniqueIndexes ← addUniqueIndexesValue databases row state.uniqueIndexes i state.uniqueIndexes
    return ({ state with uniqueIndexes }, removed)
  | .update assignments predicates => do
    let key ← getPrimaryKeyValuesFromWhere databases state.primaryKeyColumnsToIndex predicates
    let state := state.setData key ⟨i, .update, some (columnToLiteral assignments)⟩
    if state.updatesUniqueColumn assignments then
      let row ← requireFullRow databases buildCursor table predicates
      let relevant ← getRelevantUniqueIndexesFromUpdate databases row (assignments.map Prod.fst)
        state.uniqueIndexes
      let uniqueIndexes ← addUniqueIndexesValue databases (some row) relevant i state.uniqueIndexes
      let state := { state with uniqueIndexes }
      if tableIsParent databases table then
        let dict ← processUpdateForForeignLinkAsParent databases row i relevant
          (databases.childReferences table) (removed.dict buildWithBaseToOurs)
        return (state, removed.withDict buildWithBaseToOurs dict)
      else return (state, removed)
    else return (state, removed)

def buildStatement (databases : Databases V) (buildWithBaseToOurs : Bool)
    (buildCursor : Snapshot V) (work : Work V) (entry : Statement V × ℕ) :
    Except Failure (Work V) :=
  match checkAndRecordForInvalidTables work.invalidTables entry.1.table entry.2
      buildWithBaseToOurs with
  | some invalidTables => .ok { work with invalidTables }
  | none => do
    let table := entry.1.table
    let state := (work.tables.get? table).getD (newTableConflictState databases table)
    let (state, removed) ← buildTable databases buildWithBaseToOurs buildCursor entry.2 table state
      (work.removedKeys table) entry.1.change
    return { work with
      tables := work.tables.set table state
      removedKeys := Function.update work.removedKeys table removed }

def getOursAndTheirsIndexOrdered (buildWithBaseToOurs : Bool) (lookupListI tableListI : ℕ) :
    ℕ × ℕ :=
  if buildWithBaseToOurs then (tableListI, lookupListI) else (lookupListI, tableListI)

def Work.addToResMatch (work : Work V) (buildWithBaseToOurs : Bool)
    (lookupListI tableListI : ℕ) : Work V :=
  { work with
    resMatch := work.resMatch ++ [if buildWithBaseToOurs then tableListI else lookupListI] }

def Work.addConflict (work : Work V) (buildWithBaseToOurs : Bool)
    (lookupListI tableListI : ℕ) (conflict : ConflictPair) : Work V :=
  let pair := getOursAndTheirsIndexOrdered buildWithBaseToOurs lookupListI tableListI
  { work with
    conflictStmtsPair := work.conflictStmtsPair.set pair
      ((work.conflictStmtsPair.get? pair).getD [] ++ [conflict]) }

def Work.addFailedLookup (work : Work V) (i : ℕ) : Work V :=
  { work with failedLookups := work.failedLookups ++ [i] }

def Work.popKey (work : Work V) (table : String) (state : TableConflictState V)
    (key : KeyTuple V) : Work V :=
  { work with tables := work.tables.set table (state.popKey key) }

def Work.addRemoved (work : Work V) (table : String) (isOurs : Bool) (dict : Dict (List V) ℕ) :
    Work V :=
  { work with
    removedKeys := Function.update work.removedKeys table
      ((work.removedKeys table).withDict isOurs dict) }

def Work.addUniqueConflicts (work : Work V) (buildWithBaseToOurs : Bool) (i : ℕ)
    (checkEntry : List (ℕ × ConflictPair)) : Work V :=
  checkEntry.foldl (fun work entry => work.addConflict buildWithBaseToOurs i entry.1 entry.2) work

def Work.recordDelete (databases : Databases V) (isOurs : Bool) (i : ℕ) (table : String)
    (predicates : List (Predicate V)) (work : Work V) : Except Failure (Work V) :=
  if tableIsParent databases table then do
    let row ← fetchRow databases databases.base table [] predicates
    let dict ← processDeleteForForeignLinkAsParent databases row i
      (databases.childReferences table) ((work.removedKeys table).dict isOurs)
    return work.addRemoved table isOurs dict
  else return work

def Work.recordUpdate (databases : Databases V) (isOurs : Bool) (i : ℕ) (table : String)
    (row : Row V) (relevant : List (UniqueIndexState V)) (work : Work V) :
    Except Failure (Work V) :=
  if tableIsParent databases table then do
    let dict ← processUpdateForForeignLinkAsParent databases row i relevant
      (databases.childReferences table) ((work.removedKeys table).dict isOurs)
    return work.addRemoved table isOurs dict
  else return work

def Work.meetDelete (work : Work V) (buildWithBaseToOurs : Bool) (i : ℕ)
    (data : KeyValueData V) : Work V :=
  match data.kind with
  | .delete => work.addToResMatch buildWithBaseToOurs i data.index
  | .update => work.addConflict buildWithBaseToOurs i data.index .primaryKey
  | .insert => work

def lookupDelete (databases : Databases V) (buildWithBaseToOurs : Bool) (i : ℕ) (table : String)
    (state : TableConflictState V) (work : Work V) (predicates : List (Predicate V)) :
    Except Failure (Work V) := do
  let key ← getPrimaryKeyValuesFromWhere databases state.primaryKeyColumnsToIndex predicates
  let work ← work.recordDelete databases (!buildWithBaseToOurs) i table predicates
  match state.primaryKeyValueToData.get? key with
  | none => return work.addFailedLookup i
  | some data => return (work.meetDelete buildWithBaseToOurs i data).popKey table state key

/-- An INSERT is checked against the unique indexes. -/
def checkInsert (databases : Databases V) (buildWithBaseToOurs : Bool) (lookupCursor : Snapshot V)
    (i : ℕ) (table : String) (state : TableConflictState V) (columns : List (String × V))
    (work : Work V) (toAddToExtra : Bool) : Except Failure (Work V) := do
  let row ← getFullRowOfInsert databases lookupCursor table state.primaryKeyColumnsToIndex columns
  let checkEntry ← checkUniqueIndexesValue databases row state.uniqueIndexes
  return if checkEntry ≠ [] then work.addUniqueConflicts buildWithBaseToOurs i checkEntry
    else if toAddToExtra then work.addFailedLookup i
    else work

def lookupInsert (databases : Databases V) (buildWithBaseToOurs : Bool) (lookupCursor : Snapshot V)
    (i : ℕ) (table : String) (state : TableConflictState V) (work : Work V)
    (columns : List (String × V)) : Except Failure (Work V) := do
  let (key, literals) ← getKeyValuesAndColumnToLiteralInsert state.primaryKeyColumnsToIndex columns
  match state.primaryKeyValueToData.get? key with
  | none => checkInsert databases buildWithBaseToOurs lookupCursor i table state columns work true
  | some data =>
    if data.kind ≠ .insert then throw .assertionError
    else if data.columnToLiteral = some literals then
      return (work.addToResMatch buildWithBaseToOurs i data.index).popKey table state key
    else
      checkInsert databases buildWithBaseToOurs lookupCursor i table state columns
        ((work.addConflict buildWithBaseToOurs i data.index .primaryKey).popKey table state key) false

/-- An UPDATE is checked against the unique indexes, if it assigns a column of one. -/
def checkUpdate (databases : Databases V) (buildWithBaseToOurs : Bool) (lookupCursor : Snapshot V)
    (i : ℕ) (table : String) (state : TableConflictState V) (assignments : List (String × V))
    (predicates : List (Predicate V)) (work : Work V) (toAddToExtra : Bool) :
    Except Failure (Work V) :=
  if state.updatesUniqueColumn assignments then do
    let row ← requireFullRow databases lookupCursor table predicates
    let relevant ← getRelevantUniqueIndexesFromUpdate databases row (assignments.map Prod.fst)
      state.uniqueIndexes
    let checkEntry ← checkUniqueIndexesValue databases (some row) relevant
    let work ← (work.addUniqueConflicts buildWithBaseToOurs i checkEntry).recordUpdate databases
      buildWithBaseToOurs i table row relevant
    return if checkEntry = [] ∧ toAddToExtra then work.addFailedLookup i else work
  else return if toAddToExtra then work.addFailedLookup i else work

def lookupUpdate (databases : Databases V) (buildWithBaseToOurs : Bool) (lookupCursor : Snapshot V)
    (i : ℕ) (table : String) (state : TableConflictState V) (work : Work V)
    (assignments : List (String × V)) (predicates : List (Predicate V)) :
    Except Failure (Work V) := do
  let key ← getPrimaryKeyValuesFromWhere databases state.primaryKeyColumnsToIndex predicates
  let check := checkUpdate databases buildWithBaseToOurs lookupCursor i table state assignments
    predicates
  match state.primaryKeyValueToData.get? key with
  | none => check work true
  | some data =>
    match data.kind with
    | .delete =>
      check ((work.addConflict buildWithBaseToOurs i data.index .primaryKey).popKey table state key)
        false
    | .update =>
      if data.columnToLiteral = some (columnToLiteral assignments) then
        return (work.addToResMatch buildWithBaseToOurs i data.index).popKey table state key
      else
        check ((work.addConflict buildWithBaseToOurs i data.index .primaryKey).popKey table state
          key) false
    | .insert => check (work.popKey table state key) false

/-- One statement of the list that is looked up. -/
def lookupStatement (databases : Databases V) (buildWithBaseToOurs : Bool)
    (lookupCursor : Snapshot V) (work : Work V) (entry : Statement V × ℕ) :
    Except Failure (Work V) :=
  match checkAndRecordForInvalidTables work.invalidTables entry.1.table entry.2
      (!buildWithBaseToOurs) with
  | some invalidTables => .ok { work with invalidTables }
  | none =>
    match work.tables.get? entry.1.table with
    | none => .ok (work.addFailedLookup entry.2)
    | some state =>
      match entry.1.change with
      | .delete predicates =>
        lookupDelete databases buildWithBaseToOurs entry.2 entry.1.table state work predicates
      | .insert columns =>
        lookupInsert databases buildWithBaseToOurs lookupCursor entry.2 entry.1.table state work
          columns
      | .update assignments predicates =>
        lookupUpdate databases buildWithBaseToOurs lookupCursor entry.2 entry.1.table state work
          assignments predicates

/-- What the merge has found: the buckets, the invalid tables with their statements, and the
removed parent keys. -/
structure Comparison (V : Type) where
  buckets : DiffBuckets
  invalidTables : Dict String InvalidTableState
  removedKeys : String → TableForeignKeyConflictState V

/-- The statements that were not looked up. -/
def remainingEntries (tables : Dict String (TableConflictState V)) : List ℕ :=
  tables.values.flatMap fun state => state.primaryKeyValueToData.values.map (·.index)

/-- The comparison of two lists, from tables without statements as the driver starts it. -/
def checkConflictAndReturnDiffs (databases : Databases V)
    (baseToOurs baseToTheirs : List (Statement V)) (invalidTables : Dict String InvalidTableState) :
    Except Failure (Comparison V) := do
  let buildWithBaseToOurs := !(baseToTheirs.length < baseToOurs.length)
  let (toBuild, toLookup) :=
    if buildWithBaseToOurs then (baseToOurs, baseToTheirs) else (baseToTheirs, baseToOurs)
  let (buildCursor, lookupCursor) :=
    if buildWithBaseToOurs then (databases.ours, databases.theirs)
    else (databases.theirs, databases.ours)
  let start : Work V := ⟨.empty, invalidTables, fun _ => ⟨.empty, .empty⟩, [], [], .empty⟩
  let work ← toBuild.zipIdx.foldlM (buildStatement databases buildWithBaseToOurs buildCursor) start
  let work ← toLookup.zipIdx.foldlM
    (lookupStatement databases buildWithBaseToOurs lookupCursor) work
  let remaining := remainingEntries work.tables
  let (extraOurs, extraTheirs) :=
    if buildWithBaseToOurs then (remaining, work.failedLookups) else (work.failedLookups, remaining)
  return ⟨⟨work.resMatch, extraOurs, extraTheirs, work.conflictStmtsPair⟩, work.invalidTables,
    work.removedKeys⟩

abbrev IndexColumns := String × List (Option String)

def Statement.updatesUniqueColumn (databases : Databases V) (table : String)
    (assignments : List (String × V)) : Bool :=
  assignments.any fun assignment =>
    some assignment.1 ∈ (databases.uniqueIndexes table).flatMap Prod.snd

def updatedKey (databases : Databases V) (references : List (List (Option String))) (row : Row V)
    (index : IndexColumns) : Except Failure (List (List V)) := do
  if index.2 ∈ references then
    let values ← readColumns row index.2
    return [values.map databases.hashed]
  else return []

end SqliteReconcile.RowMerge
