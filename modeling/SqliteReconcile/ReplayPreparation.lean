import SqliteReconcile.ConflictSyntax

/-!
# Preparing the logged text

A statement is logged with a text to replay. Nondeterministic calls, and nondeterministic
defaults of columns that an INSERT leaves out, are evaluated once and put into that text as
literals.
-/
namespace SqliteReconcile.ReplayPreparation
open ConflictSyntax

abbrev SqlInteger : Type := {n : ℤ // -2 ^ 63 ≤ n ∧ n < 2 ^ 63}

inductive Value (Real : Type)
  | null
  | integer (n : SqlInteger)
  | real (r : Real)
  | text (s : List Char)
  | blob (bytes : List UInt8)
  deriving DecidableEq

inductive PythonValue (Real : Type)
  | none
  | bool (b : Bool)
  | int (n : ℤ)
  | float (r : Real)
  | str (s : List Char)
  | bytes (bytes : List UInt8)

/-- How the `sqlite3` module returns a value. -/
def Value.toPython {Real : Type} : Value Real → PythonValue Real
  | .null => .none
  | .integer n => .int n
  | .real r => .float r
  | .text s => .str s
  | .blob bytes => .bytes bytes

def strInt (n : ℤ) : List Char :=
  if n < 0 then '-' :: Nat.toDigits 10 n.natAbs else Nat.toDigits 10 n.natAbs

def hexDigits (byte : UInt8) : List Char :=
  [Nat.digitChar (byte.toNat / 16), Nat.digitChar (byte.toNat % 16)]

def byteRepr (quote : Char) (byte : UInt8) : List Char :=
  let c := Char.ofNat byte.toNat
  if c = quote ∨ c = '\\' then ['\\', c]
  else if c = '\t' then ['\\', 't']
  else if c = '\n' then ['\\', 'n']
  else if c = '\r' then ['\\', 'r']
  else if byte < 32 ∨ 127 ≤ byte then '\\' :: 'x' :: hexDigits byte
  else [c]

/-- `str` of bytes, which is their bytes literal. -/
def strBytes (bytes : List UInt8) : List Char :=
  let quote := if 39 ∈ bytes ∧ 34 ∉ bytes then '"' else '\''
  'b' :: quote :: bytes.flatMap (byteRepr quote) ++ [quote]

/-- Nodes that SQLite looks through when it asks whether a term is a column number. -/
inductive Around
  | neg
  | paren
  | collate (collation : String)
  deriving DecidableEq

/-- A node of a parsed statement. `term` is one term of the ORDER BY or GROUP BY of a SELECT,
`item` one without an alias of its columns, which has its text as a name, `column` a reference
to a column, and `other` any other node that the preparation does not look at. -/
inductive Expression
  | anonymous (name : String) (expressions : List Expression)
  | currentDate
  | currentTime
  | currentTimestamp
  | null
  | literal (text : List Char) (isString : Bool)
  | select (args : List Expression)
  | subquery (args : List Expression)
  | term (this : Expression)
  | around (around : Around) (this : Expression)
  | item (text : List Char) (this : Expression)
  | column (name : List Char)
  | other (kind : String) (args : List Expression)

structure Identifier where
  name : String
  quoted : Bool
  deriving DecidableEq

/-- The target of an INSERT: a table, or a schema of a table with a column list. -/
inductive Target
  | table (name : String)
  | schema (table : Option String) (expressions : List Identifier)
  | other
  deriving DecidableEq

inductive Row
  | tuple (expressions : List Expression)
  | single (expression : Expression)

def Row.expressions : Row → List Expression
  | .tuple expressions => expressions
  | .single expression => [expression]

inductive InsertSource
  | values (rows : List Row)
  | other (expression : Expression)

/-- An INSERT; `clauses` are its WITH, ON CONFLICT and RETURNING. -/
structure Insert where
  this : Target
  expression : InsertSource
  clauses : List Expression

inductive Tree
  | insert (insert : Insert)
  | other (expression : Expression)

mutual

def Expression.nodes : Expression → List Expression
  | .anonymous name expressions => .anonymous name expressions :: nodesAll expressions
  | .currentDate => [.currentDate]
  | .currentTime => [.currentTime]
  | .currentTimestamp => [.currentTimestamp]
  | .null => [.null]
  | .literal text isString => [.literal text isString]
  | .select args => .select args :: nodesAll args
  | .subquery args => .subquery args :: nodesAll args
  | .term this => .term this :: this.nodes
  | .around around this => .around around this :: this.nodes
  | .item text this => .item text this :: this.nodes
  | .column name => [.column name]
  | .other kind args => .other kind args :: nodesAll args

def nodesAll : List Expression → List Expression
  | [] => []
  | expression :: expressions => expression.nodes ++ nodesAll expressions

end

def InsertSource.nodes : InsertSource → List Expression
  | .values rows => rows.flatMap fun row => nodesAll row.expressions
  | .other expression => expression.nodes

/-- `root.find_all`, for the nodes that are expressions. -/
def Tree.nodes : Tree → List Expression
  | .insert root => root.expression.nodes ++ nodesAll root.clauses
  | .other expression => expression.nodes

/-- What `sqlglot.parse_one` does with a text. -/
inductive Parse
  | tree (tree : Tree)
  | parseError
  | tokenError

/-- sqlglot and Python: parsing, rendering for SQLite, whether `to_identifier` leaves a name
unquoted, and `str` of a float. -/
structure Libraries (Real : Type) where
  parseOne : List Char → Parse
  render : Tree → List Char
  renderExpression : Expression → List Char
  safeIdentifier : String → Bool
  strFloat : Real → List Char

/-- One row of `PRAGMA table_info`: the name and the DEFAULT text. -/
structure TableInfoRow where
  name : String
  defaultSql : Option (List Char)
  deriving DecidableEq

/-- What is evaluated: a call, by its place in the tree, or the default of a column for a row. -/
inductive Place
  | call (path : List ℕ)
  | default (row : ℕ) (column : String)
  deriving DecidableEq

/-- What the connection answers; `evaluate` is `none` for an `sqlite3.Error`. -/
structure Connection (Real : Type) where
  tableInfo : String → List TableInfoRow
  evaluate : Place → List Char → Option (Value Real)

/-- What the preparation raises. An `sqlite3.Error` of an evaluation is caught in it, the
TokenError of sqlglot nowhere. -/
inductive Failure
  | sqliteError
  | tokenError
  deriving DecidableEq

def statementLevelNondeterministic : List String :=
  ["changes", "last_insert_rowid", "sqlite_source_id", "sqlite_version", "sqlite3_version",
    "total_changes"]

def perEvaluationNondeterministic : List String := ["random", "randomblob"]

def currentTimeKeywords : List String := ["current_date", "current_time", "current_timestamp"]

def dateTimeFunctions : List String :=
  ["date", "datetime", "julianday", "strftime", "time", "unixepoch"]

def parseErrorReason : String := "statement could not be parsed for replay preparation"

def unsafeNondeterministicReason : String :=
  "nondeterministic expression cannot be safely materialized"

def parameterizedRewriteReason : String :=
  "parameterized statement cannot be replayed without bound parameters"

/-- `name.lower()`. The names that it is compared with are ASCII. -/
def lower (name : String) : String := String.ofList (name.toList.map Char.toLower)

def functionName : Expression → Option String
  | .currentDate => some "current_date"
  | .currentTime => some "current_time"
  | .currentTimestamp => some "current_timestamp"
  | .anonymous name _ => some (lower name)
  | .null | .literal .. | .select _ | .subquery _ | .term _ | .around .. | .item .. | .column _
  | .other .. => none

def Expression.expressions : Expression → List Expression
  | .anonymous _ expressions => expressions
  | _ => []

section

variable {Real : Type} (libraries : Libraries Real)

def literal : PythonValue Real → Expression
  | .none => .null
  | .bool b => .literal (if b then ['1'] else ['0']) false
  | .int n => .literal (strInt n) false
  | .float r => .literal (libraries.strFloat r) false
  | .str s => .literal s true
  | .bytes bytes => .literal (strBytes bytes) true

def literalOf (value : Value Real) : Expression := literal libraries value.toPython

def mentions (argument : List Char) (word : String) : Bool := decide (word.toList <:+: argument)

def dateTimeFunctionIsCurrentTime (node : Expression) (name : Option String) : Bool :=
  match name with
  | none => false
  | some name =>
    dateTimeFunctions.contains name &&
      (node.expressions.isEmpty || node.expressions.any fun expression =>
        let argument := (libraries.renderExpression expression).map Char.toLower
        mentions argument "'now'" || mentions argument "localtime" || mentions argument "utc")

/-- Return whether a parsed function call should be materialized or blocked. -/
def isNondeterministicFunction (node : Expression) : Bool :=
  match functionName node with
  | none => false
  | some name =>
    currentTimeKeywords.contains name || statementLevelNondeterministic.contains name ||
      perEvaluationNondeterministic.contains name ||
      dateTimeFunctionIsCurrentTime libraries node (some name)

def isPerEvaluation (node : Expression) : Bool :=
  match functionName node with
  | none => false
  | some name => perEvaluationNondeterministic.contains name

end

mutual

/-- The calls of `random` and `randomblob` in unsafe contexts. `safe` says that the root is an
INSERT ... VALUES and that no SELECT or subquery stands between the root and the node. -/
def unsafeCalls (safe : Bool) : Expression → List Expression
  | .anonymous name expressions =>
    (if isPerEvaluation (.anonymous name expressions) && !safe then
      [.anonymous name expressions] else []) ++ unsafeCallsAll safe expressions
  | .currentDate | .currentTime | .currentTimestamp | .null | .literal .. | .column _ => []
  | .select args => unsafeCallsAll false args
  | .subquery args => unsafeCallsAll false args
  | .term this | .around _ this | .item _ this => unsafeCalls safe this
  | .other _ args => unsafeCallsAll safe args

def unsafeCallsAll (safe : Bool) : List Expression → List Expression
  | [] => []
  | expression :: expressions => unsafeCalls safe expression ++ unsafeCallsAll safe expressions

end

def unsafeNondeterministicFunctions : Tree → List Expression
  | .insert insert =>
    match insert.expression with
    | .values rows =>
      (rows.flatMap fun row => unsafeCallsAll true row.expressions) ++
        unsafeCallsAll true insert.clauses
    | .other expression => unsafeCalls false expression ++ unsafeCallsAll false insert.clauses
  | .other expression => unsafeCalls false expression

section

variable {Real : Type} (libraries : Libraries Real) (conn : Connection Real)

def evaluateCall (path : List ℕ) (node : Expression) : Option Expression :=
  (conn.evaluate (.call path) (libraries.renderExpression node)).map (literalOf libraries)

mutual

/-- The node with its nondeterministic calls replaced; `none` when an evaluation fails. Calls
inside a replaced call are evaluated as well. -/
def replaceCalls (path : List ℕ) : Expression → Option Expression
  | .anonymous name expressions => do
    let replaced ← replaceCallsAll path 0 expressions
    if isNondeterministicFunction libraries (.anonymous name expressions) then
      evaluateCall libraries conn path (.anonymous name expressions)
    else return .anonymous name replaced
  | .currentDate => evaluateCall libraries conn path .currentDate
  | .currentTime => evaluateCall libraries conn path .currentTime
  | .currentTimestamp => evaluateCall libraries conn path .currentTimestamp
  | .null => some .null
  | .literal text isString => some (.literal text isString)
  | .select args => (replaceCallsAll path 0 args).map .select
  | .subquery args => (replaceCallsAll path 0 args).map .subquery
  | .term this => (replaceCalls (0 :: path) this).map .term
  | .around around this => (replaceCalls (0 :: path) this).map (.around around)
  | .item text this => (replaceCalls (0 :: path) this).map (.item text)
  | .column name => some (.column name)
  | .other kind args => (replaceCallsAll path 0 args).map (.other kind)

def replaceCallsAll (path : List ℕ) (position : ℕ) : List Expression → Option (List Expression)
  | [] => some []
  | expression :: expressions => do
    let replaced ← replaceCalls (position :: path) expression
    let others ← replaceCallsAll path (position + 1) expressions
    return replaced :: others

end

def replaceCallsRow (index : ℕ) : Row → Option Row
  | .tuple expressions => (replaceCallsAll libraries conn [index, 0] 0 expressions).map .tuple
  | .single expression => (replaceCalls libraries conn [0, index, 0] expression).map .single

def replaceCallsRows (index : ℕ) : List Row → Option (List Row)
  | [] => some []
  | row :: rows => do
    let replaced ← replaceCallsRow libraries conn index row
    let others ← replaceCallsRows (index + 1) rows
    return replaced :: others

def replaceCallsSource : InsertSource → Option InsertSource
  | .values rows => (replaceCallsRows libraries conn 0 rows).map .values
  | .other expression => (replaceCalls libraries conn [0] expression).map .other

def replaceCallsTree : Tree → Option Tree
  | .insert insert => do
    let expression ← replaceCallsSource libraries conn insert.expression
    let clauses ← replaceCallsAll libraries conn [1] 0 insert.clauses
    return .insert { insert with expression, clauses }
  | .other expression => (replaceCalls libraries conn [] expression).map .other

/-- Evaluate safe nondeterministic functions and replace them with literals. The flag says
whether the tree changed. -/
def replaceSafeNondeterministicFunctions (root : Tree) : Option (Tree × Bool) :=
  (replaceCallsTree libraries conn root).map fun replaced =>
    (replaced, root.nodes.any (isNondeterministicFunction libraries))

def tableNameFromTarget : Target → Option String
  | .table name => some name
  | .schema table _ => table
  | .other => none

def explicitInsertColumns (target : Target) : List String :=
  match target with
  | .schema _ expressions => (expressions.map Identifier.name).filter (· ≠ "")
  | .table table => (conn.tableInfo table).map TableInfoRow.name
  | .other => []

def defaultIsNondeterministic (defaultSql : Option (List Char)) : Except Failure Bool :=
  match defaultSql with
  | none => .ok false
  | some sql =>
    match libraries.parseOne sql with
    | .tokenError => .error .tokenError
    | .parseError => .ok false
    | .tree tree => .ok (tree.nodes.any (isNondeterministicFunction libraries))

/-- An omitted column with a nondeterministic DEFAULT. -/
def isNondeterministicDefault (explicitColumns : List String) (row : TableInfoRow) :
    Except Failure Bool :=
  if explicitColumns.contains row.name then .ok false
  else defaultIsNondeterministic libraries row.defaultSql

def defaultColumnsAmong (explicitColumns : List String) :
    List TableInfoRow → Except Failure (List (String × List Char))
  | [] => .ok []
  | row :: rows => do
    let found ← isNondeterministicDefault libraries explicitColumns row
    let columns ← defaultColumnsAmong explicitColumns rows
    return if found then (row.name, row.defaultSql.getD []) :: columns else columns

def nondeterministicDefaultColumns (table : String) (explicitColumns : List String) :
    Except Failure (List (String × List Char)) :=
  defaultColumnsAmong libraries explicitColumns (conn.tableInfo table)

def toIdentifier (name : String) : Identifier := ⟨name, !libraries.safeIdentifier name⟩

def appendTargetColumns (target : Target) (columns : List String) : Target :=
  if columns.isEmpty then target
  else
    match target with
    | .schema table expressions =>
      .schema table (expressions ++ columns.map (toIdentifier libraries))
    | .table table => .schema (some table) (columns.map (toIdentifier libraries))
    | .other => .other

def evaluateDefaults (row : ℕ) : List (String × List Char) → Option (List Expression)
  | [] => some []
  | (column, sql) :: defaults => do
    let value ← conn.evaluate (.default row column) sql
    let others ← evaluateDefaults row defaults
    return literalOf libraries value :: others

def appendValuesDefaults (index : ℕ) (defaults : List (String × List Char)) :
    List Row → Option (List Row)
  | [] => some []
  | row :: rows => do
    let added ← evaluateDefaults libraries conn index defaults
    let others ← appendValuesDefaults (index + 1) defaults rows
    return .tuple (row.expressions ++ added) :: others

/-- What `_rewrite_insert_defaults` found and did. -/
structure DefaultsRewrite where
  isSafe : Bool
  tree : Tree
  changed : Bool

/-- Materialize omitted nondeterministic defaults when INSERT VALUES is safe. -/
def rewriteInsertDefaults (root : Tree) : Except Failure DefaultsRewrite :=
  match root with
  | .other _ => .ok ⟨true, root, false⟩
  | .insert insert =>
    match tableNameFromTarget insert.this with
    | none => .ok ⟨true, root, false⟩
    | some table => do
      let defaults ← nondeterministicDefaultColumns libraries conn table
        (explicitInsertColumns conn insert.this)
      if defaults.isEmpty then .ok ⟨true, root, false⟩
      else
        match insert.expression with
        | .other _ => .ok ⟨false, root, false⟩
        | .values rows =>
          match appendValuesDefaults libraries conn 0 defaults rows with
          | none => .error .sqliteError
          | some rows =>
            .ok ⟨true,
              .insert
                { insert with
                  this := appendTargetColumns libraries insert.this (defaults.map Prod.fst)
                  expression := .values rows },
              true⟩

/-- What is logged for a statement. -/
inductive Prepared
  | blocked (reason : String)
  | original
  | rewritten (tree : Tree) (resolution : Option SQLiteConflictResolution)

/-- INSERT ... DEFAULT VALUES, parsed as `VALUES ()`. -/
def prepareDefaultValues (tree : Tree) : Except Failure (Option Prepared) :=
  match tree with
  | .other _ => .ok none
  | .insert insert =>
    match tableNameFromTarget insert.this with
    | none => .ok none
    | some table => do
      let defaults ← nondeterministicDefaultColumns libraries conn table []
      if defaults.isEmpty then .ok (some .original)
      else
        match insert.expression with
        | .other _ => .ok none
        | .values rows =>
          match appendValuesDefaults libraries conn 0 defaults rows with
          | none => .ok (some (.blocked parameterizedRewriteReason))
          | some rows =>
            .ok (some (.rewritten (.insert
              { insert with
                this := appendTargetColumns libraries insert.this (defaults.map Prod.fst)
                expression := .values rows }) none))

/-- A parsed statement, from the text itself or from its compatible form. -/
def prepareTree (compatible : Option CompatibleSQL) (tree : Tree) : Except Failure Prepared :=
  if !(unsafeNondeterministicFunctions tree).isEmpty then
    .ok (.blocked unsafeNondeterministicReason)
  else
    match replaceSafeNondeterministicFunctions libraries conn tree with
    | none => .ok (.blocked parameterizedRewriteReason)
    | some (replaced, changed) =>
      match rewriteInsertDefaults libraries conn replaced with
      | .error .sqliteError => .ok (.blocked parameterizedRewriteReason)
      | .error .tokenError => .error .tokenError
      | .ok defaults =>
        if !defaults.isSafe then .ok (.blocked unsafeNondeterministicReason)
        else if !(changed || defaults.changed) then .ok .original
        else if (compatible.map CompatibleSQL.strippedUpsert).getD false then
          .ok (.blocked unsafeNondeterministicReason)
        else .ok (.rewritten defaults.tree (compatible.bind CompatibleSQL.conflictResolution))

end

section

variable (characters : Characters)

/-- `\bDEFAULT\s+VALUES\b` at the start of a text, and what follows it. -/
def defaultValuesPattern (previous : Option Char) (text : List Char) : Option (List Char) := do
  if (previous.map characters.isWordChar).getD false then none
  else
    let (_, text) ← matchLetters characters "DEFAULT".toList text
    let (_, text) ← matchSpaces text
    let (_, text) ← matchLetters characters "VALUES".toList text
    if (text.head?.map characters.isWordChar).getD false then none else some text

/-- `DEFAULT_VALUES_PATTERN.sub("VALUES ()", sql, count=1)`. -/
def subDefaultValues (previous : Option Char) : List Char → List Char
  | [] => []
  | char :: text =>
    match defaultValuesPattern characters previous (char :: text) with
    | some rest => "VALUES ()".toList ++ rest
    | none => char :: subDefaultValues (some char) text

variable {Real : Type} (libraries : Libraries Real) (conn : Connection Real)

def rewriteDefaultValuesInsert (sql : List Char) : Except Failure (Option Prepared) :=
  let normalized := subDefaultValues characters none sql
  if normalized = sql then .ok none
  else
    match libraries.parseOne normalized with
    | .tokenError => .error .tokenError
    | .parseError => .ok none
    | .tree tree => prepareDefaultValues libraries conn tree

/-- How a statement is logged that sqlglot parses in its compatible form or not at all. -/
def prepareCompatible (sql : List Char) : Except Failure Prepared :=
  let compatible := normalizeSqlForSqlglot characters sql
  if compatible.sql = sql then .ok (.blocked parseErrorReason)
  else
    match libraries.parseOne compatible.sql with
    | .tokenError => .error .tokenError
    | .parseError => .ok (.blocked parseErrorReason)
    | .tree tree => prepareTree libraries conn (some compatible) tree

/-- How one statement is logged before execution. -/
def prepare (sql : List Char) : Except Failure Prepared :=
  match libraries.parseOne sql with
  | .tokenError => .error .tokenError
  | .tree tree => prepareTree libraries conn none tree
  | .parseError => do
    match ← rewriteDefaultValuesInsert characters libraries conn sql with
    | some prepared => return prepared
    | none => prepareCompatible characters libraries conn sql

def logEntry (sql : List Char) : Prepared → Wrapper.LogEntry
  | .blocked reason => ⟨String.ofList sql, String.ofList sql, false, some reason⟩
  | .original => ⟨String.ofList sql, String.ofList sql, true, none⟩
  | .rewritten tree resolution =>
    ⟨String.ofList sql,
      String.ofList (restoreUpdateConflictResolution characters (libraries.render tree) resolution),
      true, none⟩

/-- Build the original/replay log entry for one statement before execution. -/
def prepareLoggedSql (sql : List Char) : Except Failure Wrapper.LogEntry :=
  (prepare characters libraries conn sql).map (logEntry characters libraries sql)

end

end SqliteReconcile.ReplayPreparation
