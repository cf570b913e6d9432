import SqliteReconcile.SqlMetadata

/-!
# Statements and the columns they read

The syntax of a statement as far as the metadata looks at it, with the scopes of its queries,
and the columns that it reads, resolved frame by frame.
-/
namespace SqliteReconcile.StatementSyntax
open Utils Models SqlMetadata

structure TableName where
  name : String
  db : String
  tableAlias : Option String
  deriving DecidableEq

def TableName.aliasOrName (table : TableName) : String := table.tableAlias.getD table.name

mutual

/-- An expression. A column without qualifier has the empty one, and `t.*` is a column. -/
inductive Expr
  | null
  | literal (text : String)
  | column (qualifier name : String)
  | star
  | query (query : Query)
  | node (operator : String) (children : List Expr)

/-- A SELECT with its CTEs, sources and clauses, or a set operation with what follows it. -/
inductive Query
  | select (ctes : List Query) (sources : List Source) (clauses : List Expr)
      (aliases : List String)
  | setOperation (ctes : List Query) (left right : Query) (tail : List Expr)

/-- An item of FROM or JOIN: a table, a reference to a CTE, or a derived table. The last two
come with their output columns. -/
inductive Source
  | table (table : TableName)
  | cteReference (sourceAlias : String) (columns : List String)
  | derived (sourceAlias : String) (columns : List String) (query : Query)

end

/-- A CTE of the WITH clause of a DML statement. -/
structure Cte where
  name : String
  columns : List String
  query : Query

/-- What an INSERT inserts, and into which columns when it lists them. -/
inductive InsertSource
  | values (columns : Option (List String)) (rows : List (List Expr))
  | query (columns : Option (List String)) (query : Query)
  | defaultValues

/-- The columns of the target list. DEFAULT VALUES is read as `() VALUES ()`. -/
def InsertSource.columns : InsertSource → Option (List String)
  | .values columns _ | .query columns _ => columns
  | .defaultValues => some []

/-- The columns that get a value in an assignment. -/
def targets : Assignment → List String
  | .column name | .comparison name => [name]
  | .row names => names

/-- FROM of an UPDATE, with the conditions of its joins. -/
structure FromClause where
  sources : List Source
  conditions : List Expr

/-- A fragment of a statement that can read: the query of an INSERT or of a CTE, or an
expression. -/
inductive Root
  | query (query : Query)
  | expression (expr : Expr)

/-- An assignment comes with the value that SQLite gives to its columns. Any other statement is one
fragment, with the CTEs that are attached to it. -/
inductive Statement
  | insert (ctes : List Cte) (table : TableName) (source : InsertSource)
  | update (ctes : List Cte) (table : TableName) (assignments : List (Assignment × Expr))
      (fromClause : Option FromClause) (condition : Option Expr)
  | delete (ctes : List Cte) (table : TableName) (condition : Option Expr)
  | nonDml (ctes : List Cte) (root : Root)

/-- Tables visible in one SQL scope, plus aliases intentionally ignored. A dict is kept as its
list of items. -/
structure SourceMap where
  aliasToTable : List (String × String)
  ignoredAliases : Finset String
  ignoredColumns : List (String × Finset String)
  outputAliases : Finset String

/-- A lexical SQL scope, innermost first. -/
abbrev ResolutionFrame := List SourceMap

/-- CTE names mapped to their output column names. -/
abbrev IgnoredRelations := List (String × Finset String)

def newSourceMap (outputAliases : Finset String) : SourceMap := ⟨[], ∅, [], outputAliases⟩

def setItem {α : Type} (items : List (String × α)) (key : String) (value : α) :
    List (String × α) :=
  (key, value) :: items.filter (·.1 ≠ key)

/-- Output names of a query, or `*` if unknown. -/
def outputColumns (columns : List String) : Finset String :=
  if columns = [] then {allColumns} else columns.toFinset

def addTableSource (ignoredRelations : IgnoredRelations) (allowCteShadowing : Bool)
    (sources : SourceMap) (table : TableName) : SourceMap :=
  if table.name = "" then sources
  else
    match if allowCteShadowing ∧ table.db = "" then ignoredRelations.lookup table.name else none with
    | some ignoredColumns =>
      { sources with
        ignoredAliases := insert table.name (insert table.aliasOrName sources.ignoredAliases)
        ignoredColumns := setItem (setItem sources.ignoredColumns table.aliasOrName ignoredColumns)
          table.name ignoredColumns }
    | none =>
      { sources with
        aliasToTable := setItem (setItem sources.aliasToTable table.aliasOrName table.name)
          table.name table.name }

def addSource (ignoredRelations : IgnoredRelations) (sources : SourceMap) : Source → SourceMap
  | .table table => addTableSource ignoredRelations true sources table
  | .cteReference sourceAlias columns | .derived sourceAlias columns _ =>
    { sources with
      ignoredAliases := insert sourceAlias sources.ignoredAliases
      ignoredColumns := setItem sources.ignoredColumns sourceAlias (outputColumns columns) }

/-- Build table aliases visible from one SELECT scope. -/
def scopeSources (ignoredRelations : IgnoredRelations) (items : List Source)
    (aliases : List String) : SourceMap :=
  items.foldl (addSource ignoredRelations) (newSourceMap aliases.toFinset)

def resolveQualifiedTable (qualifier : String) : ResolutionFrame → Option String
  | [] => none
  | sources :: parents =>
    if qualifier ∈ sources.ignoredAliases then none
    else match sources.aliasToTable.lookup qualifier with
      | some table => some table
      | none => resolveQualifiedTable qualifier parents

def realTableCandidates (tableColumns : List (String × Finset String)) (sources : SourceMap)
    (columnName : String) : List String :=
  (sources.aliasToTable.map Prod.snd).dedup.filter fun table =>
    columnName ∈ (tableColumns.lookup table).getD ∅

/-- Return whether an ignored CTE/derived source could own a column. -/
def ignoredSourceMayProvideColumn (sources : SourceMap) (columnName : String) : Bool :=
  sources.ignoredColumns.any fun item => allColumns ∈ item.2 ∨ columnName ∈ item.2

/-- Resolve an unqualified column, preferring inner scopes over parents. -/
def resolveUnqualifiedTable (tableColumns : List (String × Finset String))
    (columnName : String) : ResolutionFrame → Option String
  | [] => none
  | sources :: parents =>
    match realTableCandidates tableColumns sources columnName with
    | [table] => some table
    | _ =>
      if columnName ∈ sources.outputAliases ∨ ignoredSourceMayProvideColumn sources columnName then
        none
      else resolveUnqualifiedTable tableColumns columnName parents

/-- A column or a bare star that belongs to the current scope. -/
inductive Leaf
  | column (qualifier name : String)
  | star

/-- The tables that a bare star reads. -/
def starTables (frame : ResolutionFrame) : List String :=
  ((frame.head?.map (·.aliasToTable)).getD []).map Prod.snd

/-- The table columns that a leaf reads in a frame. -/
def readsOfLeaf (tableColumns : List (String × Finset String)) (frame : ResolutionFrame) :
    Leaf → List (String × String)
  | .star => (starTables frame).map (·, allColumns)
  | .column qualifier name =>
    if name = allColumns ∧ qualifier = "" then (starTables frame).map (·, allColumns)
    else
      let table := if qualifier ≠ "" then resolveQualifiedTable qualifier frame
        else resolveUnqualifiedTable tableColumns name frame
      table.toList.map (·, name)

mutual

/-- The columns and stars of an expression outside nested SELECTs. -/
def leaves : Expr → List Leaf
  | .column qualifier name => [.column qualifier name]
  | .star => [.star]
  | .query query => queryLeaves query
  | .node _ children => leavesAll children
  | .null | .literal _ => []

def leavesAll : List Expr → List Leaf
  | [] => []
  | expr :: rest => leaves expr ++ leavesAll rest

/-- What follows a set operation is not inside a SELECT. -/
def queryLeaves : Query → List Leaf
  | .select .. => []
  | .setOperation ctes left right tail =>
    queryLeavesAll ctes ++ queryLeaves left ++ queryLeaves right ++ leavesAll tail

def queryLeavesAll : List Query → List Leaf
  | [] => []
  | query :: rest => queryLeaves query ++ queryLeavesAll rest

end

def sourceLeaves : Source → List Leaf
  | .derived _ _ query => queryLeaves query
  | .table _ | .cteReference .. => []

mutual

/-- The SELECTs of an expression that are not nested inside another SELECT. -/
def outermostSelects : Expr → List Query
  | .query query => queryOutermostSelects query
  | .node _ children => outermostSelectsAll children
  | .null | .literal _ | .column .. | .star => []

def outermostSelectsAll : List Expr → List Query
  | [] => []
  | expr :: rest => outermostSelects expr ++ outermostSelectsAll rest

def queryOutermostSelects : Query → List Query
  | .select ctes sources clauses aliases => [.select ctes sources clauses aliases]
  | .setOperation ctes left right tail =>
    queryOutermostSelectsAll ctes ++ queryOutermostSelects left ++ queryOutermostSelects right ++
      outermostSelectsAll tail

def queryOutermostSelectsAll : List Query → List Query
  | [] => []
  | query :: rest => queryOutermostSelects query ++ queryOutermostSelectsAll rest

end

section

variable (tableColumns : List (String × Finset String)) (ignoredRelations : IgnoredRelations)

/-- Column and star reads directly under the current scope. -/
def directReads (frame : ResolutionFrame) (found : List Leaf) : List (String × String) :=
  found.flatMap (readsOfLeaf tableColumns frame)

mutual

/-- Walk a scope tree and resolve columns frame by frame. CTEs and derived tables do not see
the current frame. -/
def scopeReads (outer : ResolutionFrame) : Query → List (String × String)
  | .select ctes sources clauses aliases =>
    let frame := scopeSources ignoredRelations sources aliases :: outer
    directReads tableColumns frame
        (queryLeavesAll ctes ++ sources.flatMap sourceLeaves ++ leavesAll clauses) ++
      scopeReadsAll outer ctes ++ sourceReads outer sources ++ nestedReadsAll frame clauses
  | .setOperation ctes left right tail =>
    let frame := newSourceMap ∅ :: outer
    directReads tableColumns frame (queryLeaves (.setOperation ctes left right tail)) ++
      scopeReadsAll outer ctes ++ scopeReads frame left ++ scopeReads frame right ++
      nestedReadsAll frame tail

def scopeReadsAll (outer : ResolutionFrame) : List Query → List (String × String)
  | [] => []
  | query :: rest => scopeReads outer query ++ scopeReadsAll outer rest

def sourceReads (outer : ResolutionFrame) : List Source → List (String × String)
  | [] => []
  | .derived _ _ query :: rest => scopeReads outer query ++ sourceReads outer rest
  | .table _ :: rest | .cteReference .. :: rest => sourceReads outer rest

def nestedReads (frame : ResolutionFrame) : Expr → List (String × String)
  | .query query => scopeReads frame query
  | .node _ children => nestedReadsAll frame children
  | .null | .literal _ | .column .. | .star => []

def nestedReadsAll (frame : ResolutionFrame) : List Expr → List (String × String)
  | [] => []
  | expr :: rest => nestedReads frame expr ++ nestedReadsAll frame rest

end

def rootReads (frame : ResolutionFrame) : Root → List (String × String)
  | .query query =>
    (queryOutermostSelects query).flatMap (scopeReads tableColumns ignoredRelations frame)
  | .expression expr =>
    (outermostSelects expr).flatMap (scopeReads tableColumns ignoredRelations frame) ++
      directReads tableColumns frame (leaves expr)

end

namespace Statement

def ctes : Statement → List Cte
  | .insert ctes _ _ | .update ctes _ _ _ _ | .delete ctes _ _ | .nonDml ctes _ => ctes

def cteOutputColumns (statement : Statement) : IgnoredRelations :=
  (statement.ctes.filter (·.name ≠ "")).foldl
    (fun relations cte => setItem relations cte.name (outputColumns cte.columns)) []

def fromTableSources (fromClause : Option FromClause) : List TableName :=
  ((fromClause.map (·.sources)).getD []).filterMap fun
    | .table table => some table
    | .cteReference .. | .derived .. => none

def dmlOuterSources (statement : Statement) : SourceMap :=
  match statement with
  | .update _ table _ fromClause _ =>
    (fromTableSources fromClause).foldl (addTableSource statement.cteOutputColumns true)
      (addTableSource statement.cteOutputColumns false (newSourceMap ∅) table)
  | .delete _ table _ => addTableSource statement.cteOutputColumns false (newSourceMap ∅) table
  | .insert .. | .nonDml .. => newSourceMap ∅

/-- The FROM clause as one fragment. -/
def fromRoot (fromClause : FromClause) : Root :=
  .expression (.node "FROM" ((fromClause.sources.filterMap fun
    | .derived _ _ query => some (.query query)
    | .table _ | .cteReference .. => none) ++ fromClause.conditions))

/-- The right side of an assignment that is an equation. That of `c = a = b` is `b`, and
`c = a <> b` is none. -/
def assignmentRight : Assignment × Expr → Option Expr
  | (.column _, value) | (.row _, value) | (.comparison _, .node "=" [_, value]) => some value
  | (.comparison _, _) => none

/-- The right side of an equation, or else the whole assignment. -/
def assignmentRoot (assignment : Assignment × Expr) : Expr :=
  match assignmentRight assignment, assignment with
  | some value, _ => value
  | none, (.comparison name, value) => .node "=" [.column "" name, value]
  | none, (_, value) => value

def readRoots : Statement → List Root
  | .insert _ _ (.values _ rows) => [.expression (.node "VALUES" rows.flatten)]
  | .insert _ _ (.query _ query) => [.query query]
  | .insert _ _ .defaultValues => [.expression (.node "VALUES" [])]
  | .update _ _ assignments fromClause condition =>
    assignments.map (fun assignment => .expression (assignmentRoot assignment)) ++
      (fromClause.map fromRoot).toList ++ (condition.map .expression).toList
  | .delete _ _ condition => (condition.map .expression).toList
  | .nonDml _ root => [root]

def reads (tableColumns : List (String × Finset String)) (statement : Statement) :
    List (String × String) :=
  statement.ctes.flatMap (fun cte =>
      rootReads tableColumns statement.cteOutputColumns [newSourceMap ∅] (.query cte.query)) ++
    statement.readRoots.flatMap
      (rootReads tableColumns statement.cteOutputColumns [statement.dmlOuterSources])

end Statement

def addReference (references : ColumnMap) (read : String × String) : ColumnMap :=
  if read.2 = allColumns then references.insert read.1 {allColumns}
  else if allColumns ∈ references.columns read.1 then references
  else references.insert read.1 (insert read.2 (references.columns read.1))

/-- Collect real table columns read by the statement. -/
def referencedTablesToColumns (tableColumns : List (String × Finset String))
    (statement : Statement) : ColumnMap :=
  (statement.reads tableColumns).foldl addReference ∅

lemma addReference_meets (references : ColumnMap) (read : String × String) (table : String)
    (right : Finset String) :
    Meets ((addReference references read).columns table) right ↔
      Meets (references.columns table) right ∨ (read.1 = table ∧ Meets {read.2} right) := by
  obtain ⟨readTable, column⟩ := read
  unfold addReference
  by_cases htable : readTable = table
  · subst htable
    simp only [true_and]
    by_cases hstar : column = allColumns
    · subst hstar
      simp only [if_true, columns_insert, allColumns_meets]
      constructor
      · exact .inr
      · intro h
        rcases h with h | h
        · exact (meets_iff.mp h).2.1
        · exact h
    · simp only [if_neg hstar]
      split_ifs with hall
      · refine ⟨.inl, fun h => h.elim id fun h => ?_⟩
        exact meets_iff.mpr ⟨Finset.ne_empty_of_mem hall, (meets_iff.mp h).2.1, .inl hall⟩
      · rw [columns_insert, Finset.insert_eq, union_meets, or_comm]
  · have hne : table ≠ readTable := Ne.symm htable
    simp only [htable, false_and, or_false]
    split_ifs <;> simp [columns_insert_ne _ _ hne]

/-- The reference map overlaps what one of the reads overlaps. -/
theorem referencedTablesToColumns_meets (tableColumns : List (String × Finset String))
    (statement : Statement) (table : String) (right : Finset String) :
    Meets ((referencedTablesToColumns tableColumns statement).columns table) right ↔
      ∃ read ∈ statement.reads tableColumns, read.1 = table ∧ Meets {read.2} right := by
  have h := Loops.list_foldl_iff addReference (fun m => Meets (m.columns table) right) _
    (fun m read => addReference_meets m read table right) ∅ (statement.reads tableColumns)
  simpa [referencedTablesToColumns] using h

namespace Statement

def statementKind : Statement → StatementKind
  | .insert .. => .insert
  | .update .. => .update
  | .delete .. => .delete
  | .nonDml .. => .other

def targetTableName : Statement → Option String
  | .insert _ table _ | .update _ table _ _ _ | .delete _ table _ => some table.name
  | .nonDml .. => none

def insertTarget : Statement → Option (List String)
  | .insert _ _ source => source.columns
  | .update .. | .delete .. | .nonDml .. => none

def assignments : Statement → List Assignment
  | .update _ _ assignments _ _ => assignments.map Prod.fst
  | .insert .. | .delete .. | .nonDml .. => []

/-- The columns that an UPDATE assigns, or that an INSERT lists. -/
def writtenNames (statement : Statement) : List String :=
  statement.assignments.flatMap targets ++ statement.insertTarget.getD []

/-- What the metadata reads off a statement. -/
def parsed (tableColumns : List (String × Finset String)) (statement : Statement) :
    ParsedStatement where
  statementKind := statement.statementKind
  target := statement.targetTableName
  assignments := statement.assignments
  insertTarget := statement.insertTarget
  references := referencedTablesToColumns tableColumns statement
  target_isSome := by
    cases statement <;> simp [targetTableName, statementKind]

end Statement

/-- A logged statement that was parsed, in a context, from this statement. -/
def ReadFrom (context : ConflictCheckContext) (logged : LoggedStatement)
    (statement : Statement) : Prop :=
  ∃ compatible, logged.metadata = parseStatementMetadataForContext context compatible
    (statement.parsed context.tableColumns)

structure ReadAs (context : ConflictCheckContext) (transaction : LoggedTransaction)
    (statements : List Statement) : Prop where
  statements : List.Forall₂ (ReadFrom context) transaction.statements statements
  metadata : transaction.metadata = transactionMetadata (transaction.statements.map (·.metadata))

section

variable {context : ConflictCheckContext}

lemma exists_readFrom {logged : List LoggedStatement} {statements : List Statement}
    (h : List.Forall₂ (ReadFrom context) logged statements)
    {P : StatementMetadata → Prop} {Q : Statement → Prop}
    (hPQ : ∀ compatible statement, P (parseStatementMetadataForContext context compatible
      (statement.parsed context.tableColumns)) ↔ Q statement) :
    (∃ s ∈ logged, P s.metadata) ↔ ∃ statement ∈ statements, Q statement := by
  induction h with
  | nil => simp
  | cons hhead _ ih =>
    obtain ⟨compatible, hmetadata⟩ := hhead
    simp only [List.mem_cons, exists_eq_or_imp, hmetadata, hPQ, ih]

lemma ReadAs.parsedIn {transaction : LoggedTransaction} {statements : List Statement}
    (h : ReadAs context transaction statements) : TransactionParsedIn context transaction where
  statements s hs := by
    obtain ⟨hlength, hread⟩ := List.forall₂_iff_get.mp h.statements
    obtain ⟨i, rfl⟩ := List.get_of_mem hs
    obtain ⟨compatible, hmetadata⟩ := hread i i.isLt (hlength ▸ i.isLt)
    exact ⟨compatible, _, hmetadata⟩
  metadata := h.metadata

end

def loggedStatement (context : ConflictCheckContext) (branch : BranchName)
    (compatible : CompatibleSQL) (statement : Statement) : LoggedStatement where
  branch := branch
  branchIndex := 0
  transactionId := 1
  committedAt := "2026-01-01T00:00:00"
  originalSqlText := compatible.sql
  toReplaySqlText := compatible.sql
  isReplaySafe := true
  replayBlockReason := none
  metadata := parseStatementMetadataForContext context compatible
    (statement.parsed context.tableColumns)
  replayWarnings := []
  acceptedReplayWarnings := ∅

def singleTransaction (context : ConflictCheckContext) (branch : BranchName)
    (compatible : CompatibleSQL) (statement : Statement) : LoggedTransaction where
  branch := branch
  branchIndex := 0
  transactionId := 1
  committedAt := "2026-01-01T00:00:00"
  statements := [loggedStatement context branch compatible statement]
  metadata := transactionMetadata [(loggedStatement context branch compatible statement).metadata]

lemma readAs_single (context : ConflictCheckContext) (branch : BranchName)
    (compatible : CompatibleSQL) (statement : Statement) :
    ReadAs context (singleTransaction context branch compatible statement) [statement] where
  statements := .cons ⟨compatible, rfl⟩ .nil
  metadata := rfl

end SqliteReconcile.StatementSyntax
