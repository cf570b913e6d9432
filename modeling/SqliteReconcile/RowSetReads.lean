import SqliteReconcile.RemainingKindsAnalysis
import SqliteReconcile.StatementReads

/-!
# Statements that depend on a set of rows

An insertion or a deletion changes which rows a table has. The analysis finds the statements
that depend on it by the columns they name.
-/
namespace SqliteReconcile.RowSetReads
open Utils Models CascadeMetadata SqlMetadata StaticAnalysis RemainingMetadata
  RemainingMetadataIndex WriteWriteFilter RemainingKindsAnalysis StatementSyntax

mutual

/-- The tables in FROM and JOIN of an expression, at any depth. -/
def exprTables : Expr → List TableName
  | .query query => queryTables query
  | .node _ children => exprTablesAll children
  | .null | .literal _ | .column .. | .star => []

def exprTablesAll : List Expr → List TableName
  | [] => []
  | expr :: rest => exprTables expr ++ exprTablesAll rest

def queryTables : Query → List TableName
  | .select ctes sources clauses _ =>
    queryTablesAll ctes ++ sourceTablesAll sources ++ exprTablesAll clauses
  | .setOperation ctes left right tail =>
    queryTablesAll ctes ++ queryTables left ++ queryTables right ++ exprTablesAll tail

def queryTablesAll : List Query → List TableName
  | [] => []
  | query :: rest => queryTables query ++ queryTablesAll rest

def sourceTables : Source → List TableName
  | .table table => [table]
  | .cteReference .. => []
  | .derived _ _ query => queryTables query

def sourceTablesAll : List Source → List TableName
  | [] => []
  | source :: rest => sourceTables source ++ sourceTablesAll rest

end

def rootTables : Root → List TableName
  | .query query => queryTables query
  | .expression expr => exprTables expr

def fromTables (statement : Statement) : List TableName :=
  statement.ctes.flatMap (fun cte => queryTables cte.query) ++
    statement.readRoots.flatMap rootTables ++
    match statement with
    | .update _ _ _ fromClause _ => Statement.fromTableSources fromClause
    | .insert .. | .delete .. | .nonDml .. => []

/-- A statement ranges over the rows of a table: it updates or deletes them, or has the table
as a source. A CTE is no table. -/
def RangesOver (table : String) (statement : Statement) : Prop :=
  (statement.targetTableName = some table ∧ statement.statementKind ≠ .insert) ∨
    ∃ source ∈ fromTables statement, source.name = table ∧
      (source.db ≠ "" ∨ statement.cteOutputColumns.lookup table = none)

/-- A transaction inserts into a table or deletes from it. -/
def ChangesRowSet (table : String) (statement : Statement) : Prop :=
  statement.targetTableName = some table ∧
    (statement.statementKind = .insert ∨ statement.statementKind = .delete)

def written (transaction : LoggedTransaction) (table : String) : Finset String :=
  transaction.metadata.tablesUpdatedToColumnsUpdated.columns table

/-- The hidden reads of foreign-key actions. -/
def cascadeReads (context : ConflictCheckContext) (statement : Statement) : ColumnMap :=
  (cascadeEffectsForMetadata (some context) statement.statementKind statement.targetTableName
    (updatedColumns (statement.parsed context.tableColumns))).tablesReferencedToColumnsReferenced

/-- Some column or star of the statement names, by the scopes that it sees, a column of a table that
current writes, or a foreign-key action of the statement reads one. -/
def ReadsWritten (context : ConflictCheckContext) (current : LoggedTransaction)
    (statement : Statement) : Prop :=
  (∃ table column, statement.Reads context.tableColumns table column ∧
      Meets {column} (written current table)) ∨
    ∃ table, Meets ((cascadeReads context statement).columns table) (written current table)

/-- The pair is reported, by the filter of the queue and by the analysis in replay order. -/
def Reported (context : ConflictCheckContext) (current : LoggedTransaction)
    (remaining : List LoggedTransaction) (other : LoggedTransaction) : Prop :=
  .writeRead ∈ remainingIndividualCheckKinds context current
      (fromTransactions context remaining) ∧
    ∀ branch oursLabel theirsLabel, (pairAnalysis context branch (some branch) oursLabel
      theirsLabel current other).hasKind .writeRead

variable {context : ConflictCheckContext} {current other : LoggedTransaction}
  {remaining : List LoggedTransaction}

lemma referenced_meets (compatible : CompatibleSQL) (statement : Statement) (table : String)
    (right : Finset String) :
    Meets ((parseStatementMetadataForContext context compatible
        (statement.parsed context.tableColumns)).tablesReferencedToColumnsReferenced.columns table)
        right ↔
      (∃ read ∈ statement.reads context.tableColumns, read.1 = table ∧ Meets {read.2} right) ∨
        Meets ((cascadeReads context statement).columns table) right := by
  rw [← referencedTablesToColumns_meets]
  have hparsed : (parseStatementMetadataForContext context compatible
      (statement.parsed context.tableColumns)).tablesReferencedToColumnsReferenced =
      if (cascadeEffectsForMetadata (some context) statement.statementKind
          statement.targetTableName
          (updatedColumns (statement.parsed context.tableColumns))).hasEffects then
        addColumnsByTable (referencedTablesToColumns context.tableColumns statement)
          (cascadeReads context statement)
      else referencedTablesToColumns context.tableColumns statement := rfl
  rw [hparsed]
  split_ifs with heffects
  · exact addColumnsByTable_meets _ _ _ _
  · have hempty : cascadeReads context statement = ∅ := by
      simp only [CascadeEffects.hasEffects, decide_eq_true_eq, not_or, not_not] at heffects
      exact heffects.2
    simp [hempty]

lemma overlap_iff {left right : ColumnMap} :
    columnsByTableOverlap left right ↔
      ∃ table, Meets (right.columns table) (left.columns table) := by
  unfold columnsByTableOverlap
  simp only [decide_eq_true_eq]
  constructor
  · rintro ⟨table, -, -, hmeets⟩
    exact ⟨table, hmeets.symm⟩
  · rintro ⟨table, hmeets⟩
    obtain ⟨hright, hleft, -⟩ := meets_iff.mp hmeets
    refine ⟨table, ?_, ?_, hmeets.symm⟩
    · by_contra hnot
      exact hleft (columns_of_notMem fun hmem => hnot (Finmap.mem_keys.mpr hmem))
    · by_contra hnot
      exact hright (columns_of_notMem hnot)

lemma writeReadOverlap_iff {statements : List Statement}
    (hother : ReadAs context other statements) :
    transactionWriteReadOverlap current.metadata other.metadata ↔
      ∃ statement ∈ statements, ReadsWritten context current statement := by
  have hstatement : ∀ compatible statement,
      (∃ table, Meets ((parseStatementMetadataForContext context compatible
        (statement.parsed context.tableColumns)).tablesReferencedToColumnsReferenced.columns table)
        (written current table)) ↔ ReadsWritten context current statement := by
    intro compatible statement
    simp only [referenced_meets, ReadsWritten, exists_or]
    refine or_congr_left ?_
    constructor
    · rintro ⟨_, ⟨table, column⟩, hread, rfl, hmeets⟩
      exact ⟨table, column, Statement.mem_reads.mp hread, hmeets⟩
    · rintro ⟨table, column, hread, hmeets⟩
      exact ⟨table, (table, column), Statement.mem_reads.mpr hread, rfl, hmeets⟩
  have hreads := exists_readFrom (P := fun m => ∃ table,
    Meets (m.tablesReferencedToColumnsReferenced.columns table) (written current table))
    hother.statements hstatement
  rw [← hreads]
  unfold transactionWriteReadOverlap
  rw [overlap_iff, hother.metadata]
  simp only [transactionMetadata_referenced_meets, List.mem_map, exists_exists_and_eq_and]
  exact ⟨fun ⟨table, s, hs, hmeets⟩ => ⟨s, hs, table, hmeets⟩,
    fun ⟨s, hs, table, hmeets⟩ => ⟨table, s, hs, hmeets⟩⟩

/-- `orders(id INTEGER PRIMARY KEY, paid)` and `users(id INTEGER PRIMARY KEY, vip)`. -/
def ordersContext : ConflictCheckContext where
  schemaCache :=
    { tableColumns := [("orders", {"id", "paid"}), ("users", {"id", "vip"})]
      primaryKeyColumns := [("orders", ["id"]), ("users", ["id"])]
      keyColumnSets := [("orders", [{"id"}]), ("users", [{"id"}])]
      integerPrimaryKeyColumns := [("orders", some "id"), ("users", some "id")]
      foreignKeyEdges := [] }
  pragmaIntegerPrimaryKey := fun _ => none

def orders : TableName := ⟨"orders", "", none⟩

def insertOrder : Statement :=
  .insert [] orders (.values (some ["id", "paid"]) [[.literal "1", .literal "0"]])

def insertOrderTransaction : LoggedTransaction :=
  singleTransaction ordersContext .ours ⟨"INSERT INTO orders(id, paid) VALUES (1, 0)", none, false⟩
    insertOrder

def existsOrder (output : Expr) : Expr :=
  .node "EXISTS" [.query (.select [] [.table orders] [output] [])]

def setVip (output : Expr) : Statement :=
  .update [] ⟨"users", "", none⟩ [(.column "vip", existsOrder output)] none none

def setVipTransaction (output : Expr) (text : String) : LoggedTransaction :=
  singleTransaction ordersContext .theirs ⟨text, none, false⟩ (setVip output)

def existsColumnText : String := "UPDATE users SET vip = EXISTS (SELECT id FROM orders)"

def existsOneText : String := "UPDATE users SET vip = EXISTS (SELECT 1 FROM orders)"

def deleteOrders (condition : Option Expr) : Statement := .delete [] orders condition

def deleteOrdersTransaction (condition : Option Expr) (text : String) : LoggedTransaction :=
  singleTransaction ordersContext .theirs ⟨text, none, false⟩ (deleteOrders condition)

lemma setVip_reads_id :
    (setVip (.column "" "id")).Reads ordersContext.tableColumns "orders" "id" := by
  refine ⟨_, .column "" "id",
    .root (List.mem_singleton.mpr rfl) (.select (.child (List.mem_singleton.mpr rfl)
      (.subquery (.self _))) (.clause (List.mem_singleton.mpr rfl) (.self _))),
    .unqualified (by decide) (.here ?_)⟩
  exact realTableCandidates_eq_singleton.mp (by decide +kernel)

end SqliteReconcile.RowSetReads
