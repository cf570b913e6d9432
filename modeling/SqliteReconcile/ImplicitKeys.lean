import SqliteReconcile.Identifiers
import SqliteReconcile.RemainingKindsAnalysis
import SqliteReconcile.StatementSyntax

/-!
# Keys that SQLite assigns

An INSERT leaves an INTEGER PRIMARY KEY to SQLite when it omits the column, and also when a
row gives NULL for it. The analysis looks at the target list alone.
-/
namespace SqliteReconcile.ImplicitKeys
open Utils Models SqlMetadata StaticAnalysis RemainingMetadata RemainingMetadataIndex
  WriteWriteFilter RemainingKindsAnalysis StatementSyntax

/-- SQLite compares column names without case. -/
def sameName (left right : String) : Bool :=
  Identifiers.foldCase left = Identifiers.foldCase right

def valueAt (names : List String) (key : String) (row : List Expr) : Option Expr :=
  ((names.zip row).find? fun item => sameName item.1 key).map Prod.snd

/-- Whether a row gives no value for the key, or NULL. -/
def leavesKeyOpen (names : List String) (key : String) (row : List Expr) : Bool :=
  match valueAt names key row with
  | none | some .null => true
  | some _ => false

/-- SQLite assigns the key of some row. `declared` are the columns of the table in order. -/
def SqliteAssignsKey (declared : List String) (key : String) : InsertSource → Prop
  | .values columns rows => ∃ row ∈ rows, leavesKeyOpen (columns.getD declared) key row
  | .query columns _ => ∃ names, columns = some names ∧ ∀ name ∈ names, ¬ sameName name key
  | .defaultValues => True

/-- The target list of an INSERT leaves the key out. -/
def OmitsKey (key : String) (source : InsertSource) : Prop :=
  ∃ names, source.columns = some names ∧ allColumns ∉ names ∧ ¬ (key ∈ names ∧ key ≠ "")

/-- The columns that an UPDATE assigns one by one. -/
def assignedColumns (assignments : List (Assignment × Expr)) : Finset String :=
  (assignments.filterMap fun assignment =>
    match assignment.1 with
    | .column name => some name
    | .row _ | .comparison _ => none).toFinset

/-- A statement leaves the key of a table out, or assigns it. -/
def TouchesKey (tableName key : String) : Statement → Prop
  | .insert _ table source => table.name = tableName ∧ OmitsKey key source
  | .update _ table assignments _ _ =>
    table.name = tableName ∧ Meets (assignedColumns assignments) {key}
  | .delete .. | .nonDml .. => False

def SharesKey (context : ConflictCheckContext) (first second : Statement) : Prop :=
  match first with
  | .insert _ table source => ∃ key, integerPrimaryKeyColumn context table.name = some key ∧
      OmitsKey key source ∧ TouchesKey table.name key second
  | .update .. | .delete .. | .nonDml .. => False

def SomeShareKey (context : ConflictCheckContext) (current other : List Statement) : Prop :=
  ∃ c ∈ current, ∃ o ∈ other, SharesKey context c o ∨ SharesKey context o c

/-- The pair is reported, by the filter of the queue and by the pairwise analysis. -/
def Reported (context : ConflictCheckContext) (current : LoggedTransaction)
    (remaining : List LoggedTransaction) (other : LoggedTransaction) : Prop :=
  .implicitInsertKey ∈ remainingIndividualCheckKinds context current
      (fromTransactions context remaining) ∧
    ∀ branch orderedFrom oursLabel theirsLabel, (pairAnalysis context branch orderedFrom oursLabel
      theirsLabel current other).hasKind .implicitInsertKey

variable {context : ConflictCheckContext} {compatible compatible' : CompatibleSQL}

def metadataOf (context : ConflictCheckContext) (compatible : CompatibleSQL)
    (statement : Statement) : StatementMetadata :=
  parseStatementMetadataForContext context compatible (statement.parsed context.tableColumns)

lemma metadataOf_parsedIn (statement : Statement) :
    ParsedIn context (metadataOf context compatible statement) :=
  ⟨compatible, _, rfl⟩

lemma omittedKey_insert_iff {ctes : List Cte} {table : TableName} {source : InsertSource}
    {key : String} :
    omittedIntegerPrimaryKeyColumn context
        (metadataOf context compatible (.insert ctes table source)) = some key ↔
      integerPrimaryKeyColumn context table.name = some key ∧ OmitsKey key source := by
  have hinsert : isInsertStatement (metadataOf context compatible (.insert ctes table source)) =
      true := rfl
  have htable : requiredUpdatedTable (metadataOf context compatible (.insert ctes table source)) =
      table.name := rfl
  have htarget : (metadataOf context compatible (.insert ctes table source)).parsedSqlText.insertTarget =
      source.columns := rfl
  unfold omittedIntegerPrimaryKeyColumn
  rw [hinsert, htable]
  simp only [Bool.not_true, Bool.false_eq_true, if_false]
  cases hkey : integerPrimaryKeyColumn context table.name with
  | none => simp
  | some column =>
    cases hcolumns : source.columns with
    | none =>
      have hexplicit : insertExplicitColumns
          (metadataOf context compatible (.insert ctes table source)) = {allColumns} := by
        rw [insertExplicitColumns, htarget, hcolumns]
        exact if_pos rfl
      simp [hexplicit, OmitsKey, hcolumns]
    | some names =>
      have hexplicit : insertExplicitColumns
          (metadataOf context compatible (.insert ctes table source)) =
            (names.filter (· ≠ "")).toFinset := by
        rw [insertExplicitColumns, htarget, hcolumns]
      simp only [hexplicit, OmitsKey, hcolumns]
      have hstar : allColumns ∈ (names.filter (· ≠ "")).toFinset ↔ allColumns ∈ names := by
        simp [allColumns]
      have hmem : column ∈ (names.filter (· ≠ "")).toFinset ↔ column ∈ names ∧ column ≠ "" := by
        simp
      simp only [hstar, hmem]
      split_ifs with homits
      · simp only [Option.some.injEq, exists_eq_left', false_iff, not_and]
        rintro rfl hnames
        tauto
      · simp only [Option.some.injEq, exists_eq_left', iff_self_and]
        rintro rfl
        tauto

lemma omittedKey_other {statement : Statement} (h : statement.statementKind ≠ .insert) :
    omittedIntegerPrimaryKeyColumn context (metadataOf context compatible statement) = none := by
  have hinsert : isInsertStatement (metadataOf context compatible statement) = false :=
    decide_eq_false h
  simp [omittedIntegerPrimaryKeyColumn, hinsert]

lemma touchesKey_iff {second : Statement} {tableName key : String}
    (hkey : integerPrimaryKeyColumn context tableName = some key) :
    TouchesKey tableName key second ↔
      some tableName = (metadataOf context compatible second).tableUpdated ∧
        (omittedIntegerPrimaryKeyColumn context (metadataOf context compatible second) = some key ∧
            (metadataOf context compatible second).statementKind = .insert ∨
          (metadataOf context compatible second).statementKind = .update ∧
            Meets (metadataOf context compatible second).columnsUpdated {key}) := by
  cases second with
  | insert ctes table source =>
    have htable : (metadataOf context compatible (.insert ctes table source)).tableUpdated =
        some table.name := rfl
    have hkind : (metadataOf context compatible (.insert ctes table source)).statementKind =
        .insert := rfl
    simp only [TouchesKey, omittedKey_insert_iff, htable, hkind, Option.some.injEq]
    constructor
    · rintro ⟨rfl, homits⟩
      exact ⟨rfl, .inl ⟨⟨hkey, homits⟩, trivial⟩⟩
    · rintro ⟨rfl, ⟨⟨-, homits⟩, -⟩ | ⟨hupdate, -⟩⟩
      · exact ⟨rfl, homits⟩
      · cases hupdate
  | update ctes table assignments fromClause condition =>
    have htable : (metadataOf context compatible
        (.update ctes table assignments fromClause condition)).tableUpdated = some table.name := rfl
    have hkind : (metadataOf context compatible
        (.update ctes table assignments fromClause condition)).statementKind = .update := rfl
    have hcolumns : (metadataOf context compatible
        (.update ctes table assignments fromClause condition)).columnsUpdated =
        assignedColumns assignments := by
      change ((assignments.map Prod.fst).filterMap _).toFinset = _
      rw [List.filterMap_map]
      rfl
    simp only [TouchesKey, htable, hkind, hcolumns, Option.some.injEq]
    constructor
    · rintro ⟨rfl, hmeets⟩
      exact ⟨rfl, .inr ⟨trivial, hmeets⟩⟩
    · rintro ⟨rfl, ⟨-, hinsert⟩ | ⟨-, hmeets⟩⟩
      · cases hinsert
      · exact ⟨rfl, hmeets⟩
  | _ =>
    constructor
    · intro htouches
      exact htouches.elim
    · rintro ⟨-, ⟨-, hinsert⟩ | ⟨hupdate, -⟩⟩
      · cases hinsert
      · cases hupdate

lemma mayShareKey_iff {first second : Statement} :
    MayShareKey context (metadataOf context compatible first)
        (metadataOf context compatible' second) ↔ SharesKey context first second := by
  cases first with
  | insert ctes table source =>
    have htable : (metadataOf context compatible (.insert ctes table source)).tableUpdated =
        some table.name := rfl
    have hkind : (metadataOf context compatible (.insert ctes table source)).statementKind =
        .insert := rfl
    unfold MayShareKey SharesKey
    simp only [omittedKey_insert_iff, htable, hkind, true_and]
    constructor
    · rintro ⟨key, ⟨hkey, homits⟩, htouches⟩
      exact ⟨key, hkey, homits, (touchesKey_iff hkey).mpr htouches⟩
    · rintro ⟨key, hkey, homits, htouches⟩
      exact ⟨key, ⟨hkey, homits⟩, (touchesKey_iff hkey).mp htouches⟩
  | _ =>
    constructor
    · rintro ⟨key, hkey, -⟩
      rw [omittedKey_other (by simp [Statement.statementKind])] at hkey
      cases hkey
    · intro hshares
      exact hshares.elim

/-- A statement pair that may share a key is reported by one direction of the check. -/
lemma conflictsFrom_of_mayShareKey {insertLabel otherLabel : String}
    {insert second : StatementMetadata} (hinsert : ParsedIn context insert)
    (hsecond : ParsedIn context second) (h : MayShareKey context insert second) :
    (implicitInsertKeyConflictsFrom context insertLabel insert otherLabel second).1 ≠ [] := by
  obtain ⟨key, hkey, htable, hkind, hshare⟩ := h
  have hwritten : insert.tableUpdated = some (requiredUpdatedTable insert) :=
    hinsert.tableUpdated_eq (by simp [hkind])
  have hsame : sameWrittenTable insert second = true := by
    simp [sameWrittenTable, ← htable, hwritten]
  unfold implicitInsertKeyConflictsFrom
  simp only [hkey, hsame, Bool.not_true, Bool.false_eq_true, if_false]
  rcases hshare with ⟨hkey', -⟩ | ⟨hupdate, hmeets⟩
  · simp [hkey']
  · have homitted : omittedIntegerPrimaryKeyColumn context second = none := by
      simp [omittedIntegerPrimaryKeyColumn, isInsertStatement, hsecond.kind, hupdate]
    have hisUpdate : isUpdateStatement second = true := by
      simp [isUpdateStatement, hsecond.kind, hupdate]
    have hoverlap : metadataWriteOverlap second (requiredUpdatedTable insert) {key} ≠ ∅ :=
      metadataWriteOverlap_ne_empty.mpr ⟨htable ▸ hwritten, hmeets⟩
    simp [homitted, implicitInsertKeyUpdateConflict, hsame, hisUpdate, hoverlap]

lemma conflicts_iff {ours theirs : StatementMetadata} (hours : ParsedIn context ours)
    (htheirs : ParsedIn context theirs) :
    implicitInsertKeyConflicts context ours theirs ≠ [] ↔
      MayShareKey context ours theirs ∨ MayShareKey context theirs ours := by
  refine ⟨mayShareKey_of_conflicts hours htheirs, ?_⟩
  unfold implicitInsertKeyConflicts
  dsimp only
  split_ifs with hbreak
  · -- the first direction that breaks out of the loop has found a conflict
    intro _
    unfold implicitInsertKeyConflictsFrom at hbreak ⊢
    split at hbreak
    · cases hbreak
    · split_ifs at hbreak with hsame homitted
      simp [hsame, homitted]
  · rintro (h | h)
    · exact fun hnil =>
        conflictsFrom_of_mayShareKey hours htheirs h (List.append_eq_nil_iff.mp hnil).1
    · exact fun hnil =>
        conflictsFrom_of_mayShareKey htheirs hours h (List.append_eq_nil_iff.mp hnil).2

lemma transactionConflicts_iff {ours theirs : LoggedTransaction}
    (hours : TransactionParsedIn context ours) (htheirs : TransactionParsedIn context theirs) :
    transactionImplicitInsertKeyConflicts context ours.metadata theirs.metadata ≠ [] ↔
      ∃ o ∈ ours.statements, ∃ t ∈ theirs.statements,
        MayShareKey context o.metadata t.metadata ∨ MayShareKey context t.metadata o.metadata := by
  refine ⟨mayShareKey_of_transactions hours htheirs, ?_⟩
  rintro ⟨o, ho, t, ht, hshare⟩
  have hpair := (conflicts_iff (hours.statements o ho) (htheirs.statements t ht)).mpr hshare
  obtain ⟨conflict, hconflict⟩ := List.exists_mem_of_ne_nil _ hpair
  refine List.ne_nil_of_mem (a := conflict) ?_
  simp only [transactionImplicitInsertKeyConflicts, hours.metadata, htheirs.metadata,
    transactionMetadata, List.mem_flatMap, List.mem_map]
  exact ⟨_, ⟨o, ho, rfl⟩, _, ⟨t, ht, rfl⟩, hconflict⟩

lemma pairAnalysis_implicitInsertKey {current other : LoggedTransaction}
    (hcurrent : TransactionParsedIn context current) (hother : TransactionParsedIn context other)
    (branch : BranchName) (orderedFrom : Option BranchName)
    (oursLabel theirsLabel : Option String) :
    (pairAnalysis context branch orderedFrom oursLabel theirsLabel current other).hasKind
        .implicitInsertKey ↔
      ∃ s ∈ current.statements, ∃ o ∈ other.statements,
        MayShareKey context s.metadata o.metadata ∨
          MayShareKey context o.metadata s.metadata := by
  cases branch with
  | ours =>
    simp [pairAnalysis, staticAnalysisMatching_hasKind, kindEnabled,
      transactionConflicts_iff hcurrent hother]
  | theirs =>
    simp only [pairAnalysis, staticAnalysisMatching_hasKind, kindEnabled,
      transactionConflicts_iff hother hcurrent, reduceCtorEq, false_and, and_false, or_false,
      true_and]
    constructor
    · rintro ⟨o, ho, s, hs, hshare⟩
      exact ⟨s, hs, o, ho, hshare.symm⟩
    · rintro ⟨s, hs, o, ho, hshare⟩
      exact ⟨o, ho, s, hs, hshare.symm⟩

/-- `users(id INTEGER PRIMARY KEY, name)`. -/
def usersContext : ConflictCheckContext where
  schemaCache :=
    { tableColumns := [("users", {"id", "name"})]
      primaryKeyColumns := [("users", ["id"])]
      keyColumnSets := [("users", [{"id"}])]
      integerPrimaryKeyColumns := [("users", some "id")]
      foreignKeyEdges := [] }
  pragmaIntegerPrimaryKey := fun _ => none

def usersTable : TableName := ⟨"users", "", none⟩

/-- `INSERT INTO users(name) VALUES (name)`. -/
def insertName (name : String) : Statement :=
  .insert [] usersTable (.values (some ["name"]) [[.literal name]])

/-- `INSERT INTO users(id, name) VALUES (NULL, name)`. -/
def insertNull (name : String) : InsertSource :=
  .values (some ["id", "name"]) [[.null, .literal name]]

def insertNullTransaction (branch : BranchName) (name : String) : LoggedTransaction :=
  singleTransaction usersContext branch
    ⟨"INSERT INTO users(id, name) VALUES (NULL, '" ++ name ++ "')", none, false⟩
    (.insert [] usersTable (insertNull name))

def insertNameTransaction (branch : BranchName) (name : String) : LoggedTransaction :=
  singleTransaction usersContext branch
    ⟨"INSERT INTO users(name) VALUES ('" ++ name ++ "')", none, false⟩ (insertName name)

end SqliteReconcile.ImplicitKeys
