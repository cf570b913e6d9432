import SqliteReconcile.RemainingExecution
import SqliteReconcile.StatementSyntax

/-!
# Read probes

What a statement reads is compared on two states of the database through a query, its probe. The
probe returns the keys of the rows that the statement is about, and the values that it computes from
the state; what is constant is left out. In two states with the same probe rows the statement hands
SQLite the same keys and values.
-/
namespace SqliteReconcile.ReadProbes
open Models StatementSyntax AcceptedReplay RemainingExecution

abbrev Row (V : Type) := String → V

/-- Where the columns of an UPDATE or a DELETE are looked up: the row of its target, and the rows of
FROM that are joined to it. -/
structure Scope (E V : Type) where
  tableAlias : String
  row : Row V
  joined : E

/-- SQLite, as far as it is not modelled here. `S` is the content of a database. Values that SQLite
holds equal are one value, an operator gives one value for its operands, and a nested query has a
value as well. -/
structure Semantics (S E V : Type) where
  null : V
  literal : String → V
  star : V
  number : ℕ → V
  number_injective : Function.Injective number
  operator : String → List V → V
  isTrue : V → Bool
  column : Option (Scope E V) → String → String → V
  column_target : ∀ tableAlias row joined name,
    column (some ⟨tableAlias, row, joined⟩) tableAlias name = row name
  query : S → List Cte → Option (Scope E V) → Query → V
  rows : S → List Cte → Query → List (List V)
  table : S → String → List (Row V)
  /-- What stands beside a row where there is no FROM. -/
  alone : E
  joined : S → List Cte → TableName → Row V → FromClause → List E

variable {S E V : Type} (sem : Semantics S E V)

mutual

def Semantics.eval (s : S) (ctes : List Cte) (scope : Option (Scope E V)) : Expr → V
  | .null => sem.null
  | .literal text => sem.literal text
  | .star => sem.star
  | .column qualifier name => sem.column scope qualifier name
  | .query query => sem.query s ctes scope query
  | .node operator children => sem.operator operator (Semantics.evalAll s ctes scope children)

def Semantics.evalAll (s : S) (ctes : List Cte) (scope : Option (Scope E V)) : List Expr → List V
  | [] => []
  | expression :: rest =>
    Semantics.eval s ctes scope expression :: Semantics.evalAll s ctes scope rest

end

/-- The rows that a target row and a FROM clause give a statement. -/
def Semantics.joinedTo (s : S) (ctes : List Cte) (table : TableName) (row : Row V) :
    Option FromClause → List E
  | none => [sem.alone]
  | some fromClause => sem.joined s ctes table row fromClause

/-- The rows of the target, with the rows that FROM joins to them, where the condition is true. -/
def Semantics.scopes (s : S) (ctes : List Cte) (table : TableName) (fromClause : Option FromClause)
    (condition : Option Expr) : List (Scope E V) :=
  ((sem.table s table.name).flatMap fun row =>
      (sem.joinedTo s ctes table row fromClause).map (⟨table.aliasOrName, row, ·⟩)).filter fun scope =>
    condition.all fun condition => sem.isTrue (sem.eval s ctes (some scope) condition)

mutual

def expressionHasRead : Expr → Bool
  | .column .. | .query _ => true
  | .null | .literal _ | .star => false
  | .node _ children => anyHasRead children

def anyHasRead : List Expr → Bool
  | [] => false
  | expression :: rest => expressionHasRead expression || anyHasRead rest

end

/-- A SELECT over the rows that an UPDATE or a DELETE targets. The extra expressions come with the
places of their assignments. -/
structure TargetSelect where
  ctes : List Cte
  table : TableName
  keyColumns : List String
  extra : List (ℕ × Expr)
  fromClause : Option FromClause
  condition : Option Expr

inductive Probe
  | target (select : TargetSelect)
  /-- The rows of VALUES with their numbers, and values in them with their places. -/
  | values (ctes : List Cte) (selects : List (ℕ × List (ℕ × Expr)))
  /-- The rows of a SELECT, counted. -/
  | counts (ctes : List Cte) (query : Query) (outputCount : ℕ)

/-- `sql(dialect="sqlite")` of the parts of a statement. -/
structure Generator where
  expression : Expr → String
  withClause : List Cte → String
  table : TableName → String
  /-- `_from_expression_sql`, without the leading FROM. -/
  fromExpression : FromClause → String
  query : Query → String

def Generator.withSql (generator : Generator) : List Cte → String
  | [] => ""
  | cte :: rest => generator.withClause (cte :: rest) ++ " "

def columnNumbers (count : ℕ) : String :=
  ", ".intercalate ((List.range count).map fun index => toString (index + 1))

def TargetSelect.sql (generator : Generator) (select : TargetSelect) : String :=
  let qualifier := quoteIdentifier select.table.aliasOrName
  generator.withSql select.ctes ++ "SELECT " ++
    ", ".intercalate (select.keyColumns.map (fun column => qualifier ++ "." ++ quoteIdentifier column) ++
      select.extra.map fun entry =>
        generator.expression entry.2 ++ " AS __set_expr_" ++ toString entry.1) ++
    " FROM " ++ ", ".intercalate (generator.table select.table ::
      (select.fromClause.map generator.fromExpression).toList) ++
    select.condition.elim "" fun condition => " WHERE " ++ generator.expression condition

def Probe.sql (generator : Generator) : Probe → String
  | .target select => select.sql generator
  | .values ctes selects =>
    generator.withSql ctes ++ " UNION ALL ".intercalate (selects.map fun select =>
      "SELECT " ++ toString select.1 ++ " AS __row_index, " ++
        ", ".intercalate (select.2.map fun entry =>
          generator.expression entry.2 ++ " AS __value_" ++ toString entry.1))
  | .counts ctes query outputCount =>
    "SELECT *, COUNT(*) AS __count FROM (" ++ generator.withSql ctes ++ generator.query query ++
      ") GROUP BY " ++ columnNumbers outputCount

/-- What the probe builders ask: the primary keys, and how many columns a SELECT has, unless SQLite
refuses it. -/
structure ProbeContext where
  generator : Generator
  primaryKeyColumns : String → List String
  selectOutputCount : String → Option ℕ

section builders

variable (context : ProbeContext)

def targetRowSelect (ctes : List Cte) (table : TableName) (fromClause : Option FromClause)
    (condition : Option Expr) (extra : List (ℕ × Expr)) : Option Probe :=
  let keyColumns := context.primaryKeyColumns table.name
  if keyColumns = [] then none
  else some (.target ⟨ctes, table, keyColumns, extra, fromClause, condition⟩)

def assignmentReadExpressions (assignments : List (Assignment × Expr)) : List (ℕ × Expr) :=
  (assignments.zipIdx 1).filterMap fun entry =>
    match Statement.assignmentRight entry.1 with
    | none => none
    | some value => if expressionHasRead value then some (entry.2, value) else none

def readRows (rows : List (List Expr)) : List (List Expr × ℕ) :=
  rows.zipIdx.filter fun entry => entry.1.any expressionHasRead

def valueIndexes (rows : List (List Expr)) : List ℕ :=
  ((readRows rows).flatMap fun entry =>
    (entry.1.zipIdx.filter fun value => expressionHasRead value.1).map Prod.snd).toFinset.sort (· ≤ ·)

def insertValuesProbeSelect (ctes : List Cte) (rows : List (List Expr)) : Option Probe :=
  if readRows rows = [] then none
  else some (.values ctes ((readRows rows).map fun entry =>
    (entry.2 + 1, (valueIndexes rows).filterMap fun index =>
      entry.1[index]?.map (index + 1, ·))))

def insertSelectProbeSelect (ctes : List Cte) (query : Query) : Option Probe :=
  (context.selectOutputCount (context.generator.withSql ctes ++ context.generator.query query)).map
    (.counts ctes query)

def probeOrReason : Option Probe → Except String (Option Probe)
  | none => .error "reader probe could not be built"
  | some probe => .ok (some probe)

def readProbe : Statement → Except String (Option Probe)
  | .update ctes table assignments fromClause condition =>
    probeOrReason (targetRowSelect context ctes table fromClause condition
      (assignmentReadExpressions assignments))
  | .delete ctes table condition =>
    probeOrReason (targetRowSelect context ctes table none condition [])
  | .insert ctes _ (.values _ rows) => .ok (insertValuesProbeSelect ctes rows)
  | .insert _ _ .defaultValues => .ok none
  | .insert ctes _ (.query _ query) => probeOrReason (insertSelectProbeSelect context ctes query)
  | .nonDml .. => .error "reader statement has no supported probe"

def readProbeResult (statement : Statement) : ReadProbeResult :=
  match readProbe context statement with
  | .error reason => .notRefined (some reason)
  | .ok none => .noReadDependency
  | .ok (some probe) => .ok (probe.sql context.generator)

end builders

section rows

variable [DecidableEq V]

/-- `GROUP BY` all columns: each row once, with the number of its copies. -/
def countedRows (rows : List (List V)) : List (List V) :=
  rows.dedup.map fun row => row ++ [sem.number (rows.count row)]

def TargetSelect.rows (s : S) (select : TargetSelect) : List (List V) :=
  (sem.scopes s select.ctes select.table select.fromClause select.condition).map fun scope =>
    select.keyColumns.map (sem.column (some scope) select.table.aliasOrName) ++
      select.extra.map fun entry => sem.eval s select.ctes (some scope) entry.2

def Probe.rows (s : S) : Probe → List (List V)
  | .target select => select.rows sem s
  | .values ctes selects => selects.map fun select =>
    sem.number select.1 :: select.2.map fun entry => sem.eval s ctes none entry.2
  | .counts ctes query _ => countedRows sem (sem.rows s ctes query)

/-- Two SELECTs without difference, as EXCEPT sees it. -/
def SameRows (first second : List (List V)) : Prop := ∀ row, row ∈ first ↔ row ∈ second

/-- What a statement hands SQLite: the keys to delete, the values that the rows with certain keys are
assigned, or the rows to insert, those of a SELECT in any order. What SQLite makes of them is not part
of it: the columns that it fills in, an OR or UPSERT clause, triggers. -/
inductive Supply (V : Type)
  | deleted (keys : Set (List V))
  | updated (assigned : Set (List V × List V))
  | inserted (rows : List (List V))
  | insertedSelect (rows : Multiset (List V))

def keyOf (keyColumns : List String) (scope : Scope E V) : List V := keyColumns.map scope.row

def assignedValues (s : S) (ctes : List Cte) (assignments : List (Assignment × Expr))
    (scope : Scope E V) : List V :=
  assignments.map fun assignment => sem.eval s ctes (some scope) assignment.2

variable (primaryKeyColumns : String → List String)

/-- What a statement may supply. An UPDATE assigns each of its rows the values of one of the rows
that FROM joins to it, whichever SQLite takes. -/
inductive Supplies (s : S) : Statement → Supply V → Prop
  | delete {ctes table condition} :
    Supplies s (.delete ctes table condition) (.deleted {key | ∃ scope ∈ sem.scopes s ctes table none
      condition, key = keyOf (primaryKeyColumns table.name) scope})
  | update {ctes table assignments fromClause condition assigned} :
    (∀ entry ∈ assigned, ∃ scope ∈ sem.scopes s ctes table fromClause condition,
      entry = (keyOf (primaryKeyColumns table.name) scope,
        assignedValues sem s ctes assignments scope)) →
    (∀ scope ∈ sem.scopes s ctes table fromClause condition,
      ∃! values, (keyOf (primaryKeyColumns table.name) scope, values) ∈ assigned) →
    Supplies s (.update ctes table assignments fromClause condition) (.updated assigned)
  | values {ctes table columns rows} :
    Supplies s (.insert ctes table (.values columns rows))
      (.inserted (rows.map fun row => row.map (sem.eval s ctes none)))
  | query {ctes table columns query} :
    Supplies s (.insert ctes table (.query columns query))
      (.insertedSelect (sem.rows s ctes query : Multiset (List V)))
  | defaultValues {ctes table} : Supplies s (.insert ctes table .defaultValues) (.inserted [[]])

/-- A statement supplies the same in two states, whatever SQLite takes. -/
def SameSupply (s s' : S) (statement : Statement) : Prop :=
  ∀ supply supply', Supplies sem primaryKeyColumns s statement supply →
    Supplies sem primaryKeyColumns s' statement supply' → supply = supply'

/-- Each element of a SET list gives one column its value. -/
def AssignsColumns : Statement → Prop
  | .update _ _ assignments _ _ => ∀ assignment ∈ assignments, ∃ name, assignment.1 = .column name
  | .insert .. | .delete .. | .nonDml .. => True

/-- No two rows that an UPDATE is about have one key. -/
def KeysApart (s : S) : Statement → Prop
  | .update ctes table _ fromClause condition =>
    ((sem.scopes s ctes table fromClause condition).map
      (keyOf (primaryKeyColumns table.name))).Nodup
  | .insert .. | .delete .. | .nonDml .. => True

end rows

mutual

lemma eval_of_no_read {s s' : S} {ctes ctes' : List Cte} {scope scope' : Option (Scope E V)} :
    ∀ expression : Expr, expressionHasRead expression = false →
      sem.eval s ctes scope expression = sem.eval s' ctes' scope' expression
  | .null, _ => by rw [Semantics.eval, Semantics.eval]
  | .literal text, _ => by rw [Semantics.eval, Semantics.eval]
  | .star, _ => by rw [Semantics.eval, Semantics.eval]
  | .column qualifier name, h => by simp [expressionHasRead] at h
  | .query query, h => by simp [expressionHasRead] at h
  | .node operator children, h => by
    rw [Semantics.eval, Semantics.eval, evalAll_of_no_read children (by simpa [expressionHasRead] using h)]

lemma evalAll_of_no_read {s s' : S} {ctes ctes' : List Cte} {scope scope' : Option (Scope E V)} :
    ∀ expressions : List Expr, anyHasRead expressions = false →
      sem.evalAll s ctes scope expressions = sem.evalAll s' ctes' scope' expressions
  | [], _ => by rw [Semantics.evalAll, Semantics.evalAll]
  | expression :: rest, h => by
    obtain ⟨hfirst, hrest⟩ := Bool.or_eq_false_iff.mp (by simpa [anyHasRead] using h)
    rw [Semantics.evalAll, Semantics.evalAll, eval_of_no_read expression hfirst,
      evalAll_of_no_read rest hrest]

end

lemma assignmentRight_column {assignment : Assignment × Expr} {name : String}
    (h : assignment.1 = .column name) : Statement.assignmentRight assignment = some assignment.2 := by
  obtain ⟨target, value⟩ := assignment
  cases h
  rfl

lemma mem_assignmentReadExpressions {assignments : List (Assignment × Expr)} {value : Expr}
    (hcolumns : ∀ assignment ∈ assignments, ∃ name, assignment.1 = .column name) :
    (∃ entry ∈ assignmentReadExpressions assignments, entry.2 = value) ↔
      expressionHasRead value = true ∧ ∃ assignment ∈ assignments, assignment.2 = value := by
  constructor
  · rintro ⟨entry, hentry, rfl⟩
    obtain ⟨⟨assignment, index⟩, hmem, hread⟩ := List.mem_filterMap.mp hentry
    obtain ⟨name, hname⟩ := hcolumns assignment (List.fst_mem_of_mem_zipIdx hmem)
    simp only [assignmentRight_column hname] at hread
    obtain ⟨hhas, hvalue⟩ := Option.ite_none_right_eq_some.mp hread
    cases hvalue
    exact ⟨hhas, assignment, List.fst_mem_of_mem_zipIdx hmem, rfl⟩
  · rintro ⟨hhas, assignment, hmem, rfl⟩
    obtain ⟨index, hindex⟩ := List.mem_iff_getElem?.mp hmem
    refine ⟨(1 + index, assignment.2), List.mem_filterMap.mpr ⟨(assignment, 1 + index), ?_, ?_⟩, rfl⟩
    · exact List.mem_zipIdx_iff_le_and_getElem?_sub.mpr ⟨by omega, by simpa using hindex⟩
    · obtain ⟨name, hname⟩ := hcolumns assignment hmem
      simp only [assignmentRight_column hname, if_pos hhas]

lemma assignedValues_eq_iff {s s' : S} {ctes : List Cte} {assignments : List (Assignment × Expr)}
    {scope scope' : Scope E V}
    (hcolumns : ∀ assignment ∈ assignments, ∃ name, assignment.1 = .column name) :
    assignedValues sem s ctes assignments scope = assignedValues sem s' ctes assignments scope' ↔
      (assignmentReadExpressions assignments).map (fun entry => sem.eval s ctes (some scope) entry.2) =
        (assignmentReadExpressions assignments).map fun entry =>
          sem.eval s' ctes (some scope') entry.2 := by
  rw [assignedValues, assignedValues, List.map_inj_left, List.map_inj_left]
  constructor
  · intro h entry hentry
    obtain ⟨-, assignment, hmem, hvalue⟩ :=
      (mem_assignmentReadExpressions hcolumns).mp ⟨entry, hentry, rfl⟩
    rw [← hvalue]
    exact h assignment hmem
  · intro h assignment hmem
    by_cases hhas : expressionHasRead assignment.2 = true
    · obtain ⟨entry, hentry, hvalue⟩ :=
        (mem_assignmentReadExpressions hcolumns).mpr ⟨hhas, assignment, hmem, rfl⟩
      rw [← hvalue]
      exact h entry hentry
    · exact eval_of_no_read sem assignment.2 (Bool.eq_false_iff.mpr hhas)

variable {sem}

lemma column_scope {s : S} {ctes : List Cte} {table : TableName} {fromClause : Option FromClause}
    {condition : Option Expr} {scope : Scope E V}
    (h : scope ∈ sem.scopes s ctes table fromClause condition) (name : String) :
    sem.column (some scope) table.aliasOrName name = scope.row name := by
  obtain ⟨row, -, hrow⟩ := List.mem_flatMap.mp (List.mem_filter.mp h).1
  obtain ⟨joined, -, rfl⟩ := List.mem_map.mp hrow
  exact sem.column_target _ _ _ _

lemma mem_targetRows {s : S} {select : TargetSelect} {row : List V} :
    row ∈ select.rows sem s ↔ ∃ scope ∈ sem.scopes s select.ctes select.table select.fromClause
      select.condition, row = keyOf select.keyColumns scope ++
        select.extra.map fun entry => sem.eval s select.ctes (some scope) entry.2 := by
  rw [TargetSelect.rows, List.mem_map]
  refine exists_congr fun scope => and_congr_right fun hscope => ?_
  have hkey : select.keyColumns.map (sem.column (some scope) select.table.aliasOrName) =
      keyOf select.keyColumns scope := List.map_congr_left fun name _ => column_scope hscope name
  rw [hkey]
  exact eq_comm

section target

variable {primaryKeyColumns : String → List String} {s s' : S} {ctes : List Cte}
  {table : TableName} {assignments : List (Assignment × Expr)} {fromClause : Option FromClause}
  {condition : Option Expr}

def assignable (sem : Semantics S E V) (keyColumns : List String) (s : S) (ctes : List Cte)
    (table : TableName) (assignments : List (Assignment × Expr)) (fromClause : Option FromClause)
    (condition : Option Expr) : Set (List V × List V) :=
  {entry | ∃ scope ∈ sem.scopes s ctes table fromClause condition,
    entry = (keyOf keyColumns scope, assignedValues sem s ctes assignments scope)}

/-- Where each row has its own key there is no choice. -/
lemma supplies_update_iff (hapart : KeysApart sem primaryKeyColumns s
    (.update ctes table assignments fromClause condition)) (supply : Supply V) :
    Supplies sem primaryKeyColumns s (.update ctes table assignments fromClause condition) supply ↔
      supply = .updated (assignable sem (primaryKeyColumns table.name) s ctes table assignments
        fromClause condition) := by
  have hkey : ∀ scope ∈ sem.scopes s ctes table fromClause condition,
      ∀ other ∈ sem.scopes s ctes table fromClause condition,
      keyOf (primaryKeyColumns table.name) scope = keyOf (primaryKeyColumns table.name) other →
      scope = other := fun scope hscope other hother heq =>
    List.inj_on_of_nodup_map hapart hscope hother heq
  constructor
  · rintro (_ | ⟨hfrom, honce⟩)
    rename_i assigned
    refine congrArg Supply.updated (Set.ext fun entry => ⟨fun hentry => hfrom entry hentry, ?_⟩)
    rintro ⟨scope, hscope, rfl⟩
    obtain ⟨values, hvalues, -⟩ := honce scope hscope
    obtain ⟨other, hother, heq⟩ := hfrom _ hvalues
    obtain ⟨hsame, rfl⟩ := Prod.mk.inj heq
    cases hkey scope hscope other hother hsame
    exact hvalues
  · rintro rfl
    refine .update (fun entry hentry => hentry) fun scope hscope => ?_
    refine ⟨assignedValues sem s ctes assignments scope, ⟨scope, hscope, rfl⟩, ?_⟩
    rintro values ⟨other, hother, heq⟩
    obtain ⟨hsame, rfl⟩ := Prod.mk.inj heq
    rw [hkey scope hscope other hother hsame]

lemma assignable_eq_iff (keyColumns : List String)
    (hcolumns : ∀ assignment ∈ assignments, ∃ name, assignment.1 = .column name) :
    assignable sem keyColumns s ctes table assignments fromClause condition =
        assignable sem keyColumns s' ctes table assignments fromClause condition ↔
      SameRows
        (TargetSelect.rows sem s ⟨ctes, table, keyColumns, assignmentReadExpressions assignments,
          fromClause, condition⟩)
        (TargetSelect.rows sem s' ⟨ctes, table, keyColumns, assignmentReadExpressions assignments,
          fromClause, condition⟩) := by
  -- the row and the entry of one scope belong together in both states
  have hpair : ∀ (first second : S) (scope other : Scope E V),
      keyOf keyColumns scope ++ (assignmentReadExpressions assignments).map
          (fun entry => sem.eval first ctes (some scope) entry.2) =
        keyOf keyColumns other ++ (assignmentReadExpressions assignments).map
          (fun entry => sem.eval second ctes (some other) entry.2) ↔
      (keyOf keyColumns scope, assignedValues sem first ctes assignments scope) =
        (keyOf keyColumns other, assignedValues sem second ctes assignments other) := by
    intro first second scope other
    rw [Prod.mk.injEq, assignedValues_eq_iff sem hcolumns]
    constructor
    · exact fun heq => List.append_inj heq (by simp [keyOf])
    · rintro ⟨hkey, hvalues⟩
      rw [hkey, hvalues]
  have hsubset : ∀ first second : S,
      assignable sem keyColumns first ctes table assignments fromClause condition ⊆
          assignable sem keyColumns second ctes table assignments fromClause condition ↔
        ∀ row, row ∈ TargetSelect.rows sem first ⟨ctes, table, keyColumns,
            assignmentReadExpressions assignments, fromClause, condition⟩ →
          row ∈ TargetSelect.rows sem second ⟨ctes, table, keyColumns,
            assignmentReadExpressions assignments, fromClause, condition⟩ := by
    intro first second
    constructor
    · intro hsub row hrow
      obtain ⟨scope, hscope, rfl⟩ := mem_targetRows.mp hrow
      obtain ⟨other, hother, heq⟩ := hsub ⟨scope, hscope, rfl⟩
      exact mem_targetRows.mpr ⟨other, hother, (hpair first second scope other).mpr heq⟩
    · rintro hsub _ ⟨scope, hscope, rfl⟩
      obtain ⟨other, hother, heq⟩ := mem_targetRows.mp
        (hsub _ (mem_targetRows.mpr ⟨scope, hscope, rfl⟩))
      exact ⟨other, hother, (hpair first second scope other).mp heq⟩
  rw [Set.Subset.antisymm_iff, hsubset, hsubset, ← forall_and]
  exact forall_congr' fun row => iff_iff_implies_and_implies.symm

lemma deleted_eq_iff (keyColumns : List String) :
    {key | ∃ scope ∈ sem.scopes s ctes table none condition, key = keyOf keyColumns scope} =
        {key | ∃ scope ∈ sem.scopes s' ctes table none condition, key = keyOf keyColumns scope} ↔
      SameRows (TargetSelect.rows sem s ⟨ctes, table, keyColumns, [], none, condition⟩)
        (TargetSelect.rows sem s' ⟨ctes, table, keyColumns, [], none, condition⟩) := by
  have hrows : ∀ (first : S) (row : List V),
      row ∈ TargetSelect.rows sem first ⟨ctes, table, keyColumns, [], none, condition⟩ ↔
        ∃ scope ∈ sem.scopes first ctes table none condition, row = keyOf keyColumns scope := by
    intro first row
    rw [mem_targetRows]
    simp only [List.map_nil, List.append_nil]
  rw [Set.ext_iff]
  exact forall_congr' fun row => iff_congr (hrows s row).symm (hrows s' row).symm

end target

section values

variable {s s' : S} {ctes : List Cte} {rows : List (List Expr)}

lemma mem_readRows {row : List Expr} {index : ℕ} :
    (row, index) ∈ readRows rows ↔ rows[index]? = some row ∧ ∃ value ∈ row, expressionHasRead value := by
  rw [readRows, List.mem_filter, List.mem_zipIdx_iff_getElem?, List.any_eq_true]

lemma mem_valueIndexes {row : List Expr} {value : Expr} {index place : ℕ}
    (hrow : rows[index]? = some row) (hvalue : row[place]? = some value)
    (hread : expressionHasRead value = true) : place ∈ valueIndexes rows := by
  rw [valueIndexes, Finset.mem_sort, List.mem_toFinset]
  have hmem := mem_readRows.mpr ⟨hrow, value, List.mem_of_getElem? hvalue, hread⟩
  refine List.mem_flatMap.mpr ⟨(row, index), hmem, List.mem_map.mpr ⟨(value, place), ?_, rfl⟩⟩
  exact List.mem_filter.mpr ⟨List.mem_zipIdx_iff_getElem?.mpr hvalue, hread⟩

variable (sem rows) in
def readValues (s : S) (ctes : List Cte) (row : List Expr) : List V :=
  ((valueIndexes rows).filterMap fun place => row[place]?.map (place + 1, ·)).map fun entry =>
    sem.eval s ctes none entry.2

lemma readValues_eq_iff {row : List Expr} {index : ℕ} (hrow : rows[index]? = some row) :
    readValues sem rows s ctes row = readValues sem rows s' ctes row ↔
      row.map (sem.eval s ctes none) = row.map (sem.eval s' ctes none) := by
  rw [readValues, readValues, List.map_inj_left, List.map_inj_left]
  constructor
  · intro h value hvalue
    by_cases hread : expressionHasRead value = true
    · obtain ⟨place, hplace⟩ := List.mem_iff_getElem?.mp hvalue
      refine h (place + 1, value) (List.mem_filterMap.mpr ⟨place, mem_valueIndexes hrow hplace hread, ?_⟩)
      rw [hplace]
      rfl
    · exact eval_of_no_read sem value (Bool.eq_false_iff.mpr hread)
  · intro h entry hentry
    obtain ⟨place, -, hplace⟩ := List.mem_filterMap.mp hentry
    obtain ⟨value, hvalue, rfl⟩ := Option.map_eq_some_iff.mp hplace
    exact h value (List.mem_of_getElem? hvalue)

/-- The probe of VALUES numbers its rows, so that each is compared with itself. -/
lemma values_eq_iff [DecidableEq V] {probe : Probe}
    (hprobe : insertValuesProbeSelect ctes rows = some probe) :
    rows.map (fun row => row.map (sem.eval s ctes none)) =
        rows.map (fun row => row.map (sem.eval s' ctes none)) ↔
      SameRows (probe.rows sem s) (probe.rows sem s') := by
  obtain ⟨-, hsome⟩ := Option.ite_none_left_eq_some.mp hprobe
  have hmem : ∀ (first : S) (row : List V), row ∈ probe.rows sem first ↔
      ∃ entry ∈ readRows rows, row = sem.number (entry.2 + 1) ::
        readValues sem rows first ctes entry.1 := by
    intro first row
    rw [← Option.some.inj hsome, Probe.rows, List.map_map, List.mem_map]
    exact exists_congr fun entry => and_congr_right fun _ => eq_comm
  have hrows : SameRows (probe.rows sem s) (probe.rows sem s') ↔
      ∀ entry ∈ readRows rows,
        readValues sem rows s ctes entry.1 = readValues sem rows s' ctes entry.1 := by
    constructor
    · rintro h ⟨row, index⟩ hentry
      obtain ⟨⟨other, index'⟩, hother, heq⟩ := (hmem s' _).mp
        ((h _).mp ((hmem s _).mpr ⟨(row, index), hentry, rfl⟩))
      obtain ⟨hnumber, hvalues⟩ := List.cons.inj heq
      cases Nat.succ.inj (sem.number_injective hnumber)
      have hsame := (mem_readRows.mp hentry).1.symm.trans (mem_readRows.mp hother).1
      cases hsame
      exact hvalues
    · intro h row
      rw [hmem, hmem]
      refine exists_congr fun entry => and_congr_right fun hentry => ?_
      rw [h entry hentry]
  rw [hrows, List.map_inj_left]
  constructor
  · rintro h ⟨row, index⟩ hentry
    have hrow := (mem_readRows.mp hentry).1
    exact (readValues_eq_iff hrow).mpr (h row (List.mem_of_getElem? hrow))
  · intro h row hrow
    obtain ⟨index, hindex⟩ := List.mem_iff_getElem?.mp hrow
    by_cases hread : ∃ value ∈ row, expressionHasRead value = true
    · exact (readValues_eq_iff hindex).mp (h (row, index) (mem_readRows.mpr ⟨hindex, hread⟩))
    · exact List.map_congr_left fun value hvalue =>
        eval_of_no_read sem value (Bool.eq_false_iff.mpr fun hhas => hread ⟨value, hvalue, hhas⟩)

lemma values_constant (hprobe : insertValuesProbeSelect ctes rows = none) :
    rows.map (fun row => row.map (sem.eval s ctes none)) =
      rows.map (fun row => row.map (sem.eval s' ctes none)) := by
  have hnone : readRows rows = [] := by
    by_contra hne
    rw [insertValuesProbeSelect, if_neg hne] at hprobe
    cases hprobe
  refine List.map_congr_left fun row hrow => List.map_congr_left fun value hvalue =>
    eval_of_no_read sem value (Bool.eq_false_iff.mpr fun hhas => ?_)
  obtain ⟨index, hindex⟩ := List.mem_iff_getElem?.mp hrow
  have hmem := mem_readRows.mpr ⟨hindex, value, hvalue, hhas⟩
  rw [hnone] at hmem
  cases hmem

end values

lemma mem_countedRows [DecidableEq V] {rows : List (List V)} {row : List V} :
    row ∈ countedRows sem rows ↔ ∃ other ∈ rows, row = other ++ [sem.number (rows.count other)] := by
  rw [countedRows, List.mem_map]
  exact exists_congr fun other => and_congr List.mem_dedup eq_comm

lemma sameRows_countedRows [DecidableEq V] {first second : List (List V)} :
    SameRows (countedRows sem first) (countedRows sem second) ↔ first.Perm second := by
  have hcount : ∀ {first second : List (List V)},
      SameRows (countedRows sem first) (countedRows sem second) →
        ∀ row ∈ first, first.count row = second.count row := by
    intro first second h row hrow
    obtain ⟨other, -, heq⟩ := mem_countedRows.mp ((h _).mp (mem_countedRows.mpr ⟨row, hrow, rfl⟩))
    obtain ⟨rfl, hnumber⟩ := List.append_inj' heq rfl
    exact sem.number_injective (List.cons.inj hnumber).1
  constructor
  · intro h
    refine List.perm_iff_count.mpr fun row => ?_
    by_cases hfirst : row ∈ first
    · exact hcount h row hfirst
    · by_cases hsecond : row ∈ second
      · exact (hcount (fun other => (h other).symm) row hsecond).symm
      · rw [List.count_eq_zero_of_not_mem hfirst, List.count_eq_zero_of_not_mem hsecond]
  · intro h row
    rw [mem_countedRows, mem_countedRows]
    exact exists_congr fun other => and_congr h.mem_iff (by rw [h.count_eq])

section exactness

variable {context : ProbeContext} {statement : Statement} {s s' : S}

lemma sameSupply_iff_eq {primaryKeyColumns : String → List String} {supply supply' : Supply V}
    (h : ∀ c, Supplies sem primaryKeyColumns s statement c ↔ c = supply)
    (h' : ∀ c, Supplies sem primaryKeyColumns s' statement c ↔ c = supply') :
    SameSupply sem primaryKeyColumns s s' statement ↔ supply = supply' := by
  constructor
  · exact fun hsame => hsame supply supply' ((h supply).mpr rfl) ((h' supply').mpr rfl)
  · intro heq c c' hc hc'
    rw [(h c).mp hc, (h' c').mp hc', heq]

lemma supplies_delete_iff {primaryKeyColumns : String → List String} {ctes : List Cte}
    {table : TableName} {condition : Option Expr} (supply : Supply V) :
    Supplies sem primaryKeyColumns s (.delete ctes table condition) supply ↔
      supply = .deleted {key | ∃ scope ∈ sem.scopes s ctes table none condition,
        key = keyOf (primaryKeyColumns table.name) scope} := by
  constructor
  · rintro ⟨⟩
    rfl
  · rintro rfl
    exact .delete

lemma supplies_values_iff {primaryKeyColumns : String → List String} {ctes : List Cte}
    {table : TableName} {columns : Option (List String)} {rows : List (List Expr)}
    (supply : Supply V) :
    Supplies sem primaryKeyColumns s (.insert ctes table (.values columns rows)) supply ↔
      supply = .inserted (rows.map fun row => row.map (sem.eval s ctes none)) := by
  constructor
  · rintro ⟨⟩
    rfl
  · rintro rfl
    exact .values

lemma supplies_query_iff {primaryKeyColumns : String → List String} {ctes : List Cte}
    {table : TableName} {columns : Option (List String)} {query : Query} (supply : Supply V) :
    Supplies sem primaryKeyColumns s (.insert ctes table (.query columns query)) supply ↔
      supply = .insertedSelect (sem.rows s ctes query : Multiset (List V)) := by
  constructor
  · rintro ⟨⟩
    rfl
  · rintro rfl
    exact .query

lemma exists_of_probeOrReason {found probe : Option Probe} (h : probeOrReason found = .ok probe) :
    probe = found ∧ ∃ select, found = some select := by
  cases found with
  | none => cases h
  | some select =>
    cases h
    exact ⟨rfl, select, rfl⟩

lemma targetRowSelect_eq_some {ctes : List Cte} {table : TableName}
    {fromClause : Option FromClause} {condition : Option Expr} {extra : List (ℕ × Expr)}
    {probe : Option Probe}
    (h : probeOrReason (targetRowSelect context ctes table fromClause condition extra) = .ok probe) :
    probe = some (.target ⟨ctes, table, context.primaryKeyColumns table.name, extra, fromClause,
      condition⟩) := by
  obtain ⟨rfl, select, hselect⟩ := exists_of_probeOrReason h
  rw [hselect]
  obtain ⟨-, hsome⟩ := Option.ite_none_left_eq_some.mp hselect
  exact hsome.symm

/-- The probe of a statement tells apart what the statement supplies. -/
lemma sameSupply_iff_sameRows [DecidableEq V] {probe : Probe}
    (hcolumns : AssignsColumns statement)
    (hprobe : readProbe context statement = .ok (some probe))
    (hapart : KeysApart sem context.primaryKeyColumns s statement)
    (hapart' : KeysApart sem context.primaryKeyColumns s' statement) :
    SameSupply sem context.primaryKeyColumns s s' statement ↔
      SameRows (probe.rows sem s) (probe.rows sem s') := by
  cases statement with
  | update ctes table assignments fromClause condition =>
    cases targetRowSelect_eq_some hprobe
    rw [sameSupply_iff_eq (supplies_update_iff hapart) (supplies_update_iff hapart'),
      Supply.updated.injEq]
    exact assignable_eq_iff _ hcolumns
  | delete ctes table condition =>
    cases targetRowSelect_eq_some hprobe
    rw [sameSupply_iff_eq supplies_delete_iff supplies_delete_iff, Supply.deleted.injEq]
    exact deleted_eq_iff _
  | insert ctes table source =>
    cases source with
    | values columns rows =>
      rw [sameSupply_iff_eq supplies_values_iff supplies_values_iff, Supply.inserted.injEq]
      exact values_eq_iff (Except.ok.inj hprobe)
    | defaultValues => cases hprobe
    | query columns query =>
      obtain ⟨hselect, -⟩ := exists_of_probeOrReason hprobe
      obtain ⟨count, -, rfl⟩ := Option.map_eq_some_iff.mp hselect.symm
      rw [sameSupply_iff_eq supplies_query_iff supplies_query_iff, Supply.insertedSelect.injEq,
        Multiset.coe_eq_coe]
      exact sameRows_countedRows.symm
  | nonDml => cases hprobe

lemma sameSupply_of_noProbe (hprobe : readProbe context statement = .ok none) :
    SameSupply sem context.primaryKeyColumns s s' statement := by
  cases statement with
  | update ctes table assignments fromClause condition => cases targetRowSelect_eq_some hprobe
  | delete ctes table condition => cases targetRowSelect_eq_some hprobe
  | insert ctes table source =>
    cases source with
    | values columns rows =>
      rw [sameSupply_iff_eq supplies_values_iff supplies_values_iff, Supply.inserted.injEq]
      exact values_constant (Except.ok.inj hprobe)
    | defaultValues =>
      rintro supply supply' ⟨⟩ ⟨⟩
      rfl
    | query columns query =>
      obtain ⟨hnone, select, hselect⟩ := exists_of_probeOrReason hprobe
      rw [hselect] at hnone
      cases hnone
  | nonDml => cases hprobe

lemma keysApart_of_table {primaryKeyColumns : String → List String}
    (hkeys : ∀ table, ((sem.table s table).map fun row =>
      (primaryKeyColumns table).map row).Nodup)
    (halone : ∀ ctes table assignments fromClause condition,
      statement = .update ctes table assignments fromClause condition → fromClause = none) :
    KeysApart sem primaryKeyColumns s statement := by
  cases statement with
  | update ctes table assignments fromClause condition =>
    cases halone _ _ _ _ _ rfl
    refine (hkeys table.name).sublist ?_
    have hrows : ((sem.table s table.name).flatMap fun row =>
        (sem.joinedTo s ctes table row none).map
          (Scope.mk table.aliasOrName row)).map (keyOf (primaryKeyColumns table.name)) =
        (sem.table s table.name).map fun row => (primaryKeyColumns table.name).map row := by
      rw [List.map_flatMap]
      exact List.map_eq_flatMap.symm
    rw [← hrows]
    exact List.filter_sublist.map _
  | insert ctes table source => trivial
  | delete ctes table condition => trivial
  | nonDml => trivial

lemma keysApart_iff [DecidableEq V] {probe : Probe} {ctes : List Cte} {table : TableName}
    {assignments : List (Assignment × Expr)} {fromClause : Option FromClause}
    {condition : Option Expr}
    (hprobe : readProbe context (.update ctes table assignments fromClause condition) =
      .ok (some probe)) :
    KeysApart sem context.primaryKeyColumns s (.update ctes table assignments fromClause condition) ↔
      ((probe.rows sem s).map fun row =>
        row.take (context.primaryKeyColumns table.name).length).Nodup := by
  cases targetRowSelect_eq_some hprobe
  have hrows : (TargetSelect.rows sem s ⟨ctes, table, context.primaryKeyColumns table.name,
        assignmentReadExpressions assignments, fromClause, condition⟩).map (fun row =>
          row.take (context.primaryKeyColumns table.name).length) =
      (sem.scopes s ctes table fromClause condition).map
        (keyOf (context.primaryKeyColumns table.name)) := by
    rw [TargetSelect.rows, List.map_map]
    refine List.map_congr_left fun scope hscope => ?_
    have hkey : (context.primaryKeyColumns table.name).map
        (sem.column (some scope) table.aliasOrName) =
        keyOf (context.primaryKeyColumns table.name) scope :=
      List.map_congr_left fun name _ => column_scope hscope name
    rw [Function.comp_apply, hkey]
    exact List.take_left' (by rw [keyOf, List.length_map])
  rw [Probe.rows, hrows]
  exact Iff.rfl

end exactness

/-- SQLite on the prices of the rows 1, 2, ... of one table `items(id, price)`. -/
def itemsSemantics : Semantics (List ℕ) Unit ℕ where
  null := 0
  literal text := if text = "1" then 1 else 0
  star := 0
  number n := n
  number_injective _ _ h := h
  operator name values := if name = "+" then values.sum else 0
  isTrue value := value ≠ 0
  column scope _ name := scope.elim 0 fun scope => scope.row name
  column_target _ _ _ _ := rfl
  query s _ _ _ := s.length
  rows s _ _ := s.map ([·])
  table s name :=
    if name = "items" then
      (s.zipIdx 1).map fun item column => if column = "id" then item.2 else item.1
    else []
  alone := ()
  joined _ _ _ _ _ := []

def itemsGenerator : Generator where
  expression
    | .node operator [.column _ name, .literal text] => name ++ " " ++ operator ++ " " ++ text
    | _ => ""
  withClause _ := ""
  table table := table.name
  fromExpression _ := ""
  query _ := ""

def itemsProbes : ProbeContext where
  generator := itemsGenerator
  primaryKeyColumns _ := ["id"]
  selectOutputCount _ := none

/-- `UPDATE items SET price = price + 1`. -/
def raisePrices : Statement :=
  .update [] ⟨"items", "", none⟩
    [(.column "price", .node "+" [.column "" "price", .literal "1"])] none none

lemma nodup_itemKeys (s : List ℕ) (table : String) : ((itemsSemantics.table s table).map fun row =>
    (itemsProbes.primaryKeyColumns table).map row).Nodup := by
  by_cases htable : table = "items"
  · have hrows : (itemsSemantics.table s table).map (fun row =>
        (itemsProbes.primaryKeyColumns table).map row) = ((s.zipIdx 1).map Prod.snd).map ([·]) := by
      subst htable
      rw [List.map_map]
      exact List.map_map ..
    rw [hrows, List.zipIdx_map_snd]
    exact (List.nodup_range').map fun _ _ h => List.singleton_injective h
  · have hnone : itemsSemantics.table s table = [] := if_neg htable
    rw [hnone]
    exact List.nodup_nil

lemma keysApart_raisePrices (s : List ℕ) :
    KeysApart itemsSemantics itemsProbes.primaryKeyColumns s raisePrices :=
  keysApart_of_table (nodup_itemKeys s) fun _ _ _ _ _ h => by
    cases h
    rfl

lemma assignsColumns_raisePrices : AssignsColumns raisePrices := by
  intro assignment hassignment
  rw [List.mem_singleton.mp hassignment]
  exact ⟨_, rfl⟩

end SqliteReconcile.ReadProbes
