import SqliteReconcile.Materialization

/-!
# Which logged statements are deterministic

What is executed for a statement that is logged as replay-safe, and the nondeterministic calls
in it: in its tree, in a clause that was cut off to parse it, and in the defaults of the columns
that it omits.
-/
namespace SqliteReconcile.ReplaySafety
open Outcomes ReplayPreparation DefaultColumns Materialization ConflictSyntax Identifiers

/-- A call, by its path and its name in lower case. -/
abbrev Call : Type := List ℕ × String

mutual

def calls (path : List ℕ) : Expression → List Call
  | .anonymous name expressions => (path, lower name) :: callsAll path 0 expressions
  | .currentDate => [(path, "current_date")]
  | .currentTime => [(path, "current_time")]
  | .currentTimestamp => [(path, "current_timestamp")]
  | .null | .literal .. | .column _ => []
  | .select args => callsAll path 0 args
  | .subquery args => callsAll path 0 args
  | .term this | .around _ this | .item _ this => calls (0 :: path) this
  | .other _ args => callsAll path 0 args

def callsAll (path : List ℕ) (position : ℕ) : List Expression → List Call
  | [] => []
  | expression :: expressions =>
    calls (position :: path) expression ++ callsAll path (position + 1) expressions

end

def groups (insert : Insert) : List (List ℕ × List Expression) :=
  (match insert.expression with
    | .values rows => (rows.map Row.expressions).mapIdx fun index row => ([index, 0], row)
    | .other query => [([], [query])]) ++ [([1], insert.clauses)]

def treeCalls : Tree → List Call
  | .insert insert => (groups insert).flatMap fun group => callsAll group.1 0 group.2
  | .other expression => calls [] expression

section

variable {Real : Type} (libraries : Libraries Real)

mutual

/-- The calls that the preparation leaves: those it does not take for nondeterministic, outside
of those it does. -/
def leftCalls (path : List ℕ) : Expression → List Call
  | .anonymous name expressions =>
    if isNondeterministicFunction libraries (.anonymous name expressions) then []
    else (path, lower name) :: leftCallsAll path 0 expressions
  | .currentDate | .currentTime | .currentTimestamp => []
  | .null | .literal .. | .column _ => []
  | .select args => leftCallsAll path 0 args
  | .subquery args => leftCallsAll path 0 args
  | .term this | .around _ this | .item _ this => leftCalls (0 :: path) this
  | .other _ args => leftCallsAll path 0 args

def leftCallsAll (path : List ℕ) (position : ℕ) : List Expression → List Call
  | [] => []
  | expression :: expressions =>
    leftCalls (position :: path) expression ++ leftCallsAll path (position + 1) expressions

end

def treeLeftCalls : Tree → List Call
  | .insert insert => (groups insert).flatMap fun group => leftCallsAll libraries group.1 0 group.2
  | .other expression => leftCalls libraries [] expression

/-- Where a call stands: in the tree, in the part of the text that was cut off, or in the
default of a column. -/
inductive Site
  | tree (path : List ℕ)
  | stripped (path : List ℕ)
  | default (column : String) (path : List ℕ)

/-- A built-in that is nondeterministic in every call. -/
def listed (name : String) : Bool :=
  currentTimeKeywords.contains name || statementLevelNondeterministic.contains name ||
    perEvaluationNondeterministic.contains name

/-- A nondeterministic call. `readsClock` says at which places SQLite evaluates a date/time
function without a time value, or with `now`, `localtime` or `utc` as the value of an argument. -/
def Nondeterministic (readsClock : Site → Prop) (call : Site × String) : Prop :=
  listed call.2 = true ∨ dateTimeFunctions.contains call.2 = true ∧ readsClock call.1

/-- No call is nondeterministic. -/
def Harmless (readsClock : Site → Prop) (executed : List (Site × String)) : Prop :=
  ∀ call ∈ executed, ¬ Nondeterministic readsClock call

/-- How SQLite reads what sqlglot does not get: the part of a text that is cut off before it
is parsed, and DEFAULT texts. -/
structure Reader (conn : Connection Real) where
  strippedCalls : List Char → List Call
  defaultCalls : List Char → List Call
  defaultCalls_parsed : ∀ sql tree, libraries.parseOne sql = .tree tree →
    defaultCalls sql = treeCalls tree
  distinct : ∀ table, ((conn.tableInfo table).map fun column => foldCase column.name).Nodup

def targetNames (declared : List TableInfoRow) : Target → List String
  | .schema _ list => list.map Identifier.name
  | .table _ => declared.map TableInfoRow.name
  | .other => []

def omittedColumns (conn : Connection Real) (this : Target) : List TableInfoRow :=
  match tableNameFromTarget this with
  | none => []
  | some table => (conn.tableInfo table).filter fun column =>
    ∀ name ∈ targetNames (conn.tableInfo table) this, foldCase name ≠ foldCase column.name

def treeOmitted (conn : Connection Real) : Tree → List TableInfoRow
  | .insert insert => omittedColumns conn insert.this
  | .other _ => []

/-- What sqlglot gets of a text. -/
inductive Source
  | parsed (tree : Tree)
  | defaultValues (table : String) (clauses : List Expression)
  | compatible (compatible : CompatibleSQL) (tree : Tree)
  | unparsed

section

variable {libraries} {characters : Characters} {conn : Connection Real}
  (reader : Reader libraries conn)

/-- How a text reaches the preparation. -/
def sourceOf (characters : Characters) (libraries : Libraries Real) (sql : List Char) : Source :=
  match libraries.parseOne sql with
  | .tree tree => .parsed tree
  | .tokenError => .unparsed
  | .parseError =>
    let normalized := subDefaultValues characters none sql
    match if normalized = sql then .parseError else libraries.parseOne normalized with
    | .tree (.insert ⟨.table table, _, clauses⟩) => .defaultValues table clauses
    | _ =>
      let compatible := normalizeSqlForSqlglot characters sql
      match if compatible.sql = sql then .parseError else libraries.parseOne compatible.sql with
      | .tree tree => .compatible compatible tree
      | _ => .unparsed

/-- SQLite takes DEFAULT VALUES without a column list alone; sqlglot parses it, rewritten, as one
empty row. -/
def PlainDefaultValues (characters : Characters) (libraries : Libraries Real)
    (sql : List Char) : Prop :=
  ∀ insert, libraries.parseOne sql = .parseError →
    libraries.parseOne (subDefaultValues characters none sql) = .tree (.insert insert) →
      ∃ table, insert.this = .table table ∧ insert.expression = .values [.tuple []]

def columnCalls (column : TableInfoRow) : List (Site × String) :=
  match column.defaultSql with
  | none => []
  | some sql => (reader.defaultCalls sql).map fun call => (.default column.name call.1, call.2)

/-- The calls of a parsed statement and of the defaults that it evaluates. -/
def treeExecution (tree : Tree) : List (Site × String) :=
  (treeCalls tree).map (fun call => (.tree call.1, call.2)) ++
    (treeOmitted conn tree).flatMap (columnCalls reader)

def strippedExecution (sql : List Char) : List (Site × String) :=
  (reader.strippedCalls sql).map fun call => (.stripped call.1, call.2)

def clauseExecution (clauses : List Expression) : List (Site × String) :=
  (callsAll [1] 0 clauses).map fun call => (.tree call.1, call.2)

/-- The calls that the text itself evaluates. -/
def originalExecution (sql : List Char) : Source → List (Site × String)
  | .parsed tree => treeExecution reader tree
  | .compatible compatible tree =>
    treeExecution reader tree ++
      if compatible.strippedUpsert then strippedExecution reader sql else []
  | .defaultValues table clauses =>
    clauseExecution clauses ++ (conn.tableInfo table).flatMap (columnCalls reader)
  | .unparsed => []

variable (characters) in
/-- The calls that replaying a statement evaluates. -/
def replayExecution (sql : List Char) : List (Site × String) :=
  match prepare characters libraries conn sql with
  | .error _ | .ok (.blocked _) => []
  | .ok .original => originalExecution reader sql (sourceOf characters libraries sql)
  | .ok (.rewritten tree _) => treeExecution reader tree

/-- Time enters a replay only through the values of nondeterministic calls. -/
structure Engine (readsClock : Site → Prop) (Database Outcome : Type) where
  run : List (Site × String) → (Site × String → Value Real) → Database → Outcome
  run_congr : ∀ executed time time' database,
    (∀ call ∈ executed, Nondeterministic readsClock call → time call = time' call) →
    run executed time database = run executed time' database

variable (characters) in
/-- Replaying evaluates no nondeterministic call, and gives equal results at all times. -/
structure Deterministic (readsClock : Site → Prop) (sql : List Char) : Prop where
  harmless : Harmless readsClock (replayExecution characters reader sql)
  equal : ∀ {Database Outcome : Type}
    (engine : @Engine Real readsClock Database Outcome) time time' database,
    engine.run (replayExecution characters reader sql) time database =
      engine.run (replayExecution characters reader sql) time' database

/-- The defaults that the preparation takes for deterministic are so. -/
def DefaultsHarmless (readsClock : Site → Prop) (columns : List TableInfoRow) : Prop :=
  ∀ column ∈ columns, takenForNondeterministic libraries column.defaultSql = false →
    Harmless readsClock (columnCalls reader column)

/-- The date/time calls that the preparation takes for deterministic are so, and the defaults. -/
def TreeHarmless (readsClock : Site → Prop) (tree : Tree) : Prop :=
  (∀ call ∈ treeLeftCalls libraries tree, dateTimeFunctions.contains call.2 = true →
      ¬ readsClock (.tree call.1)) ∧
    DefaultsHarmless reader readsClock (treeOmitted conn tree)

/-- What the preparation does not look at has no nondeterministic call. -/
def NothingOverlooked (readsClock : Site → Prop) (sql : List Char) : Source → Prop
  | .parsed tree => TreeHarmless reader readsClock tree
  | .compatible compatible tree =>
    TreeHarmless reader readsClock tree ∧
      (compatible.strippedUpsert = true → Harmless readsClock (strippedExecution reader sql))
  | .defaultValues table clauses =>
    Harmless readsClock (clauseExecution clauses) ∧
      DefaultsHarmless reader readsClock (conn.tableInfo table)
  | .unparsed => True

def ReplaySafe (characters : Characters) (libraries : Libraries Real) (conn : Connection Real)
    (sql : List Char) : Prop :=
  ∃ entry, prepareLoggedSql characters libraries conn sql = .ok entry ∧
    entry.isReplaySafe = true

lemma calls_literalOf (path : List ℕ) (value : Value Real) :
    calls path (literalOf libraries value) = [] := by
  cases value <;> simp [literalOf, literal, Value.toPython, calls]

lemma calls_evaluateCall {path : List ℕ} {node replaced : Expression}
    (h : evaluateCall libraries conn path node = some replaced) : calls path replaced = [] := by
  obtain ⟨value, -, rfl⟩ := Option.map_eq_some_iff.mp h
  exact calls_literalOf path value

mutual

theorem calls_replaceCalls (path : List ℕ) :
    ∀ (node replaced : Expression), replaceCalls libraries conn path node = some replaced →
      calls path replaced = leftCalls libraries path node
  | .anonymous name expressions, replaced, h => by
    rw [replaceCalls] at h
    obtain ⟨args, hargs, h⟩ := Option.bind_eq_some_iff.mp h
    rw [leftCalls]
    split_ifs at h ⊢ with hnode
    · exact calls_evaluateCall h
    · obtain rfl : .anonymous name args = replaced := by simpa using h
      rw [calls, callsAll_replaceCallsAll path 0 expressions args hargs]
  | .currentDate, replaced, h => by
    rw [leftCalls]
    exact calls_evaluateCall h
  | .currentTime, replaced, h => by
    rw [leftCalls]
    exact calls_evaluateCall h
  | .currentTimestamp, replaced, h => by
    rw [leftCalls]
    exact calls_evaluateCall h
  | .null, replaced, h => by
    obtain rfl : .null = replaced := by simpa [replaceCalls] using h
    rw [calls, leftCalls]
  | .literal text isString, replaced, h => by
    obtain rfl : .literal text isString = replaced := by simpa [replaceCalls] using h
    rw [calls, leftCalls]
  | .column name, replaced, h => by
    obtain rfl : .column name = replaced := by simpa [replaceCalls] using h
    rw [calls, leftCalls]
  | .select args, replaced, h => by
    rw [replaceCalls] at h
    obtain ⟨args', hargs, rfl⟩ := Option.map_eq_some_iff.mp h
    rw [calls, leftCalls, callsAll_replaceCallsAll path 0 args args' hargs]
  | .subquery args, replaced, h => by
    rw [replaceCalls] at h
    obtain ⟨args', hargs, rfl⟩ := Option.map_eq_some_iff.mp h
    rw [calls, leftCalls, callsAll_replaceCallsAll path 0 args args' hargs]
  | .term this, replaced, h | .around _ this, replaced, h | .item _ this, replaced, h => by
    rw [replaceCalls] at h
    obtain ⟨this', hthis, rfl⟩ := Option.map_eq_some_iff.mp h
    rw [calls, leftCalls, calls_replaceCalls (0 :: path) this this' hthis]
  | .other kind args, replaced, h => by
    rw [replaceCalls] at h
    obtain ⟨args', hargs, rfl⟩ := Option.map_eq_some_iff.mp h
    rw [calls, leftCalls, callsAll_replaceCallsAll path 0 args args' hargs]

theorem callsAll_replaceCallsAll (path : List ℕ) (position : ℕ) :
    ∀ (nodes replaced : List Expression),
      replaceCallsAll libraries conn path position nodes = some replaced →
      callsAll path position replaced = leftCallsAll libraries path position nodes
  | [], replaced, h => by
    obtain rfl : [] = replaced := by simpa [replaceCallsAll] using h
    rw [callsAll, leftCallsAll]
  | node :: nodes, replaced, h => by
    rw [replaceCallsAll] at h
    obtain ⟨node', hnode, h⟩ := Option.bind_eq_some_iff.mp h
    obtain ⟨nodes', hnodes, h⟩ := Option.bind_eq_some_iff.mp h
    obtain rfl : node' :: nodes' = replaced := by simpa using h
    rw [callsAll, leftCallsAll, calls_replaceCalls (position :: path) node node' hnode,
      callsAll_replaceCallsAll path (position + 1) nodes nodes' hnodes]

end

mutual

theorem leftCalls_eq_calls (path : List ℕ) :
    ∀ node : Expression, (∀ other ∈ node.nodes, isNondeterministicFunction libraries other =
      false) → leftCalls libraries path node = calls path node
  | .anonymous name expressions, h => by
    rw [Expression.nodes] at h
    have hnode := h _ List.mem_cons_self
    rw [leftCalls, calls, hnode, if_neg (by simp),
      leftCallsAll_eq_callsAll path 0 expressions fun other hother =>
        h other (List.mem_cons_of_mem _ hother)]
  | .currentDate, h => by
    rw [Expression.nodes] at h
    have hnode : isNondeterministicFunction libraries .currentDate = true := rfl
    simp [h] at hnode
  | .currentTime, h => by
    rw [Expression.nodes] at h
    have hnode : isNondeterministicFunction libraries .currentTime = true := rfl
    simp [h] at hnode
  | .currentTimestamp, h => by
    rw [Expression.nodes] at h
    have hnode : isNondeterministicFunction libraries .currentTimestamp = true := rfl
    simp [h] at hnode
  | .null, _ | .literal .., _ | .column _, _ => by rw [leftCalls, calls]
  | .select args, h => by
    rw [Expression.nodes] at h
    rw [leftCalls, calls, leftCallsAll_eq_callsAll path 0 args fun other hother =>
      h other (List.mem_cons_of_mem _ hother)]
  | .subquery args, h => by
    rw [Expression.nodes] at h
    rw [leftCalls, calls, leftCallsAll_eq_callsAll path 0 args fun other hother =>
      h other (List.mem_cons_of_mem _ hother)]
  | .term this, h | .around _ this, h | .item _ this, h => by
    rw [Expression.nodes] at h
    rw [leftCalls, calls, leftCalls_eq_calls (0 :: path) this fun other hother =>
      h other (List.mem_cons_of_mem _ hother)]
  | .other kind args, h => by
    rw [Expression.nodes] at h
    rw [leftCalls, calls, leftCallsAll_eq_callsAll path 0 args fun other hother =>
      h other (List.mem_cons_of_mem _ hother)]

theorem leftCallsAll_eq_callsAll (path : List ℕ) (position : ℕ) :
    ∀ nodes : List Expression, (∀ other ∈ nodesAll nodes,
      isNondeterministicFunction libraries other = false) →
      leftCallsAll libraries path position nodes = callsAll path position nodes
  | [], _ => by rw [leftCallsAll, callsAll]
  | node :: nodes, h => by
    rw [nodesAll] at h
    rw [leftCallsAll, callsAll,
      leftCalls_eq_calls (position :: path) node fun other hother =>
        h other (List.mem_append_left _ hother),
      leftCallsAll_eq_callsAll path (position + 1) nodes fun other hother =>
        h other (List.mem_append_right _ hother)]

end

lemma listed_of_not_nondeterministic {name : String} {expressions : List Expression}
    (h : ¬ isNondeterministicFunction libraries (.anonymous name expressions) = true) :
    listed (lower name) = false := by
  by_contra hlisted
  refine h ?_
  have htrue : listed (lower name) = true := by simpa using hlisted
  unfold listed at htrue
  simp only [isNondeterministicFunction, functionName, htrue, Bool.true_or]

mutual

theorem listed_leftCalls (path : List ℕ) :
    ∀ node : Expression, ∀ call ∈ leftCalls libraries path node, listed call.2 = false
  | .anonymous name expressions, call, h => by
    rw [leftCalls] at h
    split_ifs at h with hnode
    · simp at h
    · rcases List.mem_cons.mp h with rfl | h
      · exact listed_of_not_nondeterministic hnode
      · exact listed_leftCallsAll path 0 expressions call h
  | .currentDate, call, h | .currentTime, call, h | .currentTimestamp, call, h
  | .null, call, h | .literal .., call, h | .column _, call, h => by
    rw [leftCalls] at h
    simp at h
  | .select args, call, h => by
    rw [leftCalls] at h
    exact listed_leftCallsAll path 0 args call h
  | .subquery args, call, h => by
    rw [leftCalls] at h
    exact listed_leftCallsAll path 0 args call h
  | .term this, call, h | .around _ this, call, h | .item _ this, call, h => by
    rw [leftCalls] at h
    exact listed_leftCalls (0 :: path) this call h
  | .other kind args, call, h => by
    rw [leftCalls] at h
    exact listed_leftCallsAll path 0 args call h

theorem listed_leftCallsAll (path : List ℕ) (position : ℕ) :
    ∀ nodes : List Expression, ∀ call ∈ leftCallsAll libraries path position nodes,
      listed call.2 = false
  | [], call, h => by
    rw [leftCallsAll] at h
    simp at h
  | node :: nodes, call, h => by
    rw [leftCallsAll] at h
    rcases List.mem_append.mp h with h | h
    · exact listed_leftCalls (position :: path) node call h
    · exact listed_leftCallsAll path (position + 1) nodes call h

end

lemma flatMap_mapIdx {α β γ : Type} (f : ℕ → α → β) (g : β → List γ) (items : List α) :
    (items.mapIdx f).flatMap g = (items.mapIdx fun i item => g (f i item)).flatten := by
  have hmap : (items.mapIdx f).map g = items.mapIdx fun i item => g (f i item) := by
    apply List.ext_getElem?
    intro i
    simp [Function.comp_def]
  rw [List.flatMap_def, hmap]

lemma callsAll_append (path : List ℕ) (position : ℕ) (first second : List Expression) :
    callsAll path position (first ++ second) =
      callsAll path position first ++ callsAll path (position + first.length) second := by
  induction first generalizing position with
  | nil => simp [callsAll]
  | cons expression expressions ih =>
    simp only [List.cons_append, callsAll, ih, List.length_cons, List.append_assoc]
    rw [show position + 1 + expressions.length = position + (expressions.length + 1) by omega]

lemma callsAll_defaults (path : List ℕ) (position row : ℕ) (columns : List TableInfoRow) :
    callsAll path position (columns.map (defaultLiteral libraries conn row)) = [] := by
  induction columns generalizing position with
  | nil => simp [callsAll]
  | cons column columns ih =>
    rw [List.map_cons, callsAll, ih, defaultLiteral, calls_literalOf]
    rfl

lemma calls_replaceCallsRow {index : ℕ} {row replaced : Row}
    (h : replaceCallsRow libraries conn index row = some replaced) :
    callsAll [index, 0] 0 replaced.expressions =
      leftCallsAll libraries [index, 0] 0 row.expressions := by
  cases row with
  | tuple expressions =>
    obtain ⟨replaced, hreplaced, rfl⟩ := Option.map_eq_some_iff.mp h
    exact callsAll_replaceCallsAll _ _ _ _ hreplaced
  | single expression =>
    obtain ⟨replaced, hreplaced, rfl⟩ := Option.map_eq_some_iff.mp h
    simp only [Row.expressions, callsAll, leftCallsAll, calls_replaceCalls _ _ _ hreplaced]

lemma calls_replaceCallsRows {index : ℕ} {rows replaced : List Row}
    (h : replaceCallsRows libraries conn index rows = some replaced) :
    (replaced.map Row.expressions).mapIdx (fun i row => callsAll [index + i, 0] 0 row) =
      (rows.map Row.expressions).mapIdx fun i row =>
        leftCallsAll libraries [index + i, 0] 0 row := by
  induction rows generalizing index replaced with
  | nil =>
    obtain rfl : [] = replaced := by simpa [replaceCallsRows] using h
    rfl
  | cons row rows ih =>
    rw [replaceCallsRows] at h
    obtain ⟨row', hrow, h⟩ := Option.bind_eq_some_iff.mp h
    obtain ⟨rows', hrows, h⟩ := Option.bind_eq_some_iff.mp h
    obtain rfl : row' :: rows' = replaced := by simpa using h
    have hrest := ih hrows
    have hshift : ∀ i, index + 1 + i = index + (i + 1) := by
      intro i
      omega
    simp only [hshift] at hrest
    simp only [List.map_cons, List.mapIdx_cons, Nat.add_zero, calls_replaceCallsRow hrow, hrest]

lemma treeCalls_replaceCallsTree {tree replaced : Tree}
    (h : replaceCallsTree libraries conn tree = some replaced) :
    treeCalls replaced = treeLeftCalls libraries tree := by
  cases tree with
  | other expression =>
    obtain ⟨replaced, hreplaced, rfl⟩ := Option.map_eq_some_iff.mp h
    exact calls_replaceCalls [] _ _ hreplaced
  | insert insert =>
    obtain ⟨this, source, clauses⟩ := insert
    cases source with
    | values rows =>
      obtain ⟨rows', clauses', hrows, hclauses, rfl⟩ := replaceCallsTree_values h
      have hcalls := calls_replaceCallsRows hrows
      simp only [Nat.zero_add] at hcalls
      simp only [treeCalls, treeLeftCalls, groups, List.flatMap_append, flatMap_mapIdx, hcalls,
        List.flatMap_cons, List.flatMap_nil, callsAll_replaceCallsAll _ _ _ _ hclauses]
    | other query =>
      obtain ⟨query', clauses', hquery, hclauses, rfl⟩ := replaceCallsTree_query h
      simp only [treeCalls, treeLeftCalls, groups, List.flatMap_append, List.flatMap_cons,
        List.flatMap_nil, callsAll, leftCallsAll, calls_replaceCalls _ _ _ hquery,
        callsAll_replaceCallsAll _ _ _ _ hclauses]

lemma treeOmitted_replaceCallsTree {tree replaced : Tree}
    (h : replaceCallsTree libraries conn tree = some replaced) :
    treeOmitted conn replaced = treeOmitted conn tree := by
  cases tree with
  | other expression =>
    obtain ⟨replaced, -, rfl⟩ := Option.map_eq_some_iff.mp h
    rfl
  | insert insert =>
    obtain ⟨source, -, h⟩ := Option.bind_eq_some_iff.mp h
    obtain ⟨clauses', -, h⟩ := Option.bind_eq_some_iff.mp h
    obtain rfl := Option.some.inj h
    rfl

/-- The columns that are still omitted after the defaults are added. -/
lemma omittedColumns_append (libraries : Libraries Real) {this : Target} {table : String}
    (hdistinct : ((conn.tableInfo table).map fun column => foldCase column.name).Nodup)
    (htable : tableNameFromTarget this = some table) {added : List TableInfoRow}
    (hadded : addedColumns libraries conn table (explicitInsertColumns conn this) = added) :
    omittedColumns conn (appendTargetColumns libraries this (added.map TableInfoRow.name)) =
      (omittedColumns conn this).filter fun column =>
        !takenForNondeterministic libraries column.defaultSql := by
  have hmem : ∀ column, column ∈ added ↔ column ∈ conn.tableInfo table ∧
      column.name ∉ explicitInsertColumns conn this ∧
        takenForNondeterministic libraries column.defaultSql = true := by
    intro column
    rw [← hadded]
    simp [addedColumns]
  have hexplicit : ∀ column ∈ conn.tableInfo table,
      column.name ∈ explicitInsertColumns conn this →
        ∃ name ∈ targetNames (conn.tableInfo table) this,
          foldCase name = foldCase column.name := by
    intro column hcolumn hname
    cases this with
    | table name =>
      obtain rfl : name = table := by simpa [tableNameFromTarget] using htable
      exact ⟨column.name, List.mem_map_of_mem hcolumn, rfl⟩
    | schema name list => exact ⟨column.name, (List.mem_filter.mp hname).1, rfl⟩
    | other => simp [tableNameFromTarget] at htable
  have hnames : tableNameFromTarget (appendTargetColumns libraries this
        (added.map TableInfoRow.name)) = some table ∧
      targetNames (conn.tableInfo table) (appendTargetColumns libraries this
        (added.map TableInfoRow.name)) =
          targetNames (conn.tableInfo table) this ++ added.map TableInfoRow.name := by
    cases this with
    | table name =>
      obtain rfl : name = table := by simpa [tableNameFromTarget] using htable
      have hnil : added = [] := by
        rw [← hadded]
        exact addedColumns_all libraries conn name
      rw [hnil]
      exact ⟨rfl, (List.append_nil _).symm⟩
    | schema name list =>
      cases added with
      | nil => exact ⟨htable, (List.append_nil _).symm⟩
      | cons column columns =>
        refine ⟨htable, ?_⟩
        simp [appendTargetColumns, targetNames, toIdentifier]
    | other => simp [tableNameFromTarget] at htable
  simp only [omittedColumns, htable, hnames.1, hnames.2, List.filter_filter]
  apply List.filter_congr
  intro column hcolumn
  rw [Bool.eq_iff_iff]
  simp only [decide_eq_true_eq, Bool.and_eq_true, Bool.not_eq_true', List.mem_append]
  constructor
  · intro hunsupplied
    have hours : ∀ name ∈ targetNames (conn.tableInfo table) this,
        foldCase name ≠ foldCase column.name :=
      fun name hname => hunsupplied name (Or.inl hname)
    refine ⟨?_, hours⟩
    by_contra hdefault
    have hcolumn' : column ∈ added := by
      refine (hmem column).mpr ⟨hcolumn, ?_, by simpa using hdefault⟩
      intro hname
      obtain ⟨name, hname, hfold⟩ := hexplicit column hcolumn hname
      exact hours name hname hfold
    exact hunsupplied column.name (Or.inr (List.mem_map_of_mem hcolumn')) rfl
  · rintro ⟨hdefault, hours⟩ name (hname | hname) hfold
    · exact hours name hname hfold
    · obtain ⟨other, hother, rfl⟩ := List.mem_map.mp hname
      obtain ⟨hdeclared, -, hnondeterministic⟩ := (hmem other).mp hother
      obtain rfl : other = column :=
        List.inj_on_of_nodup_map hdistinct hdeclared hcolumn hfold
      rw [hdefault] at hnondeterministic
      cases hnondeterministic

lemma rewriteInsertDefaults_safe
    (hdistinct : ∀ table, ((conn.tableInfo table).map fun column => foldCase column.name).Nodup)
    {root : Tree} {defaults : DefaultsRewrite}
    (h : rewriteInsertDefaults libraries conn root = .ok defaults)
    (hsafe : defaults.isSafe = true) :
    treeCalls defaults.tree = treeCalls root ∧
      treeOmitted conn defaults.tree = (treeOmitted conn root).filter (fun column =>
        !takenForNondeterministic libraries column.defaultSql) ∧
      (defaults.changed = false → defaults.tree = root) := by
  cases root with
  | other expression =>
    obtain rfl := Except.ok.inj h
    exact ⟨rfl, rfl, fun _ => rfl⟩
  | insert insert =>
    obtain ⟨this, source, clauses⟩ := insert
    cases htable : tableNameFromTarget this with
    | none =>
      simp only [rewriteInsertDefaults, htable, Except.ok.injEq] at h
      subst h
      refine ⟨rfl, ?_, fun _ => rfl⟩
      simp [treeOmitted, omittedColumns, htable]
    | some table =>
      have homitted := omittedColumns_append libraries (hdistinct table) htable rfl
      cases source with
      | values rows =>
        obtain ⟨result, htree, hresult, -⟩ :=
          rewriteInsertDefaults_values libraries conn this htable rfl h
        refine ⟨?_, ?_, ?_⟩
        · rw [htree]
          have hcalls : (((rows.map Row.expressions).mapIdx fun i row => row ++
              (addedColumns libraries conn table (explicitInsertColumns conn this)).map
                (defaultLiteral libraries conn i)).mapIdx fun i row =>
                  callsAll [i, 0] 0 row) =
              (rows.map Row.expressions).mapIdx fun i row => callsAll [i, 0] 0 row := by
            apply List.ext_getElem?
            intro i
            simp [callsAll_append, callsAll_defaults, Function.comp_def]
          simp only [treeCalls, groups, List.flatMap_append, flatMap_mapIdx, hresult, hcalls]
        · rw [htree]
          exact homitted
        · intro hchanged
          simp only [rewriteInsertDefaults, htable] at h
          obtain ⟨columns, -, h⟩ := bind_eq_ok.mp h
          split_ifs at h with hempty
          · obtain rfl := Except.ok.inj h
            rfl
          · split at h
            · cases h
            · obtain rfl := Except.ok.inj h
              cases hchanged
      | other query =>
        have htree := rewriteInsertDefaults_query h hsafe
        have hnil : addedColumns libraries conn table (explicitInsertColumns conn this) = [] := by
          simp only [rewriteInsertDefaults, htable] at h
          obtain ⟨defaults', hdefaults, h⟩ := bind_eq_ok.mp h
          rw [nondeterministicDefaultColumns_ok libraries conn hdefaults] at h
          cases hadded : addedColumns libraries conn table (explicitInsertColumns conn this) with
          | nil => rfl
          | cons column columns =>
            rw [hadded, if_neg (by simp)] at h
            obtain rfl := Except.ok.inj h
            cases hsafe
        rw [hnil] at homitted
        rw [htree]
        exact ⟨rfl, homitted, fun _ => rfl⟩

lemma treeLeftCalls_eq_treeCalls {tree : Tree}
    (h : ∀ node ∈ tree.nodes, isNondeterministicFunction libraries node = false) :
    treeLeftCalls libraries tree = treeCalls tree := by
  cases tree with
  | other expression => exact leftCalls_eq_calls [] expression h
  | insert insert =>
    have hgroup : ∀ group ∈ groups insert, leftCallsAll libraries group.1 0 group.2 =
        callsAll group.1 0 group.2 := by
      intro group hgroup
      apply leftCallsAll_eq_callsAll
      intro node hnode
      apply h node
      obtain ⟨this, source, clauses⟩ := insert
      rcases List.mem_append.mp hgroup with hgroup | hgroup
      · apply List.mem_append_left
        cases source with
        | values rows =>
          obtain ⟨i, hi⟩ := List.mem_iff_getElem?.mp hgroup
          rw [List.getElem?_mapIdx] at hi
          obtain ⟨row, hrow, rfl⟩ := Option.map_eq_some_iff.mp hi
          obtain ⟨listed, hlisted, rfl⟩ := List.mem_map.mp (List.mem_of_getElem? hrow)
          exact List.mem_flatMap.mpr ⟨listed, hlisted, hnode⟩
        | other query =>
          obtain rfl := List.mem_singleton.mp hgroup
          have hnode' : node ∈ query.nodes := by simpa [nodesAll] using hnode
          exact hnode'
      · apply List.mem_append_right
        obtain rfl := List.mem_singleton.mp hgroup
        exact hnode
    simp only [treeLeftCalls, treeCalls, List.flatMap_def, List.map_congr_left hgroup]

lemma prepareTree_executes
    (hdistinct : ∀ table, ((conn.tableInfo table).map fun column => foldCase column.name).Nodup)
    {compatible : Option CompatibleSQL} {tree executed : Tree}
    (h : prepareTree libraries conn compatible tree = .ok .original ∧ executed = tree ∨
      ∃ resolution, prepareTree libraries conn compatible tree =
        .ok (.rewritten executed resolution)) :
    treeCalls executed = treeLeftCalls libraries tree ∧
      treeOmitted conn executed = (treeOmitted conn tree).filter fun column =>
        !takenForNondeterministic libraries column.defaultSql := by
  rcases h with ⟨h, rfl⟩ | ⟨resolution, h⟩
  · unfold prepareTree at h
    cases hcalls : (unsafeNondeterministicFunctions executed).isEmpty with
    | false => simp [hcalls] at h
    | true =>
      rw [hcalls] at h
      simp only [Bool.not_true, Bool.false_eq_true, if_false] at h
      cases hreplace : replaceSafeNondeterministicFunctions libraries conn executed with
      | none => simp [hreplace] at h
      | some result =>
        obtain ⟨replaced, changed⟩ := result
        obtain ⟨replaced', hreplaced, hpair⟩ := Option.map_eq_some_iff.mp hreplace
        obtain rfl : replaced' = replaced := congrArg Prod.fst hpair
        have hany : executed.nodes.any (isNondeterministicFunction libraries) = changed :=
          congrArg Prod.snd hpair
        rw [hreplace] at h
        cases hdefaults : rewriteInsertDefaults libraries conn replaced' with
        | error failure => cases failure <;> simp [hdefaults] at h
        | ok defaults =>
          simp only [hdefaults] at h
          have hsafe : defaults.isSafe = true := by
            by_contra hsafe
            rw [if_pos (by simpa using hsafe)] at h
            cases h
          have hchanged : changed = false ∧ defaults.changed = false := by
            split_ifs at h with h₁ h₂
            · cases h
            · simpa using h₂
            · cases h
            · cases h
          obtain ⟨hcalls', homitted, htree⟩ :=
            rewriteInsertDefaults_safe hdistinct hdefaults hsafe
          have hleft : treeLeftCalls libraries executed = treeCalls executed := by
            rw [hchanged.1, List.any_eq_false] at hany
            exact treeLeftCalls_eq_treeCalls fun node hnode => by simpa using hany node hnode
          rw [htree hchanged.2, treeOmitted_replaceCallsTree hreplaced] at homitted
          exact ⟨hleft.symm, homitted⟩
  · obtain ⟨replaced, defaults, hreplaced, hdefaults, hsafe, rfl⟩ := prepareTree_rewritten h
    obtain ⟨hcalls, homitted, -⟩ := rewriteInsertDefaults_safe hdistinct hdefaults hsafe
    rw [hcalls, homitted, treeCalls_replaceCallsTree hreplaced,
      treeOmitted_replaceCallsTree hreplaced]
    exact ⟨rfl, rfl⟩

variable (readsClock : Site → Prop)

lemma harmless_append {first second : List (Site × String)} :
    Harmless readsClock (first ++ second) ↔
      Harmless readsClock first ∧ Harmless readsClock second := by
  simp only [Harmless, List.forall_mem_append]

lemma harmless_flatMap {columns : List TableInfoRow} :
    Harmless readsClock ((columns.filter fun column =>
        !takenForNondeterministic libraries column.defaultSql).flatMap (columnCalls reader)) ↔
      DefaultsHarmless reader readsClock columns := by
  constructor
  · intro h column hcolumn hdefault call hcall
    refine h call (List.mem_flatMap.mpr ⟨column, List.mem_filter.mpr ⟨hcolumn, ?_⟩, hcall⟩)
    simp [hdefault]
  · intro h call hcall
    obtain ⟨column, hcolumn, hcall⟩ := List.mem_flatMap.mp hcall
    obtain ⟨hcolumn, hdefault⟩ := List.mem_filter.mp hcolumn
    exact h column hcolumn (by simpa using hdefault) call hcall

lemma harmless_leftCalls {left : List Call} (h : ∀ call ∈ left, listed call.2 = false) :
    Harmless readsClock (left.map fun call => (Site.tree call.1, call.2)) ↔
      ∀ call ∈ left, dateTimeFunctions.contains call.2 = true → ¬ readsClock (.tree call.1) := by
  constructor
  · intro hharmless call hcall hdate hclock
    exact hharmless _ (List.mem_map_of_mem hcall) (Or.inr ⟨hdate, hclock⟩)
  · intro hleft call hcall hnondeterministic
    obtain ⟨left, hmem, rfl⟩ := List.mem_map.mp hcall
    rcases hnondeterministic with hlisted | ⟨hdate, hclock⟩
    · rw [h left hmem] at hlisted
      cases hlisted
    · exact hleft left hmem hdate hclock

lemma listed_treeLeftCalls (tree : Tree) :
    ∀ call ∈ treeLeftCalls libraries tree, listed call.2 = false := by
  intro call hcall
  cases tree with
  | other expression => exact listed_leftCalls [] expression call hcall
  | insert insert =>
    obtain ⟨group, -, hcall⟩ := List.mem_flatMap.mp hcall
    exact listed_leftCallsAll group.1 0 group.2 call hcall

/-- A prepared tree is deterministic when nothing in it is overlooked. -/
lemma harmless_treeExecution {tree executed : Tree}
    (h : treeCalls executed = treeLeftCalls libraries tree ∧
      treeOmitted conn executed = (treeOmitted conn tree).filter fun column =>
        !takenForNondeterministic libraries column.defaultSql) :
    Harmless readsClock (treeExecution reader executed) ↔
      TreeHarmless reader readsClock tree := by
  rw [treeExecution, h.1, h.2, harmless_append, harmless_flatMap,
    harmless_leftCalls readsClock (listed_treeLeftCalls tree)]
  rfl

/-- Determinism is about the calls alone. -/
lemma deterministic_iff_harmless (sql : List Char) :
    Deterministic characters reader readsClock sql ↔ Harmless readsClock (replayExecution characters reader sql) := by
  constructor
  · intro h
    exact h.harmless
  · intro h
    refine ⟨h, ?_⟩
    intro Database Outcome engine time time' database
    exact engine.run_congr _ time time' database fun call hcall hnondeterministic =>
      absurd hnondeterministic (h call hcall)

/-- The statement is logged as replay-safe. -/
lemma replaySafe_iff {sql : List Char} : ReplaySafe characters libraries conn sql ↔
    ∃ prepared, prepare characters libraries conn sql = .ok prepared ∧
      ∀ reason, prepared ≠ .blocked reason := by
  unfold ReplaySafe prepareLoggedSql
  cases prepare characters libraries conn sql with
  | error failure => simp
  | ok prepared =>
    cases prepared with
    | blocked reason => simp [logEntry]
    | original => simp [logEntry]
    | rewritten tree resolution => simp [logEntry]

lemma harmless_defaultValues {table : String} {clauses : List Expression} {prepared : Prepared}
    (h : prepareDefaultValues libraries conn
      (.insert ⟨.table table, .values [.tuple []], clauses⟩) = .ok (some prepared))
    (hsafe : ∀ reason, prepared ≠ .blocked reason) :
    (∀ sql, prepared = .original → (Harmless readsClock
        (originalExecution reader sql (.defaultValues table clauses)) ↔
          NothingOverlooked reader readsClock sql (.defaultValues table clauses))) ∧
      ∀ sql tree resolution, prepared = .rewritten tree resolution →
        (Harmless readsClock (treeExecution reader tree) ↔
          NothingOverlooked reader readsClock sql (.defaultValues table clauses)) := by
  constructor
  · rintro sql rfl
    have hnil := prepareDefaultValues_original libraries conn h
    have hnone : (conn.tableInfo table).filter (fun column =>
        !takenForNondeterministic libraries column.defaultSql) = conn.tableInfo table := by
      rw [List.filter_eq_self]
      intro column hcolumn
      have hcolumn' := List.filter_eq_nil_iff.mp hnil column hcolumn
      simpa using hcolumn'
    simp only [originalExecution, NothingOverlooked, harmless_append]
    rw [← harmless_flatMap reader readsClock, hnone]
  · rintro sql tree resolution rfl
    obtain ⟨result, rfl, hresult, -⟩ := prepareDefaultValues_rewritten libraries conn rfl h
    have hcalls : treeCalls (.insert ⟨.schema (some table)
        ((addedColumns libraries conn table []).map fun column =>
          toIdentifier libraries column.name), .values result, clauses⟩) =
        callsAll [1] 0 clauses := by
      simp [treeCalls, groups, hresult, callsAll_defaults]
    have htarget : appendTargetColumns libraries (.schema (some table) [])
        ((addedColumns libraries conn table []).map TableInfoRow.name) =
        .schema (some table) ((addedColumns libraries conn table []).map fun column =>
          toIdentifier libraries column.name) := by
      cases addedColumns libraries conn table [] with
      | nil => rfl
      | cons column columns => simp [appendTargetColumns]
    have homitted : omittedColumns conn (.schema (some table)
        ((addedColumns libraries conn table []).map fun column =>
          toIdentifier libraries column.name)) =
        (conn.tableInfo table).filter fun column =>
          !takenForNondeterministic libraries column.defaultSql := by
      have hall : omittedColumns conn (.schema (some table) []) = conn.tableInfo table := by
        simp [omittedColumns, tableNameFromTarget, targetNames]
      rw [← htarget, ← hall]
      exact omittedColumns_append libraries (reader.distinct table) rfl rfl
    simp only [treeExecution, NothingOverlooked, harmless_append, hcalls, treeOmitted, homitted,
      harmless_flatMap]
    rfl

lemma prepareDefaultValues_ne_none (table : String) (rows : List Row)
    (clauses : List Expression) :
    prepareDefaultValues libraries conn (.insert ⟨.table table, .values rows, clauses⟩) ≠
      .ok none := by
  intro h
  simp only [prepareDefaultValues, tableNameFromTarget] at h
  obtain ⟨defaults, -, h⟩ := bind_eq_ok.mp h
  split_ifs at h
  · cases h
  · split at h <;> cases h

lemma not_stripped_of_rewritten {compatible : CompatibleSQL} {tree executed : Tree}
    {resolution : Option SQLiteConflictResolution}
    (h : prepareTree libraries conn (some compatible) tree =
      .ok (.rewritten executed resolution)) :
    compatible.strippedUpsert = false := by
  by_contra hstripped
  have htrue : compatible.strippedUpsert = true := by simpa using hstripped
  unfold prepareTree at h
  simp only [Option.map_some, Option.getD_some, htrue, if_true] at h
  split_ifs at h
  · cases h
  · split at h
    · cases h
    · split at h
      · cases h
      · cases h
      · split_ifs at h <;> cases h

lemma sourceOf_defaultValues {sql : List Char} {prepared : Prepared}
    (hplain : PlainDefaultValues characters libraries sql)
    (hparse : libraries.parseOne sql = .parseError)
    (h : rewriteDefaultValuesInsert characters libraries conn sql = .ok (some prepared)) :
    ∃ table clauses, sourceOf characters libraries sql = .defaultValues table clauses ∧
      prepareDefaultValues libraries conn
        (.insert ⟨.table table, .values [.tuple []], clauses⟩) = .ok (some prepared) := by
  simp only [rewriteDefaultValuesInsert] at h
  split_ifs at h with hsame
  · cases h
  · cases htree : libraries.parseOne (subDefaultValues characters none sql) with
    | tokenError => simp [htree] at h
    | parseError => simp [htree] at h
    | tree tree =>
      rw [htree] at h
      cases tree with
      | other expression => simp [prepareDefaultValues] at h
      | insert insert =>
        obtain ⟨table, hthis, hvalues⟩ := hplain insert hparse htree
        obtain ⟨this, source, clauses⟩ := insert
        obtain rfl : this = .table table := hthis
        obtain rfl : source = .values [.tuple []] := hvalues
        refine ⟨table, clauses, ?_, h⟩
        simp only [sourceOf, hparse, if_neg hsame, htree]

lemma sourceOf_compatible {sql : List Char}
    (hplain : PlainDefaultValues characters libraries sql)
    (hparse : libraries.parseOne sql = .parseError)
    (h : rewriteDefaultValuesInsert characters libraries conn sql = .ok none) :
    sourceOf characters libraries sql =
      match if (normalizeSqlForSqlglot characters sql).sql = sql then .parseError
        else libraries.parseOne (normalizeSqlForSqlglot characters sql).sql with
      | .tree tree => .compatible (normalizeSqlForSqlglot characters sql) tree
      | _ => .unparsed := by
  have hnot : ∀ table source clauses,
      (if subDefaultValues characters none sql = sql then .parseError
        else libraries.parseOne (subDefaultValues characters none sql)) ≠
        Parse.tree (.insert ⟨.table table, source, clauses⟩) := by
    intro table source clauses htree
    simp only [rewriteDefaultValuesInsert] at h
    split_ifs at h htree with hsame
    rw [htree] at h
    obtain ⟨name, hthis, hvalues⟩ := hplain _ hparse htree
    obtain rfl : source = .values [.tuple []] := hvalues
    exact prepareDefaultValues_ne_none table [.tuple []] clauses h
  -- the first branch of the match is excluded by `hnot`
  simp only [sourceOf, hparse]

end

end

/-- Two UPSERT clauses, which sqlglot does not parse. -/
def upsertText : List Char :=
  ("insert into t values(1,1,1) on conflict(a) do nothing " ++
    "on conflict(b) do update set c=random()").toList

def insertText : List Char := "insert into t values(1,1,1)".toList

def one : Expression := .literal ['1'] false

def insertTree : Tree := .insert ⟨.table "t", .values [.tuple [one, one, one]], []⟩

def insertLibraries : Libraries Empty where
  parseOne sql := if sql = insertText then .tree insertTree else .parseError
  render _ := []
  renderExpression _ := []
  safeIdentifier _ := true
  strFloat _ := []

def plainTable : Connection Empty where
  tableInfo _ := [⟨"a", none⟩, ⟨"b", none⟩, ⟨"c", none⟩]
  evaluate _ _ := none

/-- The part that is cut off calls `random`. -/
def upsertReader : Reader insertLibraries plainTable where
  strippedCalls _ := [([], "random")]
  defaultCalls sql :=
    match insertLibraries.parseOne sql with
    | .tree tree => treeCalls tree
    | _ => []
  defaultCalls_parsed sql tree h := by simp [h]
  distinct _ := by
    simp only [plainTable]
    decide +kernel

lemma parseOne_insertText : insertLibraries.parseOne insertText = .tree insertTree := by
  simp only [insertLibraries, if_true]

end SqliteReconcile.ReplaySafety
