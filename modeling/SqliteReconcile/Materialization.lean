import SqliteReconcile.DefaultColumns

/-!
# Values of a materialized statement

The meaning of a statement is built up from the meanings of its parts. A literal means its
value, except that an integer which is a whole term of ORDER BY or GROUP BY is a column number.
A column without an alias has its text for a name, which other parts may refer to.
-/
namespace SqliteReconcile.Materialization
open Outcomes ReplayPreparation LiteralValues DefaultColumns ConflictSyntax

inductive Operand (Real : Type)
  | value (value : Value Real)
  | ordinal (n : SqlInteger)
  | unreadable

/-- Where a node stands: in a whole term of ORDER BY or GROUP BY, possibly within parentheses, a
COLLATE or signs, or as an operand. -/
inductive Slot
  | operand
  | term
  | collated
  | signed
  deriving DecidableEq

/-- COLLATE binds before a sign, and a number stands in no COLLATE below a sign. -/
def Slot.below : Slot → Around → Slot
  | .term, .paren | .collated, .paren => .term
  | .term, .collate _ | .collated, .collate _ => .collated
  | .term, .neg | .signed, .neg | .signed, .paren => .signed
  | .collated, .neg | .signed, .collate _ | .operand, _ => .operand

/-- SQLite reads an integer of 32 bits there as a column number. -/
def Slot.isNumber : Slot → ℤ → Bool
  | .operand, _ => false
  | .collated, n => 0 ≤ n && n < 2 ^ 31
  | .term, n | .signed, n => n.natAbs < 2 ^ 31

/-- The kinds of the nodes; `item` has the name by which other parts refer to it. -/
inductive Kind
  | call (name : String)
  | currentDate
  | currentTime
  | currentTimestamp
  | select
  | subquery
  | term
  | around (around : Around)
  | item (name : Option (List Char))
  | column (name : List Char)
  | other (kind : String)

/-- How SQLite composes meanings, and the defaults that are evaluated when it executes. -/
structure Semantics (Real Meaning : Type) where
  operand : Operand Real → Meaning
  node : Kind → List Meaning → Meaning
  default : String → Meaning

section

variable {Real : Type} (readReal : List Char → Option Real)

def readOperand (slot : Slot) (expression : Expression) : Operand Real :=
  match readLiteral readReal expression with
  | none => .unreadable
  | some (.integer n) => if slot.isNumber n then .ordinal n else .value (.integer n)
  | some value => .value value

/-- How a statement is read: the values that calls return, by their paths, and the names that
columns without an alias show to the other parts. -/
structure Reading (Real : Type) where
  returned : List ℕ → Expression → Option (Value Real)
  nameOf : List Char → Expression → Option (List Char)

variable {Meaning : Type} (semantics : Semantics Real Meaning) (reading : Reading Real)

/-- A call means the value that it returned, if that is given. -/
def callMeaning (value : Option (Value Real)) (otherwise : Meaning) : Meaning :=
  value.elim otherwise fun value => semantics.operand (.value value)

mutual

/-- The meaning of a node at a path. -/
def meaning (slot : Slot) (path : List ℕ) : Expression → Meaning
  | .anonymous name expressions =>
    callMeaning semantics (reading.returned path (.anonymous name expressions))
      (semantics.node (.call name) (meaningAll path 0 expressions))
  | .currentDate =>
    callMeaning semantics (reading.returned path .currentDate) (semantics.node .currentDate [])
  | .currentTime =>
    callMeaning semantics (reading.returned path .currentTime) (semantics.node .currentTime [])
  | .currentTimestamp =>
    callMeaning semantics (reading.returned path .currentTimestamp)
      (semantics.node .currentTimestamp [])
  | .null => semantics.operand (readOperand readReal slot .null)
  | .literal text isString =>
    semantics.operand (readOperand readReal slot (.literal text isString))
  | .select args => semantics.node .select (meaningAll path 0 args)
  | .subquery args => semantics.node .subquery (meaningAll path 0 args)
  | .term this => semantics.node .term [meaning .term (0 :: path) this]
  | .around around this =>
    semantics.node (.around around) [meaning (slot.below around) (0 :: path) this]
  | .item text this =>
    semantics.node (.item (reading.nameOf text this)) [meaning .operand (0 :: path) this]
  | .column name => semantics.node (.column name) []
  | .other kind args => semantics.node (.other kind) (meaningAll path 0 args)

def meaningAll (path : List ℕ) (position : ℕ) : List Expression → List Meaning
  | [] => []
  | expression :: expressions =>
    meaning .operand (position :: path) expression :: meaningAll path (position + 1) expressions

end

lemma meaning_anonymous (slot : Slot) (path : List ℕ) (name : String)
    (expressions : List Expression) :
    meaning readReal semantics reading slot path (.anonymous name expressions) =
      callMeaning semantics (reading.returned path (.anonymous name expressions))
        (semantics.node (.call name)
          (meaningAll readReal semantics reading path 0 expressions)) := by
  rw [meaning]

variable (libraries : Libraries Real) (conn : Connection Real) (referred : List Char → Bool)

def evaluatedCalls (path : List ℕ) (node : Expression) : Option (Value Real) :=
  if isNondeterministicFunction libraries node then
    conn.evaluate (.call path) (libraries.renderExpression node)
  else none

/-- A text as a column name, which SQLite compares without case, if anything refers to it. -/
def shownName (text : List Char) : Option (List Char) :=
  if referred text then some (text.map Char.toLower) else none

/-- The original statement: each evaluated call returns its value. -/
def submittedReading : Reading Real where
  returned := evaluatedCalls libraries conn
  nameOf text _ := shownName referred text

/-- The executed statement, which is rendered from its tree. -/
def executedReading : Reading Real where
  returned _ _ := none
  nameOf _ this := shownName referred (libraries.renderExpression this)

/-- What replacing changes: the literal of a value is put into a place, and a column without an
alias is rendered. -/
inductive Change (Real : Type)
  | literal (slot : Slot) (value : Value Real)
  | name (text rendered : List Char)

mutual

/-- The changes in a node at a path. A replaced call changes as a whole. -/
def changes (slot : Slot) (path : List ℕ) : Expression → List (Change Real)
  | .anonymous name expressions =>
    (evaluatedCalls libraries conn path (.anonymous name expressions)).elim
      (changesAll path 0 expressions) fun value => [.literal slot value]
  | .currentDate =>
    (evaluatedCalls libraries conn path .currentDate).elim [] fun value => [.literal slot value]
  | .currentTime =>
    (evaluatedCalls libraries conn path .currentTime).elim [] fun value => [.literal slot value]
  | .currentTimestamp =>
    (evaluatedCalls libraries conn path .currentTimestamp).elim []
      fun value => [.literal slot value]
  | .null | .literal .. | .column _ => []
  | .select args => changesAll path 0 args
  | .subquery args => changesAll path 0 args
  | .term this => changes .term (0 :: path) this
  | .around around this => changes (slot.below around) (0 :: path) this
  | .item text this =>
    .name text (((replaceCalls libraries conn (0 :: path) this).map
      libraries.renderExpression).getD []) :: changes .operand (0 :: path) this
  | .other _ args => changesAll path 0 args

def changesAll (path : List ℕ) (position : ℕ) : List Expression → List (Change Real)
  | [] => []
  | expression :: expressions =>
    changes .operand (position :: path) expression ++ changesAll path (position + 1) expressions

end

/-- The literal means the value, and the column shows the same name. -/
def Keeps : Change Real → Prop
  | .literal slot value => readOperand readReal slot (literalOf libraries value) = .value value
  | .name text rendered => shownName referred rendered = shownName referred text

lemma keepsLiteral_iff (slot : Slot) (value : Value Real) :
    Keeps readReal libraries referred (.literal slot value) ↔
      ReadsBack readReal libraries value ∧
        ¬ ∃ n, value = .integer n ∧ slot.isNumber n = true := by
  change readOperand readReal slot (literalOf libraries value) = .value value ↔ _
  unfold ReadsBack readOperand
  cases hread : readLiteral readReal (literalOf libraries value) with
  | none => simp
  | some read =>
    cases read with
    | integer n =>
      dsimp only
      by_cases hnumber : slot.isNumber n = true
      · rw [if_pos hnumber]
        refine iff_of_false (by simp) ?_
        rintro ⟨hvalue, hnot⟩
        exact hnot ⟨n, (Option.some.inj hvalue).symm, hnumber⟩
      · rw [if_neg hnumber]
        simp only [Operand.value.injEq, Option.some.injEq, iff_self_and]
        rintro rfl ⟨m, hm, htrue⟩
        cases hm
        exact hnumber htrue
    | null | real r | text s | blob bytes =>
      simp only [Operand.value.injEq, Option.some.injEq, iff_self_and]
      rintro rfl
      simp

lemma meaning_literalOf (slot : Slot) (path : List ℕ) (value : Value Real) :
    meaning readReal semantics reading slot path (literalOf libraries value) =
      semantics.operand (readOperand readReal slot (literalOf libraries value)) := by
  cases value <;> simp [literalOf, literal, Value.toPython, meaning]

variable {libraries conn referred}

lemma meaning_evaluateCall {slot : Slot} {path : List ℕ} {node replaced : Expression}
    {otherwise : Meaning} {others : List (Change Real)}
    (hnode : isNondeterministicFunction libraries node = true)
    (h : evaluateCall libraries conn path node = some replaced)
    (hkeeps : ∀ change ∈ (evaluatedCalls libraries conn path node).elim others
      fun value => [Change.literal slot value], Keeps readReal libraries referred change) :
    meaning readReal semantics (executedReading libraries referred) slot path replaced =
      callMeaning semantics (evaluatedCalls libraries conn path node) otherwise := by
  obtain ⟨value, hvalue, rfl⟩ := Option.map_eq_some_iff.mp h
  have hreturned : evaluatedCalls libraries conn path node = some value := by
    rw [evaluatedCalls, if_pos hnode, hvalue]
  rw [hreturned] at hkeeps ⊢
  have hkeep : readOperand readReal slot (literalOf libraries value) = .value value :=
    hkeeps (.literal slot value) (by simp)
  rw [meaning_literalOf, hkeep]
  rfl

mutual

/-- Replacing calls keeps the meaning when every change keeps it. -/
theorem meaning_replaceCalls (slot : Slot) (path : List ℕ) :
    ∀ (node replaced : Expression), replaceCalls libraries conn path node = some replaced →
      (∀ change ∈ changes libraries conn slot path node,
        Keeps readReal libraries referred change) →
      meaning readReal semantics (executedReading libraries referred) slot path replaced =
        meaning readReal semantics (submittedReading libraries conn referred) slot path node
  | .anonymous name expressions, replaced, h, hkeeps => by
    simp only [replaceCalls] at h
    obtain ⟨args, hargs, h⟩ := Option.bind_eq_some_iff.mp h
    rw [changes] at hkeeps
    rw [meaning_anonymous readReal semantics (submittedReading libraries conn referred)]
    split_ifs at h with hnode
    · exact meaning_evaluateCall readReal semantics hnode h hkeeps
    · have hreturned : evaluatedCalls libraries conn path (.anonymous name expressions) =
          none := by simp [evaluatedCalls, hnode]
      rw [hreturned] at hkeeps
      obtain rfl : .anonymous name args = replaced := by simpa using h
      have hargs' := meaningAll_replaceCallsAll path 0 expressions args hargs hkeeps
      rw [meaning_anonymous, hargs']
      simp only [submittedReading, hreturned]
      rfl
  | .currentDate, replaced, h, hkeeps => by
    rw [changes] at hkeeps
    exact meaning_evaluateCall readReal semantics rfl h hkeeps
  | .currentTime, replaced, h, hkeeps => by
    rw [changes] at hkeeps
    exact meaning_evaluateCall readReal semantics rfl h hkeeps
  | .currentTimestamp, replaced, h, hkeeps => by
    rw [changes] at hkeeps
    exact meaning_evaluateCall readReal semantics rfl h hkeeps
  | .null, replaced, h, _ => by
    obtain rfl : .null = replaced := by simpa [replaceCalls] using h
    simp [meaning]
  | .literal text isString, replaced, h, _ => by
    obtain rfl : .literal text isString = replaced := by simpa [replaceCalls] using h
    simp [meaning]
  | .column name, replaced, h, _ => by
    obtain rfl : .column name = replaced := by simpa [replaceCalls] using h
    simp [meaning]
  | .select args, replaced, h, hkeeps => by
    rw [replaceCalls] at h
    obtain ⟨args', hargs, rfl⟩ := Option.map_eq_some_iff.mp h
    rw [changes] at hkeeps
    rw [meaning, meaning, meaningAll_replaceCallsAll path 0 args args' hargs hkeeps]
  | .subquery args, replaced, h, hkeeps => by
    rw [replaceCalls] at h
    obtain ⟨args', hargs, rfl⟩ := Option.map_eq_some_iff.mp h
    rw [changes] at hkeeps
    rw [meaning, meaning, meaningAll_replaceCallsAll path 0 args args' hargs hkeeps]
  | .term this, replaced, h, hkeeps => by
    rw [replaceCalls] at h
    obtain ⟨this', hthis, rfl⟩ := Option.map_eq_some_iff.mp h
    rw [changes] at hkeeps
    rw [meaning, meaning, meaning_replaceCalls .term (0 :: path) this this' hthis hkeeps]
  | .around around this, replaced, h, hkeeps => by
    rw [replaceCalls] at h
    obtain ⟨this', hthis, rfl⟩ := Option.map_eq_some_iff.mp h
    rw [changes] at hkeeps
    rw [meaning, meaning,
      meaning_replaceCalls (slot.below around) (0 :: path) this this' hthis hkeeps]
  | .item text this, replaced, h, hkeeps => by
    rw [replaceCalls] at h
    obtain ⟨this', hthis, rfl⟩ := Option.map_eq_some_iff.mp h
    rw [changes, hthis] at hkeeps
    have hname : shownName referred (libraries.renderExpression this') =
        shownName referred text := hkeeps _ List.mem_cons_self
    have hrest := meaning_replaceCalls .operand (0 :: path) this this' hthis
      fun change hchange => hkeeps change (List.mem_cons_of_mem _ hchange)
    rw [meaning, meaning, hrest]
    simp only [executedReading, submittedReading, hname]
  | .other kind args, replaced, h, hkeeps => by
    rw [replaceCalls] at h
    obtain ⟨args', hargs, rfl⟩ := Option.map_eq_some_iff.mp h
    rw [changes] at hkeeps
    rw [meaning, meaning, meaningAll_replaceCallsAll path 0 args args' hargs hkeeps]

theorem meaningAll_replaceCallsAll (path : List ℕ) (position : ℕ) :
    ∀ (nodes replaced : List Expression),
      replaceCallsAll libraries conn path position nodes = some replaced →
      (∀ change ∈ changesAll libraries conn path position nodes,
        Keeps readReal libraries referred change) →
      meaningAll readReal semantics (executedReading libraries referred) path position replaced =
        meaningAll readReal semantics (submittedReading libraries conn referred) path position
          nodes
  | [], replaced, h, _ => by
    obtain rfl : [] = replaced := by simpa [replaceCallsAll] using h
    simp [meaningAll]
  | node :: nodes, replaced, h, hkeeps => by
    rw [replaceCallsAll] at h
    obtain ⟨node', hnode, h⟩ := Option.bind_eq_some_iff.mp h
    obtain ⟨nodes', hnodes, h⟩ := Option.bind_eq_some_iff.mp h
    obtain rfl : node' :: nodes' = replaced := by simpa using h
    rw [changesAll] at hkeeps
    have hfirst := meaning_replaceCalls .operand (position :: path) node node' hnode
      fun change hchange => hkeeps change (List.mem_append_left _ hchange)
    have hrest := meaningAll_replaceCallsAll path (position + 1) nodes nodes' hnodes
      fun change hchange => hkeeps change (List.mem_append_right _ hchange)
    rw [meaningAll, meaningAll, hfirst, hrest]

end

/-- A statement: an INSERT that lists its rows, an INSERT of a query, or any other. -/
inductive Statement
  | insert (submitted : Submitted)
  | insertQuery (this : Target) (query : Expression) (clauses : List Expression)
  | other (expression : Expression)

/-- A reference to a column is spelled like the text. -/
def isReference (text : List Char) : Expression → Bool
  | .column name => name.map Char.toLower = text.map Char.toLower
  | _ => false

/-- A reference to a column in the statement is spelled like the text. What DEFAULT VALUES stores
does not depend on its other clauses. -/
def Statement.refersTo (statement : Statement) (text : List Char) : Bool :=
  match statement with
  | .insert (.values _ _ rows clauses) =>
    ((InsertSource.values rows).nodes ++ nodesAll clauses).any (isReference text)
  | .insert (.defaultValues ..) => false
  | .insertQuery _ query clauses => (query.nodes ++ nodesAll clauses).any (isReference text)
  | .other expression => expression.nodes.any (isReference text)

lemma isReference_congr {text other : List Char}
    (h : text.map Char.toLower = other.map Char.toLower) :
    isReference text = isReference other := by
  funext expression
  cases expression <;> simp [isReference, h]

lemma refersTo_congr (statement : Statement) {text other : List Char}
    (h : text.map Char.toLower = other.map Char.toLower) :
    statement.refersTo text = statement.refersTo other := by
  unfold Statement.refersTo
  rw [isReference_congr h]

lemma shownName_eq_iff {referred : List Char → Bool} {text rendered : List Char}
    (hcongr : ∀ {text other : List Char}, text.map Char.toLower = other.map Char.toLower →
      referred text = referred other) :
    shownName referred rendered = shownName referred text ↔
      (referred text = true ∨ referred rendered = true →
        rendered.map Char.toLower = text.map Char.toLower) := by
  unfold shownName
  by_cases hsame : rendered.map Char.toLower = text.map Char.toLower
  · rw [hcongr hsame, hsame]
    simp
  · cases referred text <;> cases referred rendered <;> simp [hsame]

variable (libraries conn)

/-- How a statement is prepared, from its text or from its compatible form. -/
def prepared (compatible : Option CompatibleSQL) :
    Statement → Except Failure (Option Prepared)
  | .insert (.values table list rows clauses) =>
    (prepareTree libraries conn compatible
      (.insert (Submitted.values table list rows clauses).parsed)).map some
  | .insert (.defaultValues table clauses) =>
    prepareDefaultValues libraries conn (.insert (Submitted.defaultValues table clauses).parsed)
  | .insertQuery this query clauses =>
    (prepareTree libraries conn compatible (.insert ⟨this, .other query, clauses⟩)).map some
  | .other expression => (prepareTree libraries conn compatible (.other expression)).map some

/-- What a statement stores and what else it means. `rows` has a value for every column of the
table, in table order. -/
inductive StatementMeaning (Meaning : Type)
  | rows (table : Option String) (rows : List (List Meaning)) (clauses : List Meaning)
  | query (this : Target) (query : Meaning) (clauses : List Meaning)
  | other (meaning : Meaning)

def evaluatedDefaults (row : ℕ) (column : TableInfoRow) : Option (Value Real) :=
  if takenForNondeterministic libraries column.defaultSql then defaultValue conn row column
  else none

def noDefaults : ℕ → TableInfoRow → Option (Value Real) := fun _ _ => none

/-- What one row stores in a column. -/
def storedValue (default : Option (Value Real)) (names : List String) (row : List Meaning)
    (column : TableInfoRow) : Meaning :=
  (valueAt names row column.name).getD
    (callMeaning semantics default (semantics.default column.name))

def storedRows (defaults : ℕ → TableInfoRow → Option (Value Real)) (declared : List TableInfoRow)
    (insert : ColumnRows) : List (List Meaning) :=
  insert.rows.mapIdx fun index row => declared.map fun column =>
    storedValue semantics (defaults index column) (insert.names declared)
      (meaningAll readReal semantics reading [index, 0] 0 row) column

def declaredColumns (table : Option String) : List TableInfoRow :=
  (table.map conn.tableInfo).getD []

def treeMeaning (defaults : ℕ → TableInfoRow → Option (Value Real)) :
    Tree → StatementMeaning Meaning
  | .other expression => .other (meaning readReal semantics reading .operand [] expression)
  | .insert insert =>
    match insert.expression with
    | .other query =>
      .query insert.this (meaning readReal semantics reading .operand [0] query)
        (meaningAll readReal semantics reading [1] 0 insert.clauses)
    | .values _ =>
      .rows (tableNameFromTarget insert.this)
        (storedRows readReal semantics reading defaults
          (declaredColumns conn (tableNameFromTarget insert.this)) (columnRows insert))
        (meaningAll readReal semantics reading [1] 0 insert.clauses)

/-- The original statement, each evaluated call and default returning its value. No call in the
clauses of DEFAULT VALUES is evaluated. -/
def originalMeaning (statement : Statement) : StatementMeaning Meaning :=
  let tree := treeMeaning readReal semantics
    (submittedReading libraries conn statement.refersTo) conn (evaluatedDefaults libraries conn)
  match statement with
  | .insert (.values table list rows clauses) =>
    tree (.insert (Submitted.values table list rows clauses).parsed)
  | .insert (.defaultValues table clauses) =>
    let reading := executedReading libraries statement.refersTo
    .rows (some table)
      (storedRows readReal semantics reading (evaluatedDefaults libraries conn)
        (conn.tableInfo table) (Submitted.defaultValues table clauses).original)
      (meaningAll readReal semantics reading [1] 0 clauses)
  | .insertQuery this query clauses => tree (.insert ⟨this, .other query, clauses⟩)
  | .other expression => tree (.other expression)

def executedMeaning (referred : List Char → Bool) (tree : Tree) : StatementMeaning Meaning :=
  treeMeaning readReal semantics (executedReading libraries referred) conn noDefaults tree

variable {libraries conn} {referred : List Char → Bool}

lemma length_meaningAll (path : List ℕ) (position : ℕ) (expressions : List Expression) :
    (meaningAll readReal semantics reading path position expressions).length =
      expressions.length := by
  induction expressions generalizing position with
  | nil => simp [meaningAll]
  | cons expression expressions ih => simp [meaningAll, ih]

lemma meaningAll_append (path : List ℕ) (position : ℕ) (first second : List Expression) :
    meaningAll readReal semantics reading path position (first ++ second) =
      meaningAll readReal semantics reading path position first ++
        meaningAll readReal semantics reading path (position + first.length) second := by
  induction first generalizing position with
  | nil => simp [meaningAll]
  | cons expression expressions ih =>
    simp only [List.cons_append, meaningAll, ih, List.length_cons]
    rw [show position + 1 + expressions.length = position + (expressions.length + 1) by omega]

lemma meaningAll_defaults (path : List ℕ) (position row : ℕ) {columns : List TableInfoRow}
    (h : ∀ column ∈ columns, ∀ value, defaultValue conn row column = some value →
      ReadsBack readReal libraries value)
    (hsome : ∀ column ∈ columns, (defaultValue conn row column).isSome) :
    meaningAll readReal semantics reading path position
        (columns.map (defaultLiteral libraries conn row)) =
      columns.map fun column => callMeaning semantics (defaultValue conn row column)
        (semantics.default column.name) := by
  induction columns generalizing position with
  | nil => simp [meaningAll]
  | cons column columns ih =>
    obtain ⟨value, hvalue⟩ := Option.isSome_iff_exists.mp (hsome column List.mem_cons_self)
    have hback := h column List.mem_cons_self value hvalue
    have hkeeps : readOperand readReal .operand (literalOf libraries value) = .value value :=
      (keepsLiteral_iff readReal libraries (fun _ => false) .operand value).mpr
        ⟨hback, by simp [Slot.isNumber]⟩
    have hrest := ih (position + 1) (fun c hc => h c (List.mem_cons_of_mem _ hc))
      (fun c hc => hsome c (List.mem_cons_of_mem _ hc))
    simp only [List.map_cons, meaningAll, hrest, defaultLiteral, hvalue, Option.getD_some]
    rw [meaning_literalOf, hkeeps]
    rfl

variable (libraries conn) in
def rowChanges (index : ℕ) : List Row → List (Change Real)
  | [] => []
  | row :: rows =>
    changesAll libraries conn [index, 0] 0 row.expressions ++ rowChanges (index + 1) rows

lemma meaning_replaceCallsRow {index : ℕ} {row replaced : Row}
    (h : replaceCallsRow libraries conn index row = some replaced)
    (hkeeps : ∀ change ∈ changesAll libraries conn [index, 0] 0 row.expressions,
      Keeps readReal libraries referred change) :
    meaningAll readReal semantics (executedReading libraries referred) [index, 0] 0
        replaced.expressions =
      meaningAll readReal semantics (submittedReading libraries conn referred) [index, 0] 0
        row.expressions := by
  cases row with
  | tuple expressions =>
    obtain ⟨replaced, hreplaced, rfl⟩ := Option.map_eq_some_iff.mp h
    exact meaningAll_replaceCallsAll readReal semantics _ _ _ _ hreplaced hkeeps
  | single expression =>
    obtain ⟨replaced, hreplaced, rfl⟩ := Option.map_eq_some_iff.mp h
    simp only [Row.expressions, changesAll, List.append_nil] at hkeeps
    have hmeaning := meaning_replaceCalls readReal semantics .operand _ _ _ hreplaced hkeeps
    simp only [Row.expressions, meaningAll, hmeaning]

lemma meaning_replaceCallsRows {index : ℕ} {rows replaced : List Row}
    (h : replaceCallsRows libraries conn index rows = some replaced)
    (hkeeps : ∀ change ∈ rowChanges libraries conn index rows,
      Keeps readReal libraries referred change) :
    (replaced.map Row.expressions).mapIdx (fun i row =>
        meaningAll readReal semantics (executedReading libraries referred) [index + i, 0] 0 row) =
      (rows.map Row.expressions).mapIdx fun i row =>
        meaningAll readReal semantics (submittedReading libraries conn referred) [index + i, 0] 0
          row := by
  induction rows generalizing index replaced with
  | nil =>
    obtain rfl : [] = replaced := by simpa [replaceCallsRows] using h
    rfl
  | cons row rows ih =>
    rw [replaceCallsRows] at h
    obtain ⟨row', hrow, h⟩ := Option.bind_eq_some_iff.mp h
    obtain ⟨rows', hrows, h⟩ := Option.bind_eq_some_iff.mp h
    obtain rfl : row' :: rows' = replaced := by simpa using h
    have hfirst := meaning_replaceCallsRow readReal semantics hrow
      fun entry hentry => hkeeps entry (List.mem_append_left _ hentry)
    have hrest := ih hrows fun entry hentry => hkeeps entry (List.mem_append_right _ hentry)
    have hshift : ∀ i, index + 1 + i = index + (i + 1) := by
      intro i
      omega
    simp only [hshift] at hrest
    simp only [List.map_cons, List.mapIdx_cons, Nat.add_zero, hfirst, hrest]

lemma length_replaceCallsAll {path : List ℕ} {position : ℕ} {nodes replaced : List Expression}
    (h : replaceCallsAll libraries conn path position nodes = some replaced) :
    replaced.length = nodes.length := by
  induction nodes generalizing position replaced with
  | nil =>
    obtain rfl : [] = replaced := by simpa [replaceCallsAll] using h
    rfl
  | cons node nodes ih =>
    rw [replaceCallsAll] at h
    obtain ⟨node', -, h⟩ := Option.bind_eq_some_iff.mp h
    obtain ⟨nodes', hnodes, h⟩ := Option.bind_eq_some_iff.mp h
    obtain rfl : node' :: nodes' = replaced := by simpa using h
    simp [ih hnodes]

lemma length_replaceCallsRow {index : ℕ} {row replaced : Row}
    (h : replaceCallsRow libraries conn index row = some replaced) :
    replaced.expressions.length = row.expressions.length := by
  cases row with
  | tuple expressions =>
    obtain ⟨replaced, hreplaced, rfl⟩ := Option.map_eq_some_iff.mp h
    exact length_replaceCallsAll hreplaced
  | single expression =>
    obtain ⟨replaced, -, rfl⟩ := Option.map_eq_some_iff.mp h
    rfl

lemma lengths_replaceCallsRows {index : ℕ} {rows replaced : List Row}
    (h : replaceCallsRows libraries conn index rows = some replaced) :
    replaced.map (fun row => row.expressions.length) =
      rows.map fun row => row.expressions.length := by
  induction rows generalizing index replaced with
  | nil =>
    obtain rfl : [] = replaced := by simpa [replaceCallsRows] using h
    rfl
  | cons row rows ih =>
    rw [replaceCallsRows] at h
    obtain ⟨row', hrow, h⟩ := Option.bind_eq_some_iff.mp h
    obtain ⟨rows', hrows, h⟩ := Option.bind_eq_some_iff.mp h
    obtain rfl : row' :: rows' = replaced := by simpa using h
    simp [length_replaceCallsRow hrow, ih hrows]

lemma storedValue_grown {declared added : List TableInfoRow} {names : List String}
    {row : List Meaning} {column : TableInfoRow} {default : Option (Value Real)}
    (value : TableInfoRow → Option (Value Real))
    (hlength : row.length = names.length)
    (hdistinct : (declared.map fun column => Identifiers.foldCase column.name).Nodup)
    (hadded : added.Sublist declared) (hcolumn : column ∈ declared)
    (homitted : ¬ (∃ name ∈ names, Identifiers.foldCase name =
      Identifiers.foldCase column.name) →
        (column ∈ added → value column = default) ∧ (column ∉ added → default = none)) :
    storedValue semantics none (names ++ added.map TableInfoRow.name)
        (row ++ added.map fun column =>
          callMeaning semantics (value column) (semantics.default column.name)) column =
      storedValue semantics default names row column := by
  unfold storedValue
  by_cases hsupplied : ∃ name ∈ names, Identifiers.foldCase name =
      Identifiers.foldCase column.name
  · have hsome : (valueAt names row column.name).isSome := by
      unfold valueAt
      rw [Option.isSome_map]
      exact find?_zip_isSome hlength hsupplied
    obtain ⟨stored, hstored⟩ := Option.isSome_iff_exists.mp hsome
    rw [valueAt_append_left hlength hsupplied, hstored]
    rfl
  · obtain ⟨hin, hout⟩ := homitted hsupplied
    have hnone : valueAt names row column.name = none := by
      unfold valueAt
      rw [Option.map_eq_none_iff, List.find?_eq_none]
      intro entry hentry hfold
      exact hsupplied ⟨entry.1, (List.of_mem_zip hentry).1, by simpa using hfold⟩
    rw [valueAt_append_right hlength hsupplied, hnone]
    by_cases hmem : column ∈ added
    · rw [valueAt_map _ (hdistinct.sublist (hadded.map _)) hmem, hin hmem]
      rfl
    · have habsent : valueAt (added.map TableInfoRow.name) (added.map fun column =>
          callMeaning semantics (value column) (semantics.default column.name)) column.name =
            none := by
        unfold valueAt
        rw [Option.map_eq_none_iff, List.find?_eq_none]
        intro entry hentry hfold
        obtain ⟨other, hother, hname⟩ := List.mem_map.mp (List.of_mem_zip hentry).1
        have heq : other = column := by
          apply List.inj_on_of_nodup_map hdistinct (hadded.subset hother) hcolumn
          simpa [hname] using hfold
        exact hmem (heq ▸ hother)
      rw [habsent, hout hmem]

lemma added_of_unsupplied {submitted : Submitted} {column : TableInfoRow}
    (hcolumn : column ∈ conn.tableInfo submitted.table)
    (h : ¬ ∃ name ∈ submitted.original.names (conn.tableInfo submitted.table),
      Identifiers.foldCase name = Identifiers.foldCase column.name) (row : ℕ) :
    (column ∈ addedColumns libraries conn submitted.table (submitted.explicitNames conn) →
        defaultValue conn row column = evaluatedDefaults libraries conn row column) ∧
      (column ∉ addedColumns libraries conn submitted.table (submitted.explicitNames conn) →
        evaluatedDefaults libraries conn row column = none) := by
  have hexplicit : column.name ∉ submitted.explicitNames conn := by
    intro hmem
    cases submitted with
    | values table list rows clauses =>
      cases list with
      | none => exact h ⟨column.name, List.mem_map_of_mem hcolumn, rfl⟩
      | some list => exact h ⟨column.name, (List.mem_filter.mp hmem).1, rfl⟩
    | defaultValues table clauses => simp [Submitted.explicitNames] at hmem
  have hiff : column ∈ addedColumns libraries conn submitted.table
      (submitted.explicitNames conn) ↔
        takenForNondeterministic libraries column.defaultSql = true := by
    simp [addedColumns, hcolumn, hexplicit]
  rw [hiff]
  constructor
  · intro hdefault
    rw [evaluatedDefaults, if_pos hdefault]
  · intro hdefault
    rw [evaluatedDefaults, if_neg hdefault]

/-- The rows of a statement whose list grows by the evaluated defaults. -/
lemma storedRows_grown (executing : Reading Real) (submitted : Submitted) (executed : ColumnRows)
    (replaced : List (List Expression)) {added : List TableInfoRow}
    (hadded : addedColumns libraries conn submitted.table (submitted.explicitNames conn) = added)
    (hdistinct : ((conn.tableInfo submitted.table).map
      fun column => Identifiers.foldCase column.name).Nodup)
    (hlengths : ∀ row ∈ submitted.original.rows,
      row.length = (submitted.original.names (conn.tableInfo submitted.table)).length)
    (hlist : executed.list = submitted.original.list.map
      (· ++ added.map fun column => toIdentifier libraries column.name))
    (hrows : executed.rows = replaced.mapIdx fun i row =>
      row ++ added.map (defaultLiteral libraries conn i))
    (hreplaced : (replaced.mapIdx fun i row =>
        meaningAll readReal semantics executing [i, 0] 0 row) =
      submitted.original.rows.mapIdx fun i row =>
        meaningAll readReal semantics reading [i, 0] 0 row)
    (hsome : ∀ i < submitted.original.rows.length, ∀ column ∈ added,
      (defaultValue conn i column).isSome)
    (hback : ∀ i < submitted.original.rows.length, ∀ column ∈ added, ∀ value,
      defaultValue conn i column = some value → ReadsBack readReal libraries value) :
    storedRows readReal semantics executing noDefaults (conn.tableInfo submitted.table)
        executed =
      storedRows readReal semantics reading (evaluatedDefaults libraries conn)
        (conn.tableInfo submitted.table) submitted.original := by
  have hnames : executed.names (conn.tableInfo submitted.table) =
      submitted.original.names (conn.tableInfo submitted.table) ++
        added.map TableInfoRow.name :=
    names_grown (added_nil_of_list libraries conn _ hadded) hlist
  have hsublist : added.Sublist (conn.tableInfo submitted.table) := by
    rw [← hadded]
    exact List.filter_sublist
  apply List.ext_getElem?
  intro i
  have hrow := congrArg (fun rows : List (List Meaning) => rows[i]?) hreplaced
  simp only [List.getElem?_mapIdx] at hrow
  simp only [storedRows, hrows, List.getElem?_mapIdx]
  cases horiginal : submitted.original.rows[i]? with
  | none =>
    rw [horiginal] at hrow
    have hnone : replaced[i]? = none := by simpa using hrow
    simp [hnone]
  | some original =>
    rw [horiginal] at hrow
    obtain ⟨row, hreplacedRow, hmeaning⟩ := Option.map_eq_some_iff.mp hrow
    have hi : i < submitted.original.rows.length := (List.getElem?_eq_some_iff.mp horiginal).1
    have hlength := hlengths original (List.mem_of_getElem? horiginal)
    simp only [hreplacedRow, Option.map_some, Option.some.injEq]
    apply List.map_congr_left
    intro column hcolumn
    rw [hnames, meaningAll_append, hmeaning,
      meaningAll_defaults readReal semantics executing _ _ _ (hback i hi) (hsome i hi)]
    apply storedValue_grown semantics (defaultValue conn i) ?_ hdistinct hsublist hcolumn
    · intro hunsupplied
      rw [← hadded]
      exact added_of_unsupplied hcolumn hunsupplied i
    · rw [length_meaningAll, hlength]

lemma ok_of_map_some {α : Type} {x : Except Failure α} {a : α} (h : x.map some = .ok (some a)) :
    x = .ok a := by
  obtain ⟨b, hb, hsome⟩ := map_eq_ok.mp h
  rw [hb, Option.some.inj hsome]

lemma prepareTree_rewritten {compatible : Option CompatibleSQL} {tree executed : Tree}
    {resolution : Option SQLiteConflictResolution}
    (h : prepareTree libraries conn compatible tree = .ok (.rewritten executed resolution)) :
    ∃ replaced defaults, replaceCallsTree libraries conn tree = some replaced ∧
      rewriteInsertDefaults libraries conn replaced = .ok defaults ∧
      defaults.isSafe = true ∧ executed = defaults.tree := by
  unfold prepareTree at h
  cases hcalls : (unsafeNondeterministicFunctions tree).isEmpty with
  | false => simp [hcalls] at h
  | true =>
    rw [hcalls] at h
    simp only [Bool.not_true, Bool.false_eq_true, if_false] at h
    cases hreplace : replaceSafeNondeterministicFunctions libraries conn tree with
    | none => simp [hreplace] at h
    | some result =>
      obtain ⟨replaced, changed⟩ := result
      obtain ⟨replaced', hreplaced, hpair⟩ := Option.map_eq_some_iff.mp hreplace
      obtain rfl : replaced' = replaced := congrArg Prod.fst hpair
      rw [hreplace] at h
      cases hdefaults : rewriteInsertDefaults libraries conn replaced' with
      | error failure => cases failure <;> simp [hdefaults] at h
      | ok defaults =>
        simp only [hdefaults] at h
        refine ⟨replaced', defaults, hreplaced, hdefaults, ?_, ?_⟩
        · by_contra hsafe
          rw [if_pos (by simpa using hsafe)] at h
          cases h
        · split_ifs at h
          · cases h
          · cases h
          · cases h
          · simp only [Except.ok.injEq, Prepared.rewritten.injEq] at h
            exact h.1.symm

lemma replaceCallsTree_values {this : Target} {rows : List Row} {clauses : List Expression}
    {replaced : Tree}
    (h : replaceCallsTree libraries conn (.insert ⟨this, .values rows, clauses⟩) =
      some replaced) :
    ∃ rows' clauses', replaceCallsRows libraries conn 0 rows = some rows' ∧
      replaceCallsAll libraries conn [1] 0 clauses = some clauses' ∧
      replaced = .insert ⟨this, .values rows', clauses'⟩ := by
  obtain ⟨source, hsource, h⟩ := Option.bind_eq_some_iff.mp h
  obtain ⟨clauses', hclauses, h⟩ := Option.bind_eq_some_iff.mp h
  obtain ⟨rows', hrows, rfl⟩ := Option.map_eq_some_iff.mp hsource
  exact ⟨rows', clauses', hrows, hclauses, (Option.some.inj h).symm⟩

lemma replaceCallsTree_query {this : Target} {query : Expression} {clauses : List Expression}
    {replaced : Tree}
    (h : replaceCallsTree libraries conn (.insert ⟨this, .other query, clauses⟩) =
      some replaced) :
    ∃ query' clauses', replaceCalls libraries conn [0] query = some query' ∧
      replaceCallsAll libraries conn [1] 0 clauses = some clauses' ∧
      replaced = .insert ⟨this, .other query', clauses'⟩ := by
  obtain ⟨source, hsource, h⟩ := Option.bind_eq_some_iff.mp h
  obtain ⟨clauses', hclauses, h⟩ := Option.bind_eq_some_iff.mp h
  obtain ⟨query', hquery, rfl⟩ := Option.map_eq_some_iff.mp hsource
  exact ⟨query', clauses', hquery, hclauses, (Option.some.inj h).symm⟩

lemma rewriteInsertDefaults_query {this : Target} {query : Expression}
    {clauses : List Expression} {defaults : DefaultsRewrite}
    (h : rewriteInsertDefaults libraries conn (.insert ⟨this, .other query, clauses⟩) =
      .ok defaults) (hsafe : defaults.isSafe = true) :
    defaults.tree = .insert ⟨this, .other query, clauses⟩ := by
  unfold rewriteInsertDefaults at h
  cases htable : tableNameFromTarget this with
  | none =>
    simp only [htable, Except.ok.injEq] at h
    rw [← h]
  | some table =>
    simp only [htable] at h
    obtain ⟨columns, -, h⟩ := bind_eq_ok.mp h
    split_ifs at h with hempty
    · simp only [Except.ok.injEq] at h
      rw [← h]
    · simp only [Except.ok.injEq] at h
      rw [← h] at hsafe
      cases hsafe

lemma prepareTree_values {compatible : Option CompatibleSQL} {table : String}
    {list : Option (List Identifier)} {rows : List Row} {clauses : List Expression}
    {executed : Tree} {resolution : Option SQLiteConflictResolution}
    {added : List TableInfoRow}
    (hadded : addedColumns libraries conn table
      (Submitted.explicitNames conn (.values table list rows clauses)) = added)
    (h : prepareTree libraries conn compatible
      (.insert (Submitted.values table list rows clauses).parsed) =
        .ok (.rewritten executed resolution)) :
    ∃ rows' clauses' insert, replaceCallsRows libraries conn 0 rows = some rows' ∧
      replaceCallsAll libraries conn [1] 0 clauses = some clauses' ∧
      executed = .insert insert ∧ insert.clauses = clauses' ∧
      (∃ result, insert.expression = .values result) ∧
      tableNameFromTarget insert.this = some table ∧
      columnRows insert =
        ⟨list.map (· ++ added.map fun column => toIdentifier libraries column.name),
          (rows'.map Row.expressions).mapIdx fun i row =>
            row ++ added.map (defaultLiteral libraries conn i)⟩ ∧
      ∀ i < rows'.length, ∀ column ∈ added, (defaultValue conn i column).isSome := by
  obtain ⟨replaced, defaults, hreplaced, hdefaults, -, rfl⟩ := prepareTree_rewritten h
  have hinsert : (Submitted.values table list rows clauses).parsed =
      ⟨(Submitted.values table list rows clauses).parsed.this, .values rows, clauses⟩ := by
    cases list <;> rfl
  rw [hinsert] at hreplaced
  obtain ⟨rows', clauses', hrows, hclauses, rfl⟩ := replaceCallsTree_values hreplaced
  have htable : tableNameFromTarget (Submitted.values table list rows clauses).parsed.this =
      some table := by cases list <;> rfl
  obtain ⟨result, htree, hresult, hsome⟩ :=
    rewriteInsertDefaults_values libraries conn _ htable hadded hdefaults
  obtain ⟨hname, hcolumns⟩ := append_parsed libraries table list rows result clauses clauses'
    (added_nil_of_list libraries conn (.values table list rows clauses) hadded)
  exact ⟨rows', clauses', _, hrows, hclauses, htree, rfl, ⟨result, rfl⟩, hname,
    by rw [hcolumns, hresult], hsome⟩

variable (reserved : String → Bool) (libraries conn)

/-- A statement that SQLite prepares and that is rewritten. -/
structure Rewrite where
  statement : Statement
  compatible : Option CompatibleSQL
  tree : Tree
  resolution : Option SQLiteConflictResolution
  distinct : ∀ submitted, statement = .insert submitted →
    ((conn.tableInfo submitted.table).map fun column => Identifiers.foldCase column.name).Nodup
  prepares : ∀ submitted, statement = .insert submitted →
    Prepares reserved (conn.tableInfo submitted.table) submitted.original
  prepared_eq : prepared libraries conn compatible statement =
    .ok (some (.rewritten tree resolution))

variable {reserved libraries conn}

namespace Rewrite

variable (rewrite : Rewrite libraries conn reserved)

def added : List TableInfoRow :=
  match rewrite.statement with
  | .insert submitted =>
    addedColumns libraries conn submitted.table (submitted.explicitNames conn)
  | .insertQuery .. | .other _ => []

def defaultChanges (submitted : Submitted) : List (Change Real) :=
  (List.range submitted.original.rows.length).flatMap fun i =>
    rewrite.added.filterMap fun column =>
      (defaultValue conn i column).map fun value => .literal .operand value

def changes : List (Change Real) :=
  match rewrite.statement with
  | .insert (.values table list rows clauses) =>
    rowChanges libraries conn 0 rows ++ changesAll libraries conn [1] 0 clauses ++
      rewrite.defaultChanges (.values table list rows clauses)
  | .insert (.defaultValues table clauses) =>
    rewrite.defaultChanges (.defaultValues table clauses)
  | .insertQuery _ query clauses =>
    Materialization.changes libraries conn .operand [0] query ++
      changesAll libraries conn [1] 0 clauses
  | .other expression => Materialization.changes libraries conn .operand [] expression

/-- The executed statement prepares. -/
def ExecutedPrepares : Prop :=
  match rewrite.statement with
  | .insert submitted =>
    ∃ insert, rewrite.tree = .insert insert ∧
      Prepares reserved (conn.tableInfo submitted.table) (columnRows insert)
  | .insertQuery .. | .other _ => True

/-- The executed statement stores the values that the calls and defaults returned. -/
structure Preserves : Prop where
  keeps : ∀ change ∈ rewrite.changes, Keeps readReal libraries rewrite.statement.refersTo change
  prepares : rewrite.ExecutedPrepares
  stored : ∀ {Meaning : Type} (semantics : Semantics Real Meaning),
    executedMeaning readReal semantics libraries conn rewrite.statement.refersTo rewrite.tree =
      originalMeaning readReal semantics libraries conn rewrite.statement

/-- Every value put into the statement is read back from its literal, and no integer becomes a
column number of ORDER BY or GROUP BY. -/
def ValuesReadBack : Prop :=
  ∀ slot value, .literal slot value ∈ rewrite.changes → ReadsBack readReal libraries value ∧
    ¬ ∃ n, value = .integer n ∧ slot.isNumber n = true

/-- A reference to a column that is named by its text finds that column alone. -/
def ColumnsFound : Prop :=
  ∀ text rendered, .name text rendered ∈ rewrite.changes →
    rewrite.statement.refersTo text = true ∨ rewrite.statement.refersTo rendered = true →
      rendered.map Char.toLower = text.map Char.toLower

/-- No added column is named by a reserved word that is left unquoted. -/
def NamesReadable : Prop :=
  ∀ column ∈ rewrite.added, libraries.safeIdentifier column.name = true →
    reserved column.name = false

lemma mem_defaultChanges {submitted : Submitted} {change : Change Real} :
    change ∈ rewrite.defaultChanges submitted ↔
      ∃ i < submitted.original.rows.length, ∃ column ∈ rewrite.added, ∃ value,
        defaultValue conn i column = some value ∧ change = .literal .operand value := by
  simp only [defaultChanges, List.mem_flatMap, List.mem_range, List.mem_filterMap,
    Option.map_eq_some_iff]
  constructor
  · rintro ⟨i, hi, column, hcolumn, value, hvalue, rfl⟩
    exact ⟨i, hi, column, hcolumn, value, hvalue, rfl⟩
  · rintro ⟨i, hi, column, hcolumn, value, hvalue, rfl⟩
    exact ⟨i, hi, column, hcolumn, value, hvalue, rfl⟩

lemma readsBack_of_keeps {submitted : Submitted}
    (h : ∀ change ∈ rewrite.defaultChanges submitted,
      Keeps readReal libraries referred change) :
    ∀ i < submitted.original.rows.length, ∀ column ∈ rewrite.added, ∀ value,
      defaultValue conn i column = some value → ReadsBack readReal libraries value := by
  intro i hi column hcolumn value hvalue
  have hkeeps := h (.literal .operand value)
    ((mem_defaultChanges rewrite).mpr ⟨i, hi, column, hcolumn, value, hvalue, rfl⟩)
  exact ((keepsLiteral_iff readReal libraries referred .operand value).mp hkeeps).1

variable {rewrite}

lemma prepares_of_grown {submitted : Submitted} {insert : Insert}
    (hstatement : rewrite.statement = .insert submitted) (htree : rewrite.tree = .insert insert)
    (hlist : (columnRows insert).list = submitted.original.list.map
      (· ++ rewrite.added.map fun column => toIdentifier libraries column.name))
    (hrows : ∀ row' ∈ (columnRows insert).rows, ∃ row ∈ submitted.original.rows,
      row'.length = row.length + rewrite.added.length) :
    rewrite.ExecutedPrepares ↔ rewrite.NamesReadable := by
  have hadded : addedColumns libraries conn submitted.table (submitted.explicitNames conn) =
      rewrite.added := by
    simp only [added, hstatement]
  have hiff : Prepares reserved (conn.tableInfo submitted.table) (columnRows insert) ↔
      rewrite.NamesReadable := by
    apply prepares_grown_iff (rewrite.prepares submitted hstatement)
      (added_nil_of_list libraries conn _ hadded) hlist hrows
    intro column hcolumn
    rw [← hadded] at hcolumn
    exact (List.mem_filter.mp hcolumn).1
  rw [← hiff]
  simp only [ExecutedPrepares, hstatement]
  constructor
  · rintro ⟨insert', htree', hprepares⟩
    rw [htree] at htree'
    cases htree'
    exact hprepares
  · intro hprepares
    exact ⟨insert, htree, hprepares⟩

lemma executedPrepares_iff : rewrite.ExecutedPrepares ↔ rewrite.NamesReadable := by
  have hprepared := rewrite.prepared_eq
  cases hstatement : rewrite.statement with
  | insert submitted =>
    rw [hstatement] at hprepared
    have hadded : addedColumns libraries conn submitted.table (submitted.explicitNames conn) =
        rewrite.added := by
      simp only [added, hstatement]
    cases submitted with
    | values table list rows clauses =>
      obtain ⟨rows', clauses', insert, hrows, -, htree, -, -, -, hcolumns, -⟩ :=
        prepareTree_values hadded (ok_of_map_some hprepared)
      refine prepares_of_grown hstatement htree (by rw [hcolumns]; rfl) ?_
      intro row' hrow'
      rw [hcolumns] at hrow'
      obtain ⟨i, hi⟩ := List.mem_iff_getElem?.mp hrow'
      rw [List.getElem?_mapIdx] at hi
      obtain ⟨row, hrow, rfl⟩ := Option.map_eq_some_iff.mp hi
      have hlengths := lengths_replaceCallsRows hrows
      have hlength := congrArg (fun lengths : List ℕ => lengths[i]?) hlengths
      simp only [List.getElem?_map] at hlength hrow
      obtain ⟨replaced, hreplaced, rfl⟩ := Option.map_eq_some_iff.mp hrow
      rw [hreplaced] at hlength
      obtain ⟨original, horiginal, hcount⟩ := Option.map_eq_some_iff.mp hlength.symm
      refine ⟨original.expressions, ?_, by simp [hcount]⟩
      exact List.mem_map_of_mem (List.mem_of_getElem? horiginal)
    | defaultValues table clauses =>
      obtain ⟨result, htree, hresult, -⟩ :=
        prepareDefaultValues_rewritten libraries conn hadded hprepared
      refine prepares_of_grown hstatement htree rfl ?_
      intro row' hrow'
      have hmem : row' ∈ [rewrite.added.map (defaultLiteral libraries conn 0)] := by
        rw [← hresult]
        exact hrow'
      obtain rfl := List.mem_singleton.mp hmem
      exact ⟨[], by simp [Submitted.original], by simp⟩
  | insertQuery this query clauses =>
    refine iff_of_true (by simp [ExecutedPrepares, hstatement]) ?_
    simp [NamesReadable, added, hstatement]
  | other expression =>
    refine iff_of_true (by simp [ExecutedPrepares, hstatement]) ?_
    simp [NamesReadable, added, hstatement]

lemma stored_values {table : String} {list : Option (List Identifier)} {rows : List Row}
    {clauses : List Expression}
    (hstatement : rewrite.statement = .insert (.values table list rows clauses))
    (hkeeps : ∀ change ∈ rewrite.changes,
      Keeps readReal libraries rewrite.statement.refersTo change) :
    executedMeaning readReal semantics libraries conn rewrite.statement.refersTo rewrite.tree =
      originalMeaning readReal semantics libraries conn rewrite.statement := by
  have hprepared := rewrite.prepared_eq
  have hdistinct := rewrite.distinct _ hstatement
  have hprepares := rewrite.prepares _ hstatement
  have hadded : addedColumns libraries conn table
      (Submitted.explicitNames conn (.values table list rows clauses)) = rewrite.added := by
    simp only [added, hstatement]
    rfl
  simp only [changes, hstatement] at hkeeps
  rw [hstatement] at hprepared ⊢
  obtain ⟨rows', clauses', insert, hrows, hclauses, htree, hinsert, ⟨result, hresult⟩, htable,
    hcolumns, hsome⟩ := prepareTree_values hadded (ok_of_map_some hprepared)
  have hcount : rows'.length = rows.length := by
    simpa using congrArg List.length (lengths_replaceCallsRows hrows)
  have hmeaning := meaning_replaceCallsRows readReal semantics hrows fun change hchange =>
    hkeeps change (List.mem_append_left _ (List.mem_append_left _ hchange))
  simp only [Nat.zero_add] at hmeaning
  have hclausesMeaning := meaningAll_replaceCallsAll readReal semantics [1] 0 _ _ hclauses
    fun change hchange => hkeeps change (List.mem_append_left _ (List.mem_append_right _ hchange))
  have hback := readsBack_of_keeps readReal rewrite
    fun change hchange => hkeeps change (List.mem_append_right _ hchange)
  have hlength : (Submitted.values table list rows clauses).original.rows.length =
      rows'.length := by
    rw [hcount]
    exact List.length_map _
  have hstored := storedRows_grown readReal semantics
    (submittedReading libraries conn
      (Statement.insert (.values table list rows clauses)).refersTo)
    (executedReading libraries (Statement.insert (.values table list rows clauses)).refersTo)
    (.values table list rows clauses) (columnRows insert) _ hadded hdistinct
    (fun row hrow => length_of_prepares hprepares hrow) (by rw [hcolumns]; rfl)
    (by rw [hcolumns]) hmeaning (by rw [hlength]; exact hsome) hback
  have htarget : tableNameFromTarget (Submitted.values table list rows clauses).parsed.this =
      some table := by cases list <;> rfl
  have horiginal : columnRows (Submitted.values table list rows clauses).parsed =
      (Submitted.values table list rows clauses).original := by cases list <;> rfl
  have hvalues : (Submitted.values table list rows clauses).parsed.expression =
      .values rows := by cases list <;> rfl
  have hothers : (Submitted.values table list rows clauses).parsed.clauses = clauses := by
    cases list <;> rfl
  rw [htree]
  simp only [executedMeaning, originalMeaning, treeMeaning, hresult, htable, hinsert, htarget,
    hvalues, hothers, horiginal, hclausesMeaning]
  congr 1

lemma stored_defaultValues {table : String} {clauses : List Expression}
    (hstatement : rewrite.statement = .insert (.defaultValues table clauses))
    (hkeeps : ∀ change ∈ rewrite.changes,
      Keeps readReal libraries rewrite.statement.refersTo change) :
    executedMeaning readReal semantics libraries conn rewrite.statement.refersTo rewrite.tree =
      originalMeaning readReal semantics libraries conn rewrite.statement := by
  have hprepared := rewrite.prepared_eq
  have hdistinct := rewrite.distinct _ hstatement
  have hprepares := rewrite.prepares _ hstatement
  have hadded : addedColumns libraries conn table [] = rewrite.added := by
    simp only [added, hstatement]
    rfl
  simp only [changes, hstatement] at hkeeps
  rw [hstatement] at hprepared ⊢
  obtain ⟨result, htree, hresult, hsome⟩ :=
    prepareDefaultValues_rewritten libraries conn hadded hprepared
  have hback := readsBack_of_keeps readReal rewrite hkeeps
  have hstored := storedRows_grown readReal semantics
    (executedReading libraries (Statement.insert (.defaultValues table clauses)).refersTo)
    (executedReading libraries (Statement.insert (.defaultValues table clauses)).refersTo)
    (.defaultValues table clauses)
    ⟨some (rewrite.added.map fun column => toIdentifier libraries column.name),
      [rewrite.added.map (defaultLiteral libraries conn 0)]⟩ [[]]
    hadded hdistinct (fun row hrow => length_of_prepares hprepares hrow) rfl rfl rfl
    (fun i hi column hcolumn => by
      have hzero : i = 0 := by simpa [Submitted.original] using hi
      rw [hzero]
      exact hsome column hcolumn) hback
  rw [htree]
  simp only [executedMeaning, originalMeaning, treeMeaning, tableNameFromTarget, columnRows,
    hresult]
  congr 1

lemma stored_of_keeps (hkeeps : ∀ change ∈ rewrite.changes,
      Keeps readReal libraries rewrite.statement.refersTo change) :
    executedMeaning readReal semantics libraries conn rewrite.statement.refersTo rewrite.tree =
      originalMeaning readReal semantics libraries conn rewrite.statement := by
  have hprepared := rewrite.prepared_eq
  cases hstatement : rewrite.statement with
  | insert submitted =>
    rw [← hstatement]
    cases submitted with
    | values table list rows clauses => exact stored_values readReal semantics hstatement hkeeps
    | defaultValues table clauses =>
      exact stored_defaultValues readReal semantics hstatement hkeeps
  | insertQuery this query clauses =>
    simp only [changes, hstatement] at hkeeps
    rw [hstatement] at hprepared
    obtain ⟨replaced, defaults, hreplaced, hdefaults, hsafe, htree⟩ :=
      prepareTree_rewritten (ok_of_map_some hprepared)
    obtain ⟨query', clauses', hquery, hclauses, rfl⟩ := replaceCallsTree_query hreplaced
    rw [htree, rewriteInsertDefaults_query hdefaults hsafe]
    have hmeaning := meaning_replaceCalls readReal semantics .operand [0] _ _ hquery
      fun change hchange => hkeeps change (List.mem_append_left _ hchange)
    have hothers := meaningAll_replaceCallsAll readReal semantics [1] 0 _ _ hclauses
      fun change hchange => hkeeps change (List.mem_append_right _ hchange)
    simp only [executedMeaning, originalMeaning, treeMeaning, hmeaning, hothers]
  | other expression =>
    simp only [changes, hstatement] at hkeeps
    rw [hstatement] at hprepared
    obtain ⟨replaced, defaults, hreplaced, hdefaults, -, htree⟩ :=
      prepareTree_rewritten (ok_of_map_some hprepared)
    obtain ⟨expression', hexpression, rfl⟩ := Option.map_eq_some_iff.mp hreplaced
    have hdefaults' : defaults.tree = .other expression' := by
      have hunchanged : (⟨true, .other expression', false⟩ : DefaultsRewrite) = defaults :=
        Except.ok.inj hdefaults
      rw [← hunchanged]
    have hmeaning := meaning_replaceCalls readReal semantics .operand [] _ _ hexpression hkeeps
    rw [htree, hdefaults']
    simp only [executedMeaning, originalMeaning, treeMeaning, hmeaning]

variable (rewrite)

end Rewrite

end

def plainLibraries : Libraries Empty where
  parseOne _ := .parseError
  render _ := []
  renderExpression _ := []
  safeIdentifier _ := true
  strFloat _ := []

/-- `CREATE TABLE t (token)`; every call returns `x'00ff'`. -/
def tokenTable : Connection Empty where
  tableInfo _ := [⟨"token", none⟩]
  evaluate _ _ := some (.blob [0, 255])

/-- `INSERT INTO t VALUES (randomblob(2))`, which is executed with the text of a bytes literal. -/
def blobInsert : Rewrite plainLibraries tokenTable (fun _ => false) where
  statement := .insert (.values "t" none
    [.tuple [.anonymous "randomblob" [.literal ['2'] false]]] [])
  compatible := none
  tree := .insert ⟨.table "t", .values [.tuple [.literal (strBytes [0, 255]) true]], []⟩
  resolution := none
  distinct submitted h := by
    cases h
    decide
  prepares submitted h := by
    cases h
    intro row hrow
    obtain rfl := List.mem_singleton.mp hrow
    rfl
  prepared_eq := by rfl

end SqliteReconcile.Materialization
