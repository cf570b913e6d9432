import SqliteReconcile.TransactionTexts

/-!
# What the log writes change for the application

The same statements on a plain connection and through the wrapper. The log rows are inserted
on the user's connection and change what `last_insert_rowid()`, `changes()` and
`total_changes()` return.
-/
namespace SqliteReconcile.LogTransparency
open Savepoints SqlTokens StatementLogging TransactionTexts
open Wrapper (LogEntry LogTables Outcome)

inductive Counter
  | lastInsertRowid
  | changes
  | totalChanges
  deriving DecidableEq

structure Counters where
  lastInsertRowid : ℤ
  changes : ℤ
  totalChanges : ℤ
  deriving DecidableEq

def Counters.value (counters : Counters) : Counter → ℤ
  | .lastInsertRowid => counters.lastInsertRowid
  | .changes => counters.changes
  | .totalChanges => counters.totalChanges

def AgreeOn (read : List Counter) (left right : Counters) : Prop :=
  ∀ counter ∈ read, left.value counter = right.value counter

/-- The result of an execute call; `raised` before the statement is executed. -/
inductive Result
  | rows (rows : List (List String))
  | error (message : String)
  | raised (raised : Raised)
  deriving DecidableEq

/-- What a DML statement does: the tables after it, also when it fails, and the counters that
it sets. A statement that is not run sets none. -/
structure Answer (D : Type*) where
  tables : D
  result : Result
  /-- An error that rolls the transaction back, as OR ROLLBACK does. -/
  rollsBack : Bool
  changes : Option ℕ
  /-- The changed rows, those of triggers included. -/
  total : ℕ
  rowid : Option ℤ

/-- The counters that are set, whatever they were. -/
def Answer.sets {D : Type*} (answer : Answer D) : Counter → Bool
  | .lastInsertRowid => answer.rowid.isSome
  | .changes => answer.changes.isSome
  | .totalChanges => false

/-- A SELECT, and the counters that it reads. -/
structure Query (D : Type*) where
  reads : List Counter
  rows : Counters → D → Result
  depends : ∀ left right tables, AgreeOn reads left right → rows left tables = rows right tables

/-- A DML statement, and the counter functions that it calls. -/
structure Dml (D : Type*) where
  calls : List Counter
  exec : Counters → D → Answer D
  depends : ∀ left right tables, AgreeOn calls left right → exec left tables = exec right tables

/-- SQLite on user tables of type `D`. It reads the tokens of a text. -/
structure Engine (D : Type*) where
  query : List Token → Query D
  dml : List Token → Dml D
  /-- A deferred constraint that fails when a transaction is committed. -/
  commitError : D → Option String

variable {D : Type*}

/-- The committed tables, and the savepoints of an open transaction over its tables; its flag
says that BEGIN opened it. -/
structure Database (D : Type*) where
  committed : D
  transaction : Option (Bool × Stack (List Char) D)

namespace Database

def tables (db : Database D) : D :=
  match db.transaction with
  | none => db.committed
  | some (_, stack) => stack.current

def withTables (db : Database D) (tables : D) : Database D :=
  match db.transaction with
  | none => { db with committed := tables }
  | some (begun, stack) => { db with transaction := some (begun, stack.set tables) }

def commit (engine : Engine D) (tables : D) : Except String (Database D) :=
  match engine.commitError tables with
  | some message => .error message
  | none => .ok ⟨tables, none⟩

def noSavepoint (name : List Char) : String := "no such savepoint: " ++ String.ofList name

def control (engine : Engine D) (db : Database D) : Control → Except String (Database D)
  | .begin =>
    match db.transaction with
    | none => .ok { db with transaction := some (true, Stack.new db.committed) }
    | some _ => .error "cannot start a transaction within a transaction"
  | .commit =>
    match db.transaction with
    | none => .error "cannot commit - no transaction is active"
    | some (_, stack) => commit engine stack.current
  | .rollback =>
    match db.transaction with
    | none => .error "cannot rollback - no transaction is active"
    | some _ => .ok { db with transaction := none }
  | .savepoint name =>
    let (begun, stack) := db.transaction.getD (false, Stack.new db.committed)
    .ok { db with transaction := some (begun, stack.save (fold name)) }
  | .release name =>
    match db.transaction with
    | none => .error (noSavepoint name)
    | some (begun, stack) =>
      match stack.release (fold name) with
      | none => .error (noSavepoint name)
      | some released =>
        if begun || !released.saved.isEmpty then
          .ok { db with transaction := some (begun, released) }
        else commit engine released.current
  | .rollbackTo name =>
    match db.transaction with
    | none => .error (noSavepoint name)
    | some (begun, stack) =>
      match stack.rollbackTo (fold name) with
      | none => .error (noSavepoint name)
      | some restored => .ok { db with transaction := some (begun, restored) }

end Database

structure Connection (D : Type*) where
  db : Database D
  counters : Counters

def Connection.new (tables : D) : Connection D := ⟨⟨tables, none⟩, ⟨0, 0, 0⟩⟩

/-- An executed statement, and the counters that it has set. -/
structure Executed (D : Type*) where
  result : Result
  conn : Connection D
  set : Counter → Bool

namespace Connection

def answer (conn : Connection D) (answer : Answer D) : Executed D where
  result := answer.result
  conn :=
    { db :=
        if answer.rollsBack then { conn.db with transaction := none }
        else conn.db.withTables answer.tables
      counters :=
        { lastInsertRowid := answer.rowid.getD conn.counters.lastInsertRowid
          changes := (answer.changes.map Int.ofNat).getD conn.counters.changes
          totalChanges := conn.counters.totalChanges + answer.total } }
  set := answer.sets

def execute (engine : Engine D) (conn : Connection D) (tokens : List Token) : Executed D :=
  match controlOf tokens, statementOf tokens with
  | some control, _ =>
    match conn.db.control engine control with
    | .error message => ⟨.error message, conn, fun _ => false⟩
    | .ok db => ⟨.rows [], { conn with db := db }, fun _ => false⟩
  | none, some .query => ⟨(engine.query tokens).rows conn.counters conn.db.tables, conn, fun _ => false⟩
  | none, some (.dml _) =>
    conn.answer ((engine.dml tokens).exec conn.counters conn.db.tables)
  | none, none => ⟨.error "syntax error", conn, fun _ => false⟩

end Connection

/-- The inserts of `_write`: a transaction row, and a log row at the end. -/
def Counters.afterLog (counters : Counters) (before after : LogTables) : Counters :=
  if after = before then counters
  else
    { lastInsertRowid := after.rows.length
      changes := 1
      totalChanges := counters.totalChanges + 1 + (after.rows.length - before.rows.length) }

/-- The wrapper on its connection. `stale` are the counters whose last change was made by a
log insert; a total stays stale. -/
structure Wrapped (D : Type*) where
  conn : Connection D
  wrapper : TextWrapper
  stale : Counter → Bool

def Wrapped.new (log : LogTables) (tables : D) : Wrapped D :=
  ⟨Connection.new tables, TextWrapper.new log, fun _ => false⟩

def executeSqlForEntry (entry : Option LogEntry) (sql : List Char) : List Char :=
  match entry with
  | some entry => if entry.isReplaySafe then entry.toReplaySqlText.toList else sql
  | none => sql

section

variable (engine : Engine D) (unicode : Unicode) (parse : List Char → Parsed)
  (prepare : Connection D → List Char → Except Raised LogEntry)

def Wrapped.entry (s : Wrapped D) (sql : List Char) : Except Raised (Option LogEntry) :=
  entryForExecute unicode parse (prepare s.conn) (strip sql)

/-- What the connection does in a call. -/
def Wrapped.executed (s : Wrapped D) (sql : List Char) : Executed D :=
  match s.entry unicode parse prepare sql with
  | .error raised => ⟨.raised raised, s.conn, fun _ => false⟩
  | .ok entry => s.conn.execute engine (tokens (executeSqlForEntry entry (strip sql)))

def outcomeOf (before : Connection D) (executed : Executed D) : Outcome :=
  match executed.result with
  | .rows _ => .ok
  | .error message =>
    .error message (executed.conn.counters.totalChanges ≠ before.counters.totalChanges)
  | .raised _ => .error "" false

/-- The wrapper after a call; a call that raises before it executes anything leaves it as it
is. -/
def Wrapped.wrapperAfter (s : Wrapped D) (sql : List Char) : TextWrapper :=
  let executed := s.executed engine unicode parse prepare sql
  match s.entry unicode parse prepare sql with
  | .error _ => s.wrapper
  | .ok entry => s.wrapper.executeOn unicode sql entry (outcomeOf s.conn executed)
      executed.conn.db.transaction.isSome

/-- One execute call of the wrapper. -/
def Wrapped.execute (s : Wrapped D) (sql : List Char) : Wrapped D :=
  let executed := s.executed engine unicode parse prepare sql
  let wrapper := s.wrapperAfter engine unicode parse prepare sql
  { conn :=
      { executed.conn with
        counters := executed.conn.counters.afterLog s.wrapper.base.log wrapper.base.log }
    wrapper := wrapper
    stale := fun counter =>
      if wrapper.base.log = s.wrapper.base.log then s.stale counter && !executed.set counter
      else true }

/-- What the application sees: the result of each statement and the tables after it. -/
def plainRun (conn : Connection D) : List (List Char) → List (Result × D)
  | [] => []
  | sql :: rest =>
    let executed := conn.execute engine (tokens sql)
    (executed.result, executed.conn.db.tables) :: plainRun executed.conn rest

def wrappedRun (s : Wrapped D) : List (List Char) → List (Result × D)
  | [] => []
  | sql :: rest =>
    let after := s.execute engine unicode parse prepare sql
    ((s.executed engine unicode parse prepare sql).result, after.conn.db.tables) ::
      wrappedRun after rest

/-- The call has an entry, and the text that is executed for it does on this connection what the
statement does there. -/
def ExecutesAlike (s : Wrapped D) (sql : List Char) : Prop :=
  ∃ entry, s.entry unicode parse prepare sql = .ok entry ∧
    s.conn.execute engine (tokens (executeSqlForEntry entry (strip sql))) =
      s.conn.execute engine (tokens (strip sql))

/-- The statement reads no stale counter, its text is executed or one that does the same, and
Python strips nothing that SQLite reads. -/
structure ReadsFresh (s : Wrapped D) (sql : List Char) : Prop where
  strips : tokens (strip sql) = tokens sql
  query : controlOf (tokens sql) = none → statementOf (tokens sql) = some .query →
    ∀ counter ∈ (engine.query (tokens sql)).reads, s.stale counter = false
  dml : ∀ target, controlOf (tokens sql) = none → statementOf (tokens sql) = some (.dml target) →
    ∀ counter ∈ (engine.dml (tokens sql)).calls, s.stale counter = false
  executes : ExecutesAlike engine unicode parse prepare s sql

/-- Every statement of a run reads fresh counters. -/
def RunReadsFresh (s : Wrapped D) : List (List Char) → Prop
  | [] => True
  | sql :: rest =>
    ReadsFresh engine unicode parse prepare s sql ∧
      RunReadsFresh (s.execute engine unicode parse prepare sql) rest

end

section

variable {engine : Engine D} {unicode : Unicode} {parse : List Char → Parsed}
  {prepare : Connection D → List Char → Except Raised LogEntry} {stale : Counter → Bool}
  {plain wrapped : Connection D}

/-- The plain connection and the wrapped one: the same tables, and the same values of the
counters that are not stale. -/
structure Alike (stale : Counter → Bool) (plain wrapped : Connection D) : Prop where
  db : plain.db = wrapped.db
  counters : ∀ counter, stale counter = false →
    plain.counters.value counter = wrapped.counters.value counter

lemma Alike.agreeOn (h : Alike stale plain wrapped) {read : List Counter}
    (hread : ∀ counter ∈ read, stale counter = false) :
    AgreeOn read plain.counters wrapped.counters :=
  fun counter hmem => h.counters counter (hread counter hmem)

lemma Alike.answer (h : Alike stale plain wrapped) (answer : Answer D) :
    Alike (fun counter => stale counter && !answer.sets counter) (plain.answer answer).conn
      (wrapped.answer answer).conn := by
  refine ⟨?_, fun counter hfresh => ?_⟩
  · simp only [Connection.answer]
    rw [h.db]
  · simp only [Bool.and_eq_false_iff, Bool.not_eq_false'] at hfresh
    cases counter with
    | lastInsertRowid =>
      cases hrowid : answer.rowid with
      | some rowid => simp [Connection.answer, Counters.value, hrowid]
      | none =>
        have hsame := h.counters .lastInsertRowid (by simpa [Answer.sets, hrowid] using hfresh)
        simpa [Connection.answer, Counters.value, hrowid] using hsame
    | changes =>
      cases hchanges : answer.changes with
      | some changes => simp [Connection.answer, Counters.value, hchanges]
      | none =>
        have hsame := h.counters .changes (by simpa [Answer.sets, hchanges] using hfresh)
        simpa [Connection.answer, Counters.value, hchanges] using hsame
    | totalChanges =>
      have hsame := h.counters .totalChanges (by simpa [Answer.sets] using hfresh)
      simpa [Connection.answer, Counters.value] using hsame

lemma Alike.of_set_nothing (h : Alike stale plain wrapped) :
    Alike (fun counter => stale counter && !false) plain wrapped :=
  ⟨h.db, fun counter hfresh => h.counters counter (by simpa using hfresh)⟩

lemma Alike.execute {s : Wrapped D} {sql : List Char} (h : Alike s.stale plain s.conn)
    (hfresh : ReadsFresh engine unicode parse prepare s sql) :
    (plain.execute engine (tokens sql)).result =
        (s.executed engine unicode parse prepare sql).result ∧
      Alike (fun counter => s.stale counter &&
          !(s.executed engine unicode parse prepare sql).set counter)
        (plain.execute engine (tokens sql)).conn
        (s.executed engine unicode parse prepare sql).conn := by
  obtain ⟨entry, hentry, hsame⟩ := hfresh.executes
  have hexecuted : s.executed engine unicode parse prepare sql =
      s.conn.execute engine (tokens sql) := by
    rw [Wrapped.executed, hentry, ← hfresh.strips]
    exact hsame
  rw [hexecuted]
  unfold Connection.execute
  cases hcontrol : controlOf (tokens sql) with
  | some control =>
    dsimp only
    rw [h.db]
    cases s.conn.db.control engine control with
    | error message => exact ⟨rfl, h.of_set_nothing⟩
    | ok db =>
      refine ⟨rfl, rfl, fun counter hstale => ?_⟩
      exact h.counters counter (by simpa using hstale)
  | none =>
    cases hstatement : statementOf (tokens sql) with
    | none => exact ⟨rfl, h.of_set_nothing⟩
    | some statement =>
      cases statement with
      | query =>
        refine ⟨?_, h.of_set_nothing⟩
        dsimp only
        rw [h.db]
        apply (engine.query (tokens sql)).depends
        exact h.agreeOn (hfresh.query hcontrol hstatement)
      | dml target =>
        have hcalls := hfresh.dml target hcontrol hstatement
        dsimp only
        rw [h.db, (engine.dml (tokens sql)).depends _ _ s.conn.db.tables (h.agreeOn hcalls)]
        exact ⟨rfl, h.answer _⟩

/-- The log inserts make every counter stale, and leave the tables alone. -/
lemma Alike.step {s : Wrapped D} {sql : List Char} (h : Alike s.stale plain s.conn)
    (hfresh : ReadsFresh engine unicode parse prepare s sql) :
    Alike (s.execute engine unicode parse prepare sql).stale
      (plain.execute engine (tokens sql)).conn
      (s.execute engine unicode parse prepare sql).conn := by
  obtain ⟨-, hdb, hcounters⟩ := h.execute hfresh
  refine ⟨hdb, fun counter hstale => ?_⟩
  simp only [Wrapped.execute] at hstale ⊢
  split_ifs at hstale with hlog
  rw [hlog, Counters.afterLog, if_pos rfl]
  exact hcounters counter hstale

end

/-! Inserts into a table of numbers, of the number in the text and of the one after the last
rowid. -/

def appendNumber (number : ℤ) (tables : List ℤ) : Answer (List ℤ) :=
  ⟨tables ++ [number], .rows [], false, some 1, 1, some number⟩

def insertNumber (number : ℤ) : Dml (List ℤ) where
  calls := []
  exec _ := appendNumber number
  depends _ _ _ _ := rfl

def insertNext : Dml (List ℤ) where
  calls := [.lastInsertRowid]
  exec counters := appendNumber (counters.lastInsertRowid + 1)
  depends left right tables h := by
    have hsame : left.lastInsertRowid = right.lastInsertRowid := h .lastInsertRowid (by simp)
    rw [hsame]

def selectAll : Query (List ℤ) where
  reads := []
  rows _ tables := .rows (tables.map fun number => [toString number])
  depends _ _ _ _ := rfl

def callsRowid (tokens : List Token) : Bool := tokens.any (·.isKeyword "last_insert_rowid")

def sevenText : List Char := "INSERT INTO t VALUES (7)".toList

def nextText : List Char := "INSERT INTO t VALUES (last_insert_rowid() + 1)".toList

/-- `nextText` with the literal of a rowid in place of the call. -/
def materializedText (rowid : ℤ) : List Char :=
  ("INSERT INTO t VALUES (" ++ toString rowid ++ " + 1)").toList

def numbers : Engine (List ℤ) where
  query _ := selectAll
  dml found :=
    if callsRowid found then insertNext
    else if found = tokens (materializedText 1) then insertNumber 2
    else if found = tokens (materializedText 7) then insertNumber 8
    else insertNumber 7
  commitError _ := none

def prepareNumbers (conn : Connection (List ℤ)) (sql : List Char) : Except Raised LogEntry :=
  let replay :=
    if callsRowid (tokens sql) then materializedText conn.counters.lastInsertRowid else sql
  .ok ⟨String.ofList sql, String.ofList replay, true, none⟩

def wrappedNumbers : Wrapped (List ℤ) := Wrapped.new Wrapper.emptyLog []

lemma readsFresh_control {s : Wrapped (List ℤ)} {sql : List Char} {control : Control}
    (hstrips : strip sql = sql) (hcontrol : controlOf (tokens sql) = some control)
    (hlogs : shouldLog asciiUnicode parsedInsert sql = .ok false) :
    ReadsFresh numbers asciiUnicode parsedInsert prepareNumbers s sql := by
  refine ⟨by rw [hstrips], fun hnone => ?_, fun _ hnone => ?_, none, ?_, rfl⟩
  · rw [hcontrol] at hnone
    cases hnone
  · rw [hcontrol] at hnone
    cases hnone
  · rw [Wrapped.entry, hstrips, entryForExecute, hlogs]
    rfl

lemma executed_insert {s : Wrapped (List ℤ)} {sql : List Char} (hstrips : strip sql = sql)
    (hlogs : shouldLog asciiUnicode parsedInsert sql = .ok true) :
    ∃ entry, s.entry asciiUnicode parsedInsert prepareNumbers sql = .ok entry ∧
      executeSqlForEntry entry (strip sql) =
        if callsRowid (tokens sql) then materializedText s.conn.counters.lastInsertRowid
        else sql := by
  rw [Wrapped.entry, hstrips, entryForExecute, hlogs]
  refine ⟨_, rfl, ?_⟩
  simp [executeSqlForEntry, hstrips]

lemma readsFresh_insert {s : Wrapped (List ℤ)} {sql target : List Char}
    (hstrips : strip sql = sql) (hinsert : statementOf (tokens sql) = some (.dml target))
    (hlogs : shouldLog asciiUnicode parsedInsert sql = .ok true)
    (hfresh : s.stale .lastInsertRowid = false)
    (hexecutes : callsRowid (tokens sql) = true →
      s.conn.execute numbers (tokens (materializedText s.conn.counters.lastInsertRowid)) =
        s.conn.execute numbers (tokens sql)) :
    ReadsFresh numbers asciiUnicode parsedInsert prepareNumbers s sql := by
  obtain ⟨entry, hentry, htext⟩ := executed_insert (s := s) hstrips hlogs
  refine ⟨by rw [hstrips], fun _ hquery => ?_, fun _ _ _ counter hcounter => ?_, entry, hentry,
    ?_⟩
  · rw [hinsert] at hquery
    cases hquery
  · have hcalls : counter ∈ insertNext.calls := by
      simp only [numbers] at hcounter
      split_ifs at hcounter
      · exact hcounter
      · cases hcounter
      · cases hcounter
      · cases hcounter
    rwa [List.mem_singleton.mp hcalls]
  · rw [htext, hstrips]
    split_ifs with hcalls
    · exact hexecutes hcalls
    · rfl

lemma execute_insert {conn : Connection (List ℤ)} {found : List Token} {target : List Char}
    (hcontrol : controlOf found = none) (hinsert : statementOf found = some (.dml target)) :
    conn.execute numbers found =
      conn.answer ((numbers.dml found).exec conn.counters conn.db.tables) := by
  unfold Connection.execute
  rw [hcontrol, hinsert]

/-- After the rowid 7 the literal does what the call does. -/
lemma execute_materialized {conn : Connection (List ℤ)}
    (hrowid : conn.counters.lastInsertRowid = 7) :
    conn.execute numbers (tokens (materializedText conn.counters.lastInsertRowid)) =
      conn.execute numbers (tokens nextText) := by
  have hliteral : numbers.dml (tokens (materializedText 7)) = insertNumber 8 := by
    have hcalls : callsRowid (tokens (materializedText 7)) = false := by decide +kernel
    have hother : tokens (materializedText 7) ≠ tokens (materializedText 1) := by decide +kernel
    simp [numbers, hcalls, hother]
  have hcall : numbers.dml (tokens nextText) = insertNext := by
    have hcalls : callsRowid (tokens nextText) = true := by decide +kernel
    simp [numbers, hcalls]
  have hinserts : ∀ text ∈ [materializedText 7, nextText],
      controlOf (tokens text) = none ∧ statementOf (tokens text) = some (.dml ['t']) := by
    decide +kernel
  obtain ⟨hcontrol, hinsert⟩ := hinserts (materializedText 7) (by simp)
  obtain ⟨hcontrol', hinsert'⟩ := hinserts nextText (by simp)
  rw [hrowid, execute_insert hcontrol hinsert, execute_insert hcontrol' hinsert', hliteral, hcall]
  simp [insertNumber, insertNext, hrowid]

def transactionTexts : List (List Char) :=
  ["BEGIN".toList, sevenText, nextText, "COMMIT".toList]

end SqliteReconcile.LogTransparency
