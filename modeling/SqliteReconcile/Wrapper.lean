import SqliteReconcile.Identifiers
import SqliteReconcile.Savepoints

/-!
# The logging connection wrapper

SQLite's transaction and savepoint stack over the effects of the executed statements, the
wrapper's own buffer and savepoint list over it, and the log rows it writes.
-/
namespace SqliteReconcile.Wrapper
open Identifiers Savepoints

structure LogEntry where
  originalSqlText : String
  toReplaySqlText : String
  isReplaySafe : Bool
  replayBlockReason : Option String
  deriving DecidableEq

def isNameChar (c : Char) : Bool := c.isAlphanum || c == '_'

/-- A savepoint name in canonical spelling: an unquoted ASCII identifier. -/
structure SavepointName where
  text : String
  canonical : text ≠ "" ∧ ∀ c ∈ text.toList, isNameChar c

/-- One public execute call. `dml` carries the log entry prepared for the statement. -/
inductive Call
  | begin
  | commit
  | rollback
  | savepoint (name : SavepointName)
  | release (name : SavepointName)
  | rollbackTo (name : SavepointName)
  | dml (entry : LogEntry)

/-- How SQLite answers a call; `changed` says whether `total_changes` moved. -/
inductive Outcome
  | ok
  | error (message : String) (changed : Bool)

/-- What one DML statement left in the database: the whole statement, or the part of it
that an error kept. -/
structure Effect where
  entry : LogEntry
  error : Option String
  deriving DecidableEq

/-- One committed transaction, and the first error raised while it was open. -/
structure Group where
  effects : List Effect
  error : Option String
  deriving DecidableEq

/-- An open transaction. `begun` is false when its outermost savepoint opened it. -/
structure OpenTransaction where
  begun : Bool
  stack : Stack (List Char) (List Effect)
  error : Option String

structure Connection where
  committed : List Group
  transaction : Option OpenTransaction

namespace Connection

def new : Connection := ⟨[], none⟩

def inTransaction (conn : Connection) : Bool := conn.transaction.isSome

def commit (conn : Connection) (transaction : OpenTransaction) : Connection :=
  ⟨conn.committed ++ [⟨transaction.stack.current, transaction.error⟩], none⟩

def noteError (conn : Connection) (message : String) : Connection :=
  { conn with
    transaction := conn.transaction.map fun transaction =>
      { transaction with error := transaction.error <|> some message } }

def withStack (conn : Connection) (transaction : OpenTransaction)
    (stack : Stack (List Char) (List Effect)) : Connection :=
  { conn with transaction := some { transaction with stack := stack } }

def addEffect (conn : Connection) (effect : Effect) : Connection :=
  match conn.transaction with
  | none => { conn with committed := conn.committed ++ [⟨[effect], none⟩] }
  | some transaction =>
    conn.withStack transaction
      (transaction.stack.set (transaction.stack.current ++ [effect]))

end Connection

/-- What SQLite may do with a call. -/
inductive Step : Connection → Call → Outcome → Connection → Prop
  | begin {conn} : conn.transaction = none →
    Step conn .begin .ok { conn with transaction := some ⟨true, Stack.new [], none⟩ }
  | commit {conn transaction} : conn.transaction = some transaction →
    Step conn .commit .ok (conn.commit transaction)
  | rollback {conn transaction} : conn.transaction = some transaction →
    Step conn .rollback .ok { conn with transaction := none }
  | savepoint {conn transaction name} : conn.transaction = some transaction →
    Step conn (.savepoint name) .ok
      (conn.withStack transaction (transaction.stack.save (foldCase name.text)))
  | savepointOpens {conn name} : conn.transaction = none →
    Step conn (.savepoint name) .ok
      { conn with
        transaction := some ⟨false, (Stack.new []).save (foldCase name.text), none⟩ }
  | release {conn transaction stack name} : conn.transaction = some transaction →
    transaction.stack.release (foldCase name.text) = some stack →
    (transaction.begun ∨ stack.saved ≠ []) →
    Step conn (.release name) .ok (conn.withStack transaction stack)
  | releaseCommits {conn transaction stack name} : conn.transaction = some transaction →
    transaction.stack.release (foldCase name.text) = some stack →
    transaction.begun = false → stack.saved = [] →
    Step conn (.release name) .ok (conn.commit transaction)
  | rollbackTo {conn transaction stack name} : conn.transaction = some transaction →
    transaction.stack.rollbackTo (foldCase name.text) = some stack →
    Step conn (.rollbackTo name) .ok (conn.withStack transaction stack)
  | dml {conn entry} : Step conn (.dml entry) .ok (conn.addEffect ⟨entry, none⟩)
  /-- The call fails and changes nothing. -/
  | fails {conn call message} : Step conn call (.error message false) (conn.noteError message)
  /-- The statement fails and keeps the rows it had changed, as OR FAIL does. -/
  | failsPartially {conn entry message} :
    Step conn (.dml entry) (.error message true)
      ((conn.addEffect ⟨entry, some message⟩).noteError message)
  /-- The error rolls the whole transaction back, as OR ROLLBACK does. -/
  | failsAndRollsBack {conn transaction call message changed} :
    conn.transaction = some transaction →
    Step conn call (.error message changed) { conn with transaction := none }

def executionErrorReason : String := "statement raised an execution error"

/-- The log tables: the last transaction id, and the log rows by transaction id. -/
structure LogTables where
  lastTransactionId : ℕ
  rows : List (ℕ × LogEntry)
  deriving DecidableEq

structure SQLiteWrapper where
  inTransaction : Bool
  buffer : List LogEntry
  /-- Names and buffer lengths, the most recent first. -/
  savepoints : List (SavepointName × ℕ)
  transactionErrorReason : Option String
  log : LogTables

namespace SQLiteWrapper

def new (log : LogTables) : SQLiteWrapper := ⟨false, [], [], none, log⟩

def begin (w : SQLiteWrapper) : SQLiteWrapper :=
  { w with inTransaction := true, buffer := [], savepoints := [], transactionErrorReason := none }

def discard (w : SQLiteWrapper) : SQLiteWrapper :=
  { w with inTransaction := false, buffer := [], savepoints := [], transactionErrorReason := none }

def write (w : SQLiteWrapper) (statements : List LogEntry) : SQLiteWrapper :=
  let txId := w.log.lastTransactionId + 1
  { w with log := ⟨txId, w.log.rows ++ statements.map (txId, ·)⟩ }

/-- The block reason of an entry, when it has a non-empty one. -/
def ownReason (entry : LogEntry) : Option String := entry.replayBlockReason.filter (· ≠ "")

/-- Block automatic replay of an entry, with a reason unless it has its own. -/
def blockReplay (reason : String) (entry : LogEntry) : LogEntry :=
  { entry with
    isReplaySafe := false
    replayBlockReason := some ((ownReason entry).getD reason) }

/-- Write buffered statements after their transaction commits. -/
def flush (w : SQLiteWrapper) : SQLiteWrapper :=
  (if w.buffer = [] then w
    else match w.transactionErrorReason with
      | none => w.write w.buffer
      | some reason => w.write (w.buffer.map (blockReplay reason))).discard

def savepoint (w : SQLiteWrapper) (name : SavepointName) : SQLiteWrapper :=
  let w := if w.inTransaction then w else w.begin
  { w with savepoints := (name, w.buffer.length) :: w.savepoints }

def releaseSavepoint (w : SQLiteWrapper) (connInTransaction : Bool) : SQLiteWrapper :=
  let w := { w with savepoints := w.savepoints.tail }
  if w.inTransaction && !connInTransaction then w.flush else w

def rollbackToSavepoint (w : SQLiteWrapper) (name : SavepointName) : SQLiteWrapper :=
  match w.savepoints.dropWhile (fun sp => upperCase sp.1.text ≠ upperCase name.text) with
  | [] => w
  | (spName, bufIdx) :: rest =>
    { w with buffer := w.buffer.take bufIdx, savepoints := (spName, bufIdx) :: rest }

def markTransactionError (w : SQLiteWrapper) (error : String) : SQLiteWrapper :=
  if !w.inTransaction then w
  else
    { w with
      transactionErrorReason :=
        w.transactionErrorReason <|> some (executionErrorReason ++ ": " ++ error) }

def entryWithExecutionError (entry : LogEntry) (error : String) : LogEntry :=
  let reason := executionErrorReason ++ ": " ++ error
  { entry with
    isReplaySafe := false
    replayBlockReason := some (match ownReason entry with
      | none => reason
      | some own => own ++ "; " ++ reason) }

def recordEffectfulEntry (w : SQLiteWrapper) (entry : LogEntry) : SQLiteWrapper :=
  if w.inTransaction then { w with buffer := w.buffer ++ [entry] } else w.write [entry]

/-- One execute call, after SQLite answered it. -/
def executeOn (w : SQLiteWrapper) (call : Call) (outcome : Outcome) (connInTransaction : Bool) :
    SQLiteWrapper :=
  match outcome with
  | .error message changed =>
    if w.inTransaction && !connInTransaction then w.discard
    else
      let w := match call, changed with
        | .dml entry, true => w.recordEffectfulEntry (entryWithExecutionError entry message)
        | _, _ => w
      w.markTransactionError message
  | .ok =>
    match call with
    | .begin => w.begin
    | .commit => w.flush
    | .rollbackTo name => w.rollbackToSavepoint name
    | .rollback => w.discard
    | .savepoint name => w.savepoint name
    | .release _ => w.releaseSavepoint connInTransaction
    | .dml entry => w.recordEffectfulEntry entry

end SQLiteWrapper

open SQLiteWrapper

/-- The log entry of an effect; the effect of a failed statement is marked unsafe. -/
def Effect.logEntry (effect : Effect) : LogEntry :=
  match effect.error with
  | none => effect.entry
  | some message => entryWithExecutionError effect.entry message

/-- The log entries of a committed transaction, all unsafe when an error was raised in it. -/
def Group.logEntries (group : Group) : List LogEntry :=
  match group.error with
  | none => group.effects.map Effect.logEntry
  | some message =>
    (group.effects.map Effect.logEntry).map (blockReplay (executionErrorReason ++ ": " ++ message))

/-- Log a committed transaction under a fresh id, if it has effects. -/
def logGroup (log : LogTables) (group : Group) : LogTables :=
  if group.logEntries = [] then log
  else
    { lastTransactionId := log.lastTransactionId + 1
      rows := log.rows ++ group.logEntries.map (log.lastTransactionId + 1, ·) }

/-- The log tables that the committed transactions call for. -/
def committedLog (log : LogTables) (conn : Connection) : LogTables :=
  conn.committed.foldl logGroup log

/-- Calls executed one after another through the wrapper, each step satisfying `P`. -/
inductive Run (P : Connection → SQLiteWrapper → Call → Outcome → Prop) (log : LogTables) :
    Connection → SQLiteWrapper → Prop
  | start : Run P log Connection.new (SQLiteWrapper.new log)
  | execute {conn w call outcome conn'} : Run P log conn w → Step conn call outcome conn' →
    P conn w call outcome →
    Run P log conn' (w.executeOn call outcome conn'.inTransaction)

/-- A successful RELEASE ends the transaction, or releases just the innermost savepoint of
a connection whose savepoints are all that the wrapper lists, or shares no name between the
savepoints it releases and those that stay open. -/
def ReleasesSafely (conn : Connection) (w : SQLiteWrapper) : Call → Outcome → Prop
  | .release name, .ok => ∀ transaction stack, conn.transaction = some transaction →
    transaction.stack.release (foldCase name.text) = some stack →
    (transaction.begun = false ∧ stack.saved = []) ∨
    (w.savepoints.length = transaction.stack.saved.length ∧
      stack.saved = transaction.stack.saved.tail) ∨
    ∀ released, released ++ stack.saved = transaction.stack.saved →
      ∀ r ∈ released, ∀ s ∈ stack.saved, r.1 ≠ s.1
  | _, _ => True

/-- The wrapper lists every open savepoint with the length of its snapshot. The other
entries of its list are stale: savepoints released before, not named like an open one
that is listed later. -/
inductive SavepointsMatch : List (List Char × List Effect) → List (SavepointName × ℕ) → Prop
  | nil (sps) : SavepointsMatch [] sps
  | opened {s sp saved sps} : s.1 = foldCase sp.1.text → s.2.length = sp.2 →
    SavepointsMatch saved sps → SavepointsMatch (s :: saved) (sp :: sps)
  | stale {sp saved sps} : (∀ s ∈ saved, s.1 ≠ foldCase sp.1.text) →
    SavepointsMatch saved sps → SavepointsMatch saved (sp :: sps)

namespace SavepointsMatch

variable {saved outer released : List (List Char × List Effect)}
  {sps : List (SavepointName × ℕ)}

lemma length_le (h : SavepointsMatch saved sps) : saved.length ≤ sps.length := by
  induction h with
  | nil sps => simp
  | opened _ _ _ ih => simpa using ih
  | stale _ _ ih => exact ih.trans (by simp)

/-- The innermost savepoint of an open name is the same on both sides. -/
lemma innermost (h : SavepointsMatch saved sps) {name : SavepointName}
    {found : List Char × List Effect}
    (hfound : saved.dropWhile (·.1 ≠ foldCase name.text) = found :: outer) :
    ∃ sp rest, sps.dropWhile (fun sp => upperCase sp.1.text ≠ upperCase name.text) = sp :: rest ∧
      found.2.length = sp.2 ∧ SavepointsMatch (found :: outer) (sp :: rest) := by
  induction h with
  | nil sps => simp at hfound
  | @opened s sp saved sps hname hlength hmatch ih =>
    by_cases heq : s.1 = foldCase name.text
    · have hupper : upperCase sp.1.text = upperCase name.text :=
        upperCase_eq_iff.mpr (hname.symm.trans heq)
      rw [List.dropWhile_cons, if_neg (by simp [heq])] at hfound
      obtain ⟨rfl, rfl⟩ := List.cons.inj hfound
      refine ⟨sp, sps, ?_, hlength, .opened hname hlength hmatch⟩
      rw [List.dropWhile_cons, if_neg (by simp [hupper])]
    · have hupper : upperCase sp.1.text ≠ upperCase name.text :=
        fun hu => heq (hname.trans (upperCase_eq_iff.mp hu))
      rw [List.dropWhile_cons, if_pos (by simp [heq])] at hfound
      rw [List.dropWhile_cons, if_pos (by simp [hupper])]
      exact ih hfound
  | @stale sp saved sps hname hmatch ih =>
    have hmem : found ∈ saved := by
      have hs := List.dropWhile_suffix (l := saved) (·.1 ≠ foldCase name.text)
      rw [hfound] at hs
      exact hs.subset List.mem_cons_self
    have hhead : found.1 = foldCase name.text := by
      have hcons : saved.dropWhile (·.1 ≠ foldCase name.text) ≠ [] := by
        rw [hfound]
        exact List.cons_ne_nil _ _
      have hne := List.head_dropWhile_not _ hcons
      simp only [hfound, List.head_cons, ne_eq, decide_eq_false_iff_not, not_not] at hne
      exact hne
    have hupper : upperCase sp.1.text ≠ upperCase name.text :=
      fun hu => hname found hmem (hhead.trans (upperCase_eq_iff.mp hu).symm)
    rw [List.dropWhile_cons, if_pos (by simp [hupper])]
    exact ih hfound

lemma drop (h : SavepointsMatch (released ++ outer) sps)
    (hnames : ∀ r ∈ released, ∀ s ∈ outer, r.1 ≠ s.1) : SavepointsMatch outer sps := by
  generalize hall : released ++ outer = saved at h
  induction h generalizing released with
  | nil sps =>
    rw [(List.append_eq_nil_iff.mp hall).2]
    exact .nil sps
  | @opened s sp saved sps hname hlength hmatch ih =>
    cases released with
    | nil =>
      obtain rfl : outer = s :: saved := hall
      exact .opened hname hlength hmatch
    | cons r released =>
      obtain ⟨rfl, htail⟩ := List.cons.inj hall
      have hrest := ih (fun r' hr' => hnames r' (List.mem_cons_of_mem _ hr')) htail
      refine .stale (fun s hs => ?_) hrest
      rw [← hname]
      exact (hnames r List.mem_cons_self s hs).symm
  | @stale sp saved sps hname hmatch ih =>
    have hrest := ih hnames hall
    refine .stale (fun s hs => hname s ?_) hrest
    rw [← hall]
    exact List.mem_append_right _ hs

lemma pop (h : SavepointsMatch saved sps) :
    SavepointsMatch saved.tail sps.tail ∨ SavepointsMatch saved sps.tail := by
  cases h with
  | nil sps => exact .inl (.nil _)
  | opened _ _ hmatch => exact .inl hmatch
  | stale _ hmatch => exact .inr hmatch

end SavepointsMatch

/-- The wrapper's state inside an open transaction. -/
structure TracksOpen (transaction : OpenTransaction) (w : SQLiteWrapper) : Prop where
  inTransaction : w.inTransaction = true
  buffer : w.buffer = transaction.stack.current.map Effect.logEntry
  growing : Growing transaction.stack
  savepoints : SavepointsMatch transaction.stack.saved w.savepoints
  reason : w.transactionErrorReason =
    transaction.error.map (executionErrorReason ++ ": " ++ ·)

structure TracksClosed (w : SQLiteWrapper) : Prop where
  inTransaction : w.inTransaction = false
  buffer : w.buffer = []
  savepoints : w.savepoints = []
  reason : w.transactionErrorReason = none

structure Tracks (log : LogTables) (conn : Connection) (w : SQLiteWrapper) : Prop where
  log : w.log = committedLog log conn
  opened : ∀ transaction, conn.transaction = some transaction → TracksOpen transaction w
  closed : conn.transaction = none → TracksClosed w

section Steps
variable {log : LogTables} {conn : Connection} {w : SQLiteWrapper}
  {transaction : OpenTransaction}

lemma TracksOpen.flush_log (h : TracksOpen transaction w) :
    w.flush.log = logGroup w.log ⟨transaction.stack.current, transaction.error⟩ := by
  unfold SQLiteWrapper.flush logGroup Group.logEntries
  rw [h.buffer, h.reason]
  dsimp only
  generalize transaction.stack.current.map Effect.logEntry = entries
  cases transaction.error with
  | none =>
    by_cases hempty : entries = []
    · simp [hempty, SQLiteWrapper.discard]
    · simp [hempty, SQLiteWrapper.discard, SQLiteWrapper.write]
  | some message =>
    by_cases hempty : entries = []
    · simp [hempty, SQLiteWrapper.discard]
    · simp [hempty, SQLiteWrapper.discard, SQLiteWrapper.write]

lemma tracksClosed_discard (w : SQLiteWrapper) : TracksClosed w.discard := ⟨rfl, rfl, rfl, rfl⟩

lemma Tracks.close {committed : List Group} {w' : SQLiteWrapper}
    (hlog : w'.log = committedLog log ⟨committed, none⟩) (hclosed : TracksClosed w') :
    Tracks log ⟨committed, none⟩ w' where
  log := hlog
  opened := fun _ hsome => by cases hsome
  closed := fun _ => hclosed

lemma Tracks.keepOpen {committed : List Group} {w' : SQLiteWrapper}
    (hlog : w'.log = committedLog log ⟨committed, none⟩) (hopen : TracksOpen transaction w') :
    Tracks log ⟨committed, some transaction⟩ w' where
  log := hlog
  opened := fun _ hsome => by
    obtain rfl := Option.some.inj hsome
    exact hopen
  closed := fun hnone => by cases hnone

lemma Tracks.commit (h : Tracks log conn w) (ht : conn.transaction = some transaction) :
    Tracks log (conn.commit transaction) w.flush := by
  refine Tracks.close ?_ (tracksClosed_discard _)
  have hflush := (h.opened transaction ht).flush_log
  rw [hflush, h.log]
  simp [committedLog]

lemma Tracks.rollback (h : Tracks log conn w) :
    Tracks log { conn with transaction := none } w.discard :=
  Tracks.close h.log (tracksClosed_discard w)

lemma Tracks.addEffect (h : Tracks log conn w) (effect : Effect) :
    Tracks log (conn.addEffect effect) (w.recordEffectfulEntry effect.logEntry) := by
  cases ht : conn.transaction with
  | none =>
    have hclosed := h.closed ht
    have hwrite : w.recordEffectfulEntry effect.logEntry = w.write [effect.logEntry] := by
      simp [recordEffectfulEntry, hclosed.inTransaction]
    have hadd : conn.addEffect effect = ⟨conn.committed ++ [⟨[effect], none⟩], none⟩ := by
      simp [Connection.addEffect, ht]
    rw [hwrite, hadd]
    refine Tracks.close ?_ ⟨hclosed.inTransaction, hclosed.buffer, hclosed.savepoints,
      hclosed.reason⟩
    simp only [SQLiteWrapper.write, h.log, committedLog, List.foldl_append]
    rfl
  | some transaction =>
    have hopen := h.opened transaction ht
    have hbuffer : w.recordEffectfulEntry effect.logEntry =
        { w with buffer := w.buffer ++ [effect.logEntry] } := by
      simp [recordEffectfulEntry, hopen.inTransaction]
    have hadd : conn.addEffect effect = conn.withStack transaction
        (transaction.stack.set (transaction.stack.current ++ [effect])) := by
      simp [Connection.addEffect, ht]
    rw [hbuffer, hadd]
    refine Tracks.keepOpen h.log ⟨hopen.inTransaction, ?_, hopen.growing.append _,
      hopen.savepoints, hopen.reason⟩
    simp [Stack.set, hopen.buffer]

lemma Tracks.noteError (h : Tracks log conn w) (message : String) :
    Tracks log (conn.noteError message) (w.markTransactionError message) := by
  cases ht : conn.transaction with
  | none =>
    have hclosed := h.closed ht
    have hmark : w.markTransactionError message = w := by
      simp [markTransactionError, hclosed.inTransaction]
    have hnote : conn.noteError message = conn := by
      simp only [Connection.noteError, ht, Option.map_none]
      rw [← ht]
    rw [hmark, hnote]
    exact h
  | some transaction =>
    have hopen := h.opened transaction ht
    have hnote : conn.noteError message = ⟨conn.committed,
        some { transaction with error := transaction.error <|> some message }⟩ := by
      simp [Connection.noteError, ht]
    have hmark : w.markTransactionError message = { w with
        transactionErrorReason :=
          w.transactionErrorReason <|> some (executionErrorReason ++ ": " ++ message) } := by
      simp [markTransactionError, hopen.inTransaction]
    rw [hnote, hmark]
    refine Tracks.keepOpen h.log ⟨hopen.inTransaction, hopen.buffer, hopen.growing,
      hopen.savepoints, ?_⟩
    rw [hopen.reason]
    cases transaction.error <;> rfl

lemma Tracks.savepoint (h : Tracks log conn w) (ht : conn.transaction = some transaction)
    (name : SavepointName) :
    Tracks log (conn.withStack transaction (transaction.stack.save (foldCase name.text)))
      (w.savepoint name) := by
  have hopen := h.opened transaction ht
  have hsave : w.savepoint name =
      { w with savepoints := (name, w.buffer.length) :: w.savepoints } := by
    simp [SQLiteWrapper.savepoint, hopen.inTransaction]
  rw [hsave]
  refine Tracks.keepOpen h.log ⟨hopen.inTransaction, hopen.buffer, hopen.growing.save _,
    .opened rfl ?_ hopen.savepoints, hopen.reason⟩
  simp [hopen.buffer]

lemma Tracks.rollbackTo (h : Tracks log conn w) (ht : conn.transaction = some transaction)
    {name : SavepointName} {stack : Stack (List Char) (List Effect)}
    (hstack : transaction.stack.rollbackTo (foldCase name.text) = some stack) :
    Tracks log (conn.withStack transaction stack) (w.rollbackToSavepoint name) := by
  have hopen := h.opened transaction ht
  obtain ⟨found, outer, hinner, hsaved⟩ := Stack.rollbackTo_eq_some hstack
  obtain ⟨sp, rest, hdrop, hidx, hmatch⟩ := hopen.savepoints.innermost hinner
  have hmem : (found, stack.current) ∈ transaction.stack.saved := by
    refine (transaction.stack.innermost_suffix (foldCase name.text)).subset ?_
    rw [hinner]
    exact List.mem_cons_self
  have hprefix : stack.current <+: transaction.stack.current := hopen.growing.prefix_current hmem
  have hroll : w.rollbackToSavepoint name =
      { w with buffer := w.buffer.take sp.2, savepoints := sp :: rest } := by
    simp only [rollbackToSavepoint, hdrop]
  rw [hroll]
  refine Tracks.keepOpen h.log ⟨hopen.inTransaction, ?_, hopen.growing.rollbackTo hstack, ?_,
    hopen.reason⟩
  · change w.buffer.take sp.2 = stack.current.map Effect.logEntry
    rw [hopen.buffer, ← List.map_take, ← hidx, ← List.prefix_iff_eq_take.mp hprefix]
  · change SavepointsMatch stack.saved _
    rw [hsaved]
    exact hmatch

/-- A release pops one entry of the wrapper, whatever SQLite releases. -/
lemma Tracks.release (h : Tracks log conn w) (ht : conn.transaction = some transaction)
    {name : SavepointName} {stack : Stack (List Char) (List Effect)}
    (hstack : transaction.stack.release (foldCase name.text) = some stack)
    (hsafe : (w.savepoints.length = transaction.stack.saved.length ∧
        stack.saved = transaction.stack.saved.tail) ∨
      ∀ released, released ++ stack.saved = transaction.stack.saved →
        ∀ r ∈ released, ∀ s ∈ stack.saved, r.1 ≠ s.1) :
    Tracks log (conn.withStack transaction stack) (w.releaseSavepoint true) := by
  have hopen := h.opened transaction ht
  obtain ⟨head, hinner, hcurrent⟩ := Stack.release_eq_some hstack
  have hrelease : w.releaseSavepoint true = { w with savepoints := w.savepoints.tail } := by
    simp [releaseSavepoint]
  have hmatch : SavepointsMatch stack.saved w.savepoints.tail := by
    obtain ⟨before, hbefore⟩ := transaction.stack.innermost_suffix (foldCase name.text)
    rw [hinner] at hbefore
    rcases hsafe with ⟨hlength, htail⟩ | hnames
    · rcases hopen.savepoints.pop with hpop | hpop
      · rw [htail]
        exact hpop
      · exfalso
        have hle := hpop.length_le
        have hpos : 0 < transaction.stack.saved.length := by simp [← hbefore]
        rw [List.length_tail, hlength] at hle
        omega
    · have hall : (before ++ [head]) ++ stack.saved = transaction.stack.saved := by
        simpa using hbefore
      have hreleased := hnames (before ++ [head]) hall
      rcases hopen.savepoints.pop with hpop | hpop
      · rw [← hall] at hpop
        cases hb : before ++ [head] with
        | nil => simp at hb
        | cons first others =>
          rw [hb] at hpop hreleased
          exact SavepointsMatch.drop hpop fun r hr => hreleased r (List.mem_cons_of_mem _ hr)
      · rw [← hall] at hpop
        exact hpop.drop hreleased
  rw [hrelease]
  refine Tracks.keepOpen h.log ⟨hopen.inTransaction, ?_, hopen.growing.release hstack, hmatch,
    hopen.reason⟩
  rw [hcurrent]
  exact hopen.buffer

lemma Tracks.releaseCommits (h : Tracks log conn w) (ht : conn.transaction = some transaction) :
    Tracks log (conn.commit transaction) (w.releaseSavepoint false) := by
  have hopen := h.opened transaction ht
  have hrelease : w.releaseSavepoint false =
      ({ w with savepoints := w.savepoints.tail } : SQLiteWrapper).flush := by
    simp [releaseSavepoint, hopen.inTransaction]
  have hflush : ({ w with savepoints := w.savepoints.tail } : SQLiteWrapper).flush = w.flush := by
    unfold SQLiteWrapper.flush
    split_ifs with hb
    · rfl
    · cases w.transactionErrorReason <;> rfl
  rw [hrelease, hflush]
  exact h.commit ht

lemma Tracks.inTransaction (h : Tracks log conn w) : w.inTransaction = conn.inTransaction := by
  unfold Connection.inTransaction
  cases ht : conn.transaction with
  | none => exact (h.closed ht).inTransaction
  | some transaction => exact (h.opened transaction ht).inTransaction

lemma inTransaction_noteError (message : String) :
    (conn.noteError message).inTransaction = conn.inTransaction := by
  simp [Connection.noteError, Connection.inTransaction]

lemma inTransaction_addEffect (effect : Effect) :
    (conn.addEffect effect).inTransaction = conn.inTransaction := by
  unfold Connection.addEffect Connection.inTransaction
  cases conn.transaction <;> rfl

/-- Every answer of SQLite to a call keeps the wrapper in step with it, when a successful
release is safe. -/
theorem Tracks.execute (h : Tracks log conn w) {call : Call} {outcome : Outcome}
    {conn' : Connection} (hstep : Step conn call outcome conn')
    (hrelease : ReleasesSafely conn w call outcome) :
    Tracks log conn' (w.executeOn call outcome conn'.inTransaction) := by
  cases hstep with
  | begin ht => exact Tracks.keepOpen h.log ⟨rfl, rfl, growing_new [], .nil [], rfl⟩
  | commit ht => exact h.commit ht
  | rollback ht => exact h.rollback
  | savepoint ht => exact h.savepoint ht _
  | @savepointOpens name ht =>
    have hsave : w.savepoint name = { w.begin with savepoints := [(name, 0)] } := by
      simp [SQLiteWrapper.savepoint, (h.closed ht).inTransaction, SQLiteWrapper.begin]
    change Tracks log _ (w.savepoint name)
    rw [hsave]
    exact Tracks.keepOpen h.log
      ⟨rfl, rfl, (growing_new []).save _, .opened rfl rfl (.nil []), rfl⟩
  | @release transaction stack name ht hstack hkeeps =>
    rcases hrelease transaction stack ht hstack with ⟨hbegun, hnil⟩ | hsafe
    · exfalso
      rcases hkeeps with hb | hne
      · rw [hbegun] at hb
        cases hb
      · exact hne hnil
    · exact h.release ht hstack hsafe
  | releaseCommits ht hstack hbegun hsaved => exact h.releaseCommits ht
  | rollbackTo ht hstack => exact h.rollbackTo ht hstack
  | dml => exact h.addEffect _
  | @fails _ message =>
    have hexecute : w.executeOn call (.error message false) (conn.noteError message).inTransaction
        = w.markTransactionError message := by
      rw [inTransaction_noteError, ← h.inTransaction]
      cases call <;> simp [executeOn]
    rw [hexecute]
    exact h.noteError message
  | @failsPartially entry message =>
    have hadd := (h.addEffect ⟨entry, some message⟩).noteError message
    have hexecute : w.executeOn (.dml entry) (.error message true)
        ((conn.addEffect ⟨entry, some message⟩).noteError message).inTransaction =
        (w.recordEffectfulEntry (Effect.logEntry ⟨entry, some message⟩)).markTransactionError
          message := by
      rw [inTransaction_noteError, inTransaction_addEffect, ← h.inTransaction]
      simp [executeOn, Effect.logEntry]
    rw [hexecute]
    exact hadd
  | @failsAndRollsBack transaction _ message changed ht =>
    have hopen := (h.opened transaction ht).inTransaction
    have hexecute : w.executeOn call (.error message changed)
        ({ conn with transaction := none } : Connection).inTransaction = w.discard := by
      simp [executeOn, hopen, Connection.inTransaction]
    rw [hexecute]
    exact h.rollback

end Steps

lemma tracks_run {log : LogTables} {conn : Connection} {w : SQLiteWrapper}
    (h : Run ReleasesSafely log conn w) : Tracks log conn w := by
  induction h with
  | start => exact Tracks.close rfl ⟨rfl, rfl, rfl, rfl⟩
  | execute _ hstep hrelease ih => exact ih.execute hstep hrelease

/-- In a run whose releases are safe, the log tables hold the committed history. -/
theorem log_eq_committedLog {log : LogTables} {conn : Connection} {w : SQLiteWrapper}
    (h : Run ReleasesSafely log conn w) : w.log = committedLog log conn :=
  (tracks_run h).log

/-! Two runs of inserts inside one transaction, with savepoints `a` and `c`. -/

def savepointA : SavepointName := ⟨"a", by simp [isNameChar]⟩

def savepointC : SavepointName := ⟨"c", by simp [isNameChar]⟩

def insertOne : LogEntry := ⟨"INSERT INTO t VALUES (1)", "INSERT INTO t VALUES (1)", true, none⟩

def insertEffect : Effect := ⟨insertOne, none⟩

def emptyLog : LogTables := ⟨0, []⟩

def openTransaction (effects : List Effect) (saved : List (SavepointName × List Effect)) :
    OpenTransaction :=
  ⟨true, ⟨effects, saved.map fun s => (foldCase s.1.text, s.2)⟩, none⟩

def openConnection (effects : List Effect) (saved : List (SavepointName × List Effect)) :
    Connection :=
  ⟨[], some (openTransaction effects saved)⟩

def openWrapper (buffer : List LogEntry) (savepoints : List (SavepointName × ℕ)) :
    SQLiteWrapper :=
  ⟨true, buffer, savepoints, none, emptyLog⟩

lemma step_savepoint (effects : List Effect) (saved : List (SavepointName × List Effect))
    (name : SavepointName) :
    Step (openConnection effects saved) (.savepoint name) .ok
      (openConnection effects ((name, effects) :: saved)) :=
  @Step.savepoint _ (openTransaction effects saved) name rfl

lemma run_savepointA (P : Connection → SQLiteWrapper → Call → Outcome → Prop)
    (hP : ∀ conn w call outcome, (∀ name, call ≠ .release name) → P conn w call outcome) :
    Run P emptyLog (openConnection [insertEffect] [(savepointA, [])])
      (openWrapper [insertOne] [(savepointA, 0)]) := by
  have h1 : Run P emptyLog (openConnection [] []) (openWrapper [] []) :=
    Run.start.execute (.begin rfl) (hP _ _ _ _ (by simp))
  have h2 := h1.execute (step_savepoint [] [] savepointA) (hP _ _ _ _ (by simp))
  have hdml : Step (openConnection [] [(savepointA, [])]) (.dml insertOne) .ok
      (openConnection [insertEffect] [(savepointA, [])]) := .dml
  exact h2.execute hdml (hP _ _ _ _ (by simp))

lemma step_rollbackToA :
    Step (openConnection [insertEffect] [(savepointA, [])]) (.rollbackTo savepointA) .ok
      (openConnection [] [(savepointA, [])]) :=
  @Step.rollbackTo _ (openTransaction [insertEffect] [(savepointA, [])])
    ⟨[], [(foldCase "a", [])]⟩ savepointA rfl (by decide)

/-- BEGIN; SAVEPOINT a; INSERT; ROLLBACK TO a; RELEASE a; COMMIT logs nothing. -/
theorem log_of_rolled_back_savepoint :
    (openWrapper [] []).flush.log =
      committedLog emptyLog ((openConnection [] []).commit (openTransaction [] [])) := by
  have h1 := run_savepointA ReleasesSafely (by
    intro conn w call outcome hcall
    cases call with
    | release name => exact absurd rfl (hcall name)
    | _ => trivial)
  have h2 := h1.execute step_rollbackToA trivial
  have hrelease : Step (openConnection [] [(savepointA, [])]) (.release savepointA) .ok
      (openConnection [] []) :=
    @Step.release _ (openTransaction [] [(savepointA, [])]) ⟨[], []⟩ savepointA rfl (by decide)
      (.inl rfl)
  have hsafe : ReleasesSafely (openConnection [] [(savepointA, [])])
      (openWrapper [] [(savepointA, 0)]) (.release savepointA) .ok := by
    intro transaction stack ht hstack
    obtain rfl := Option.some.inj ht
    have hsome : (openTransaction [] [(savepointA, [])]).stack.release (foldCase savepointA.text) =
        some ⟨[], []⟩ := by decide
    obtain rfl := Option.some.inj (hsome.symm.trans hstack)
    exact .inr (.inl ⟨rfl, rfl⟩)
  have h3 := h2.execute hrelease hsafe
  have hcommit : Step (openConnection [] []) .commit .ok
      ((openConnection [] []).commit (openTransaction [] [])) := .commit rfl
  exact log_eq_committedLog (h3.execute hcommit trivial)

/-- BEGIN; SAVEPOINT a; INSERT; SAVEPOINT a; SAVEPOINT c; RELEASE a; ROLLBACK TO a; COMMIT:
SQLite releases both inner savepoints and undoes the insert, the wrapper logs it. -/
theorem log_keeps_undone_statement :
    ¬ ∀ log conn w, Run (fun _ _ _ _ => True) log conn w → w.log = committedLog log conn := by
  intro h
  have h1 := run_savepointA (fun _ _ _ _ => True) (fun _ _ _ _ _ => trivial)
  have h2 := h1.execute (step_savepoint _ _ savepointA) trivial
  have h3 := h2.execute (step_savepoint _ _ savepointC) trivial
  have hrelease : Step (openConnection [insertEffect] [(savepointC, [insertEffect]),
      (savepointA, [insertEffect]), (savepointA, [])]) (.release savepointA) .ok
      (openConnection [insertEffect] [(savepointA, [])]) :=
    @Step.release _ (openTransaction [insertEffect] [(savepointC, [insertEffect]),
      (savepointA, [insertEffect]), (savepointA, [])])
      ⟨[insertEffect], [(foldCase "a", [])]⟩ savepointA rfl (by decide) (.inl rfl)
  have h4 := h3.execute hrelease trivial
  have h5 := h4.execute step_rollbackToA trivial
  have hcommit : Step (openConnection [] [(savepointA, [])]) .commit .ok
      ((openConnection [] [(savepointA, [])]).commit (openTransaction [] [(savepointA, [])])) :=
    .commit rfl
  have hlog := h _ _ _ (h5.execute hcommit trivial)
  revert hlog
  decide

end SqliteReconcile.Wrapper
