import SqliteReconcile.Wrapper

/-!
# Interrupted log writes

The SQLite calls of the wrapper one by one: the user's own call, and after it the inserts of
the log rows, each of which commits by itself. Any call may raise, and the process may stop
between any two.
-/
namespace SqliteReconcile.InterruptedLog
open Wrapper SQLiteWrapper

/-- One insert into the log tables; a log row belongs to the transaction row before it. -/
inductive Insert
  | transactionRow
  | logRow (entry : LogEntry)
  deriving DecidableEq

def insert (log : LogTables) : Insert → LogTables
  | .transactionRow => { log with lastTransactionId := log.lastTransactionId + 1 }
  | .logRow entry => { log with rows := log.rows ++ [(log.lastTransactionId, entry)] }

def writeInserts (statements : List LogEntry) : List Insert :=
  .transactionRow :: statements.map .logRow

lemma foldl_logRows (statements : List LogEntry) (log : LogTables) :
    (statements.map Insert.logRow).foldl insert log =
      { log with rows := log.rows ++ statements.map (log.lastTransactionId, ·) } := by
  induction statements generalizing log with
  | nil => simp
  | cons entry rest ih => simp [insert, ih]

lemma foldl_writeInserts (statements : List LogEntry) (log : LogTables) :
    (writeInserts statements).foldl insert log =
      ⟨log.lastTransactionId + 1,
        log.rows ++ statements.map (log.lastTransactionId + 1, ·)⟩ := by
  rw [writeInserts, List.foldl_cons, foldl_logRows]
  rfl

def record (group : Group) : List Insert :=
  if group.logEntries = [] then [] else writeInserts group.logEntries

lemma foldl_record (group : Group) (log : LogTables) :
    (record group).foldl insert log = logGroup log group := by
  unfold record logGroup
  split_ifs
  · rfl
  · exact foldl_writeInserts _ _

/-- The wrapper, the inserts that `_write` has still to make, and whether `_flush` discards
the buffer after them. -/
structure Activity where
  wrapper : SQLiteWrapper
  pending : List Insert
  discards : Bool

namespace Activity

def idle (w : SQLiteWrapper) : Activity := ⟨w, [], false⟩

def finish (activity : Activity) : SQLiteWrapper :=
  let w := { activity.wrapper with
    log := activity.pending.foldl insert activity.wrapper.log }
  if activity.discards then w.discard else w

end Activity

def flush (w : SQLiteWrapper) : Activity :=
  if w.buffer = [] then .idle w.discard
  else
    let buffer := match w.transactionErrorReason with
      | none => w.buffer
      | some reason => w.buffer.map (blockReplay reason)
    ⟨{ w with buffer := buffer }, writeInserts buffer, true⟩

def releaseSavepoint (w : SQLiteWrapper) (connInTransaction : Bool) : Activity :=
  let w := { w with savepoints := w.savepoints.tail }
  if w.inTransaction && !connInTransaction then flush w else .idle w

def recordEffectfulEntry (w : SQLiteWrapper) (entry : LogEntry) : Activity :=
  if w.inTransaction then .idle { w with buffer := w.buffer ++ [entry] }
  else ⟨w, writeInserts [entry], false⟩

/-- One execute call, after SQLite answered it, up to its first insert. -/
def executeOn (w : SQLiteWrapper) (call : Call) (outcome : Outcome) (connInTransaction : Bool) :
    Activity :=
  match outcome with
  | .error message changed =>
    if w.inTransaction && !connInTransaction then .idle w.discard
    else
      let activity := match call, changed with
        | .dml entry, true => recordEffectfulEntry w (entryWithExecutionError entry message)
        | _, _ => .idle w
      -- outside a transaction, where inserts are pending, this changes nothing
      { activity with wrapper := activity.wrapper.markTransactionError message }
  | .ok =>
    match call with
    | .begin => .idle w.begin
    | .commit => flush w
    | .rollbackTo name => .idle (w.rollbackToSavepoint name)
    | .rollback => .idle w.discard
    | .savepoint name => .idle (w.savepoint name)
    | .release _ => releaseSavepoint w connInTransaction
    | .dml entry => recordEffectfulEntry w entry

/-- A connection, and what the wrapper is doing. The log tables of the wrapper and the
committed transactions of the connection are what the database file holds. -/
structure Session where
  conn : Connection
  activity : Activity

/-- The next insert; after the last one the call returns. -/
def advance (w : SQLiteWrapper) (row : Insert) (pending : List Insert) (discards : Bool) :
    Activity :=
  let w := { w with log := insert w.log row }
  match pending with
  | [] => .idle (if discards then w.discard else w)
  | _ => ⟨w, pending, discards⟩

/-- Sessions with a number of interruptions. `P` restricts the calls, and `R` tells whether
an insert may raise, in `_flush` and elsewhere. -/
inductive Run (P : Connection → SQLiteWrapper → Call → Outcome → Prop) (R : Bool → Prop)
    (log : LogTables) : ℕ → Session → Prop
  | start : Run P R log 0 ⟨Connection.new, .idle (SQLiteWrapper.new log)⟩
  | execute {n conn w call outcome conn'} : Run P R log n ⟨conn, .idle w⟩ →
    Step conn call outcome conn' → P conn w call outcome →
    Run P R log n ⟨conn', executeOn w call outcome conn'.inTransaction⟩
  | insert {n conn w row pending discards} :
    Run P R log n ⟨conn, ⟨w, row :: pending, discards⟩⟩ →
    Run P R log n ⟨conn, advance w row pending discards⟩
  | raises {n conn w row pending discards} :
    Run P R log n ⟨conn, ⟨w, row :: pending, discards⟩⟩ → R discards →
    Run P R log (n + 1) ⟨conn, .idle w⟩
  /-- The process stops, and the database is opened again. -/
  | reopens {n conn activity} : Run P R log n ⟨conn, activity⟩ →
    Run P R log (n + 1)
      ⟨{ conn with transaction := none }, .idle (SQLiteWrapper.new activity.wrapper.log)⟩

section

variable {w : SQLiteWrapper} {call : Call} {outcome : Outcome} {connInTransaction : Bool}

lemma finish_flush (w : SQLiteWrapper) : (flush w).finish = w.flush := by
  unfold flush SQLiteWrapper.flush
  split_ifs with hempty
  · rfl
  · cases w.transactionErrorReason <;>
      simp [Activity.finish, foldl_writeInserts, SQLiteWrapper.write, SQLiteWrapper.discard]

lemma finish_recordEffectfulEntry (w : SQLiteWrapper) (entry : LogEntry) :
    (recordEffectfulEntry w entry).finish = w.recordEffectfulEntry entry := by
  unfold recordEffectfulEntry SQLiteWrapper.recordEffectfulEntry
  split_ifs
  · rfl
  · simp [Activity.finish, foldl_writeInserts, SQLiteWrapper.write]

lemma finish_releaseSavepoint (w : SQLiteWrapper) (connInTransaction : Bool) :
    (releaseSavepoint w connInTransaction).finish = w.releaseSavepoint connInTransaction := by
  unfold releaseSavepoint SQLiteWrapper.releaseSavepoint
  dsimp only
  split_ifs
  · exact finish_flush _
  · rfl

lemma finish_markTransactionError (activity : Activity) (message : String)
    (h : activity.discards = false) :
    ({ activity with wrapper := activity.wrapper.markTransactionError message } :
      Activity).finish = activity.finish.markTransactionError message := by
  simp only [Activity.finish, h, Bool.false_eq_true, if_false, SQLiteWrapper.markTransactionError]
  split_ifs <;> rfl

lemma discards_recordEffectfulEntry (w : SQLiteWrapper) (entry : LogEntry) :
    (recordEffectfulEntry w entry).discards = false := by
  unfold recordEffectfulEntry
  split_ifs <;> rfl

theorem finish_executeOn (w : SQLiteWrapper) (call : Call) (outcome : Outcome)
    (connInTransaction : Bool) :
    (executeOn w call outcome connInTransaction).finish =
      w.executeOn call outcome connInTransaction := by
  unfold executeOn SQLiteWrapper.executeOn
  cases outcome with
  | error message changed =>
    dsimp only
    split_ifs with hended
    · rfl
    · cases call with
      | dml entry =>
        cases changed with
        | false => rfl
        | true =>
          rw [finish_markTransactionError _ _ (discards_recordEffectfulEntry w _),
            finish_recordEffectfulEntry]
      | _ => rfl
  | ok =>
    cases call with
    | commit => exact finish_flush w
    | release name => exact finish_releaseSavepoint w _
    | dml entry => exact finish_recordEffectfulEntry w entry
    | _ => rfl

/-- What a call leaves to be inserted: nothing, or all that one `_write` inserts, which keeps
the wrapper as it was when it is not for `_flush`. -/
structure Begins (w : SQLiteWrapper) (activity : Activity) : Prop where
  log : activity.wrapper.log = w.log
  pending : activity.pending = [] ∨ ∃ statements, activity.pending = writeInserts statements
  idle : activity.pending = [] → activity.discards = false
  keeps : activity.pending ≠ [] → activity.discards = false →
    activity.wrapper = w ∧ w.inTransaction = false

lemma begins_idle {w w' : SQLiteWrapper} (h : w'.log = w.log) : Begins w (.idle w') :=
  ⟨h, .inl rfl, fun _ => rfl, fun hne => absurd rfl hne⟩

lemma begins_flush {w' : SQLiteWrapper} (h : w'.log = w.log) : Begins w (flush w') := by
  unfold flush
  split_ifs
  · exact begins_idle h
  · exact ⟨h, .inr ⟨_, rfl⟩, (fun hnil => by cases hnil), fun _ hdiscards => by cases hdiscards⟩

lemma begins_recordEffectfulEntry (w : SQLiteWrapper) (entry : LogEntry) :
    Begins w (recordEffectfulEntry w entry) := by
  unfold recordEffectfulEntry
  split_ifs with hin
  · exact begins_idle rfl
  · exact ⟨rfl, .inr ⟨_, rfl⟩, fun _ => rfl, fun _ _ => ⟨rfl, by simpa using hin⟩⟩

lemma Begins.markTransactionError {activity : Activity} (h : Begins w activity)
    (hdiscards : activity.discards = false) (message : String) :
    Begins w { activity with wrapper := activity.wrapper.markTransactionError message } := by
  have hlog : (activity.wrapper.markTransactionError message).log = activity.wrapper.log := by
    unfold SQLiteWrapper.markTransactionError
    split_ifs <;> rfl
  refine ⟨hlog.trans h.log, h.pending, h.idle, fun hne _ => ?_⟩
  obtain ⟨hwrapper, hin⟩ := h.keeps hne hdiscards
  refine ⟨?_, hin⟩
  simp [hwrapper, SQLiteWrapper.markTransactionError, hin]

lemma begins_executeOn (w : SQLiteWrapper) (call : Call) (outcome : Outcome)
    (connInTransaction : Bool) : Begins w (executeOn w call outcome connInTransaction) := by
  unfold executeOn
  cases outcome with
  | error message changed =>
    dsimp only
    split_ifs with hended
    · exact begins_idle rfl
    · have hnothing := (begins_idle (rfl : w.log = w.log)).markTransactionError rfl message
      cases call with
      | dml entry =>
        cases changed with
        | false => exact hnothing
        | true =>
          exact (begins_recordEffectfulEntry w _).markTransactionError
            (discards_recordEffectfulEntry w _) message
      | _ => exact hnothing
  | ok =>
    cases call with
    | commit => exact begins_flush rfl
    | release name =>
      unfold releaseSavepoint
      dsimp only
      split_ifs
      · exact begins_flush rfl
      · exact begins_idle rfl
    | dml entry => exact begins_recordEffectfulEntry w entry
    | rollbackTo name =>
      apply begins_idle
      unfold SQLiteWrapper.rollbackToSavepoint
      split <;> rfl
    | savepoint name =>
      apply begins_idle
      unfold SQLiteWrapper.savepoint
      dsimp only
      split_ifs <;> rfl
    | _ => exact begins_idle rfl

end

/-- The log has a record of every transaction, in order; `cut` of the records lack some of
their last inserts. -/
inductive Records (log : LogTables) : List Group → ℕ → LogTables → Prop
  | nil : Records log [] 0 log
  | whole {groups cut log' group} : Records log groups cut log' →
    Records log (groups ++ [group]) cut (logGroup log' group)
  | part {groups cut log' group done} : Records log groups cut log' → done <+: record group →
    Records log (groups ++ [group]) (cut + 1) (done.foldl insert log')

lemma Records.eq_foldl {log log' : LogTables} {groups : List Group} {cut : ℕ}
    (h : Records log groups cut log') (hcut : cut = 0) : log' = groups.foldl logGroup log := by
  induction h with
  | nil => rfl
  | whole _ ih => rw [ih hcut, List.foldl_append, List.foldl_cons, List.foldl_nil]
  | part => cases hcut

/-- The wrapper's flag and buffer are those of the connection's transaction. -/
structure Matches (conn : Connection) (w : SQLiteWrapper) : Prop where
  inTransaction : w.inTransaction = conn.inTransaction
  buffer : w.buffer = match conn.transaction with
    | none => []
    | some transaction => transaction.stack.current.map Effect.logEntry

/-- What the database file holds after `interruptions`, at a call of the wrapper. -/
structure Consistent (log : LogTables) (interruptions : ℕ) (session : Session) : Prop where
  /-- No insert is pending: each committed transaction has its record, but those that an
  interruption cut off. -/
  idle : session.activity.pending = [] → ∃ cut ≤ interruptions,
    Records log session.conn.committed cut session.activity.wrapper.log
  /-- Inserts are pending: the record of the last committed transaction is being written. -/
  writing : session.activity.pending ≠ [] → ∃ groups group before done, ∃ cut ≤ interruptions,
    session.conn.committed = groups ++ [group] ∧ Records log groups cut before ∧
      done ++ session.activity.pending = record group ∧
      session.activity.wrapper.log = done.foldl insert before
  complete : interruptions = 0 → session.activity.pending = [] →
    session.activity.wrapper.log = committedLog log session.conn
  /-- Whenever no insert is pending, also after one raised. -/
  wrapper : session.activity.pending = [] → Matches session.conn session.activity.wrapper

section

variable {log : LogTables} {conn : Connection} {w : SQLiteWrapper}

/-- A call commits at most one transaction, whatever was committed before. -/
lemma step_committed {call : Call} {outcome : Outcome} {conn' : Connection}
    (h : Step conn call outcome conn') :
    ∃ groups, groups.length ≤ 1 ∧ conn'.committed = conn.committed ++ groups ∧
      Step ⟨[], conn.transaction⟩ call outcome ⟨groups, conn'.transaction⟩ := by
  have hadd : ∀ effect, ∃ groups : List Group, groups.length ≤ 1 ∧
      conn.addEffect effect = ⟨conn.committed ++ groups, (conn.addEffect effect).transaction⟩ ∧
      Connection.addEffect ⟨[], conn.transaction⟩ effect =
        ⟨groups, (conn.addEffect effect).transaction⟩ := by
    intro effect
    unfold Connection.addEffect
    cases conn.transaction with
    | none => exact ⟨[⟨[effect], none⟩], le_rfl, rfl, rfl⟩
    | some transaction => exact ⟨[], by simp, by simp [Connection.withStack], rfl⟩
  cases h with
  | begin ht => exact ⟨[], by simp, by simp, ht ▸ .begin rfl⟩
  | @commit transaction ht => exact ⟨[_], le_rfl, rfl, .commit ht⟩
  | rollback ht => exact ⟨[], by simp, by simp, .rollback ht⟩
  | savepoint ht => exact ⟨[], by simp, by simp [Connection.withStack], .savepoint ht⟩
  | savepointOpens ht => exact ⟨[], by simp, by simp, .savepointOpens ht⟩
  | release ht hstack hkeeps =>
    exact ⟨[], by simp, by simp [Connection.withStack], .release ht hstack hkeeps⟩
  | releaseCommits ht hstack hbegun hsaved =>
    exact ⟨[_], le_rfl, rfl, .releaseCommits ht hstack hbegun hsaved⟩
  | rollbackTo ht hstack =>
    exact ⟨[], by simp, by simp [Connection.withStack], .rollbackTo ht hstack⟩
  | @dml entry =>
    obtain ⟨groups, hlength, hcommitted, heffect⟩ := hadd ⟨entry, none⟩
    refine ⟨groups, hlength, congrArg Connection.committed hcommitted, ?_⟩
    rw [← heffect]
    exact .dml
  | fails => exact ⟨[], by simp, by simp [Connection.noteError], .fails⟩
  | @failsPartially entry message =>
    obtain ⟨groups, hlength, hcommitted, heffect⟩ := hadd ⟨entry, some message⟩
    refine ⟨groups, hlength, congrArg Connection.committed hcommitted, ?_⟩
    have hstep := @Step.failsPartially ⟨[], conn.transaction⟩ entry message
    rw [heffect] at hstep
    exact hstep
  | failsAndRollsBack ht => exact ⟨[], by simp, by simp, .failsAndRollsBack ht⟩

def TracksNow (conn : Connection) (w : SQLiteWrapper) : Prop :=
  Tracks w.log ⟨[], conn.transaction⟩ w

lemma TracksNow.execute (h : TracksNow conn w) {call : Call} {outcome : Outcome}
    {conn' : Connection} (hstep : Step conn call outcome conn')
    (hrelease : ReleasesSafely conn w call outcome) :
    TracksNow conn' (w.executeOn call outcome conn'.inTransaction) ∧
      ∃ groups, groups.length ≤ 1 ∧ conn'.committed = conn.committed ++ groups ∧
        (w.executeOn call outcome conn'.inTransaction).log = groups.foldl logGroup w.log := by
  obtain ⟨groups, hlength, hcommitted, hfresh⟩ := step_committed hstep
  have hsafe : ReleasesSafely ⟨[], conn.transaction⟩ w call outcome := hrelease
  have htracks := Tracks.execute h hfresh hsafe
  exact ⟨⟨rfl, htracks.opened, htracks.closed⟩, groups, hlength, hcommitted, htracks.log⟩

/-- The inserts of a call are the record of the transaction that it commits. -/
lemma pending_eq_record {pending : List Insert} {groups : List Group}
    (hpending : pending = [] ∨ ∃ statements, pending = writeInserts statements)
    (hlength : groups.length ≤ 1)
    (hlog : pending.foldl insert log = groups.foldl logGroup log) :
    (groups = [] ∧ pending = []) ∨ ∃ group, groups = [group] ∧ pending = record group := by
  have hgrows : ∀ statements, (writeInserts statements).foldl insert log ≠ log := by
    intro statements heq
    rw [foldl_writeInserts] at heq
    have hid := congrArg LogTables.lastTransactionId heq
    dsimp only at hid
    omega
  cases groups with
  | nil =>
    left
    rcases hpending with hnil | ⟨statements, rfl⟩
    · exact ⟨rfl, hnil⟩
    · exact absurd hlog (hgrows statements)
  | cons group rest =>
    right
    obtain rfl : rest = [] := List.length_eq_zero_iff.mp (by
      rw [List.length_cons] at hlength
      omega)
    refine ⟨group, rfl, ?_⟩
    rw [List.foldl_cons, List.foldl_nil, ← foldl_record] at hlog
    unfold record at hlog ⊢
    rcases hpending with rfl | ⟨statements, rfl⟩
    · split_ifs at hlog ⊢ with hempty
      · rfl
      · exact absurd hlog.symm (hgrows _)
    · split_ifs at hlog ⊢ with hempty
      · exact absurd hlog (hgrows _)
      · rw [foldl_writeInserts, foldl_writeInserts] at hlog
        have hrows := List.append_cancel_left (congrArg LogTables.rows hlog)
        have hsame : statements = group.logEntries :=
          List.map_injective_iff.mpr (fun _ _ heq => congrArg Prod.snd heq) hrows
        rw [hsame]

/-- What every state of a session has: the records, and a wrapper that will track the
connection when the pending inserts are done, and does if they raise outside `_flush`. -/
structure Sound (log : LogTables) (interruptions : ℕ) (session : Session) : Prop where
  tracks : TracksNow session.conn session.activity.finish
  closed : session.activity.pending ≠ [] → session.conn.transaction = none ∧
    (session.activity.discards = false → TracksClosed session.activity.wrapper)
  discards : session.activity.pending = [] → session.activity.discards = false
  idle : session.activity.pending = [] → ∃ cut ≤ interruptions,
    Records log session.conn.committed cut session.activity.wrapper.log
  writing : session.activity.pending ≠ [] → ∃ groups group before done, ∃ cut ≤ interruptions,
    session.conn.committed = groups ++ [group] ∧ Records log groups cut before ∧
      done ++ session.activity.pending = record group ∧
      session.activity.wrapper.log = done.foldl insert before

variable {interruptions : ℕ}

lemma tracksNow_closed {committed : List Group} (h : TracksClosed w) :
    TracksNow ⟨committed, none⟩ w :=
  Tracks.close rfl h

/-- Whatever was written of the last record, the log has its records. -/
lemma Sound.records {session : Session} (h : Sound log interruptions session) :
    ∃ cut ≤ interruptions + 1,
      Records log session.conn.committed cut session.activity.wrapper.log := by
  by_cases hpending : session.activity.pending = []
  · obtain ⟨cut, hcut, hrecords⟩ := h.idle hpending
    exact ⟨cut, by omega, hrecords⟩
  · obtain ⟨groups, group, before, done, cut, hcut, hcommitted, hrecords, hdone, hlog⟩ :=
      h.writing hpending
    rw [hcommitted, hlog]
    exact ⟨cut + 1, by omega, hrecords.part ⟨_, hdone⟩⟩

lemma finish_log (activity : Activity) :
    activity.finish.log = activity.pending.foldl insert activity.wrapper.log := by
  unfold Activity.finish
  split_ifs <;> rfl

lemma closed_of_tracks {conn' : Connection} {activity : Activity} (hbegins : Begins w activity)
    (htracks : TracksNow conn' activity.finish) (hpending : activity.pending ≠ []) :
    conn'.transaction = none ∧ (activity.discards = false → TracksClosed activity.wrapper) := by
  have hfinish : activity.finish.inTransaction = false := by
    unfold Activity.finish
    split_ifs with hdiscards
    · rfl
    · obtain ⟨hwrapper, hin⟩ := hbegins.keeps hpending (by simpa using hdiscards)
      dsimp only
      rw [hwrapper, hin]
  have hnone : conn'.transaction = none := by
    cases ht : conn'.transaction with
    | none => rfl
    | some transaction =>
      have hopen := (htracks.opened transaction ht).inTransaction
      rw [hfinish] at hopen
      cases hopen
  refine ⟨hnone, fun hdiscards => ?_⟩
  have hclosed := htracks.closed hnone
  simp only [Activity.finish, hdiscards, Bool.false_eq_true, if_false] at hclosed
  exact ⟨hclosed.inTransaction, hclosed.buffer, hclosed.savepoints, hclosed.reason⟩

lemma Sound.execute (h : Sound log interruptions ⟨conn, .idle w⟩) {call : Call}
    {outcome : Outcome} {conn' : Connection} (hstep : Step conn call outcome conn')
    (hrelease : ReleasesSafely conn w call outcome) :
    Sound log interruptions ⟨conn', executeOn w call outcome conn'.inTransaction⟩ := by
  have hbegins := begins_executeOn w call outcome conn'.inTransaction
  have htracksNow : TracksNow conn w := h.tracks
  have hidle : ∃ cut ≤ interruptions, Records log conn.committed cut w.log := h.idle rfl
  obtain ⟨cut, hcut, hrecords⟩ := hidle
  obtain ⟨htracks, groups, hlength, hcommitted, hlog⟩ := htracksNow.execute hstep hrelease
  rw [← finish_executeOn] at htracks hlog
  generalize executeOn w call outcome conn'.inTransaction = activity at *
  rw [finish_log, hbegins.log] at hlog
  have hrecord := pending_eq_record hbegins.pending hlength hlog
  refine ⟨htracks, closed_of_tracks hbegins htracks, hbegins.idle, fun hnil => ?_, fun hne => ?_⟩
  · refine ⟨cut, hcut, ?_⟩
    dsimp only
    rw [hbegins.log, hcommitted]
    rcases hrecord with ⟨rfl, -⟩ | ⟨group, rfl, hgroup⟩
    · rw [List.append_nil]
      exact hrecords
    · have hsame : logGroup w.log group = w.log := by
        rw [← foldl_record, ← hgroup, hnil]
        rfl
      rw [← hsame]
      exact hrecords.whole
  · rcases hrecord with ⟨-, hnil⟩ | ⟨group, rfl, hgroup⟩
    · exact absurd hnil hne
    · exact ⟨conn.committed, group, w.log, [], cut, hcut, hcommitted, hrecords, hgroup,
        hbegins.log⟩

lemma finish_advance (w : SQLiteWrapper) (row : Insert) (pending : List Insert) (discards : Bool) :
    (advance w row pending discards).finish = Activity.finish ⟨w, row :: pending, discards⟩ := by
  cases pending <;> cases discards <;> rfl

lemma Sound.insert {row : Insert} {pending : List Insert} {discards : Bool}
    (h : Sound log interruptions ⟨conn, ⟨w, row :: pending, discards⟩⟩) :
    Sound log interruptions ⟨conn, advance w row pending discards⟩ := by
  have hne : row :: pending ≠ [] := List.cons_ne_nil _ _
  obtain ⟨hnone, hclosed⟩ := h.closed hne
  obtain ⟨groups, group, before, done, cut, hcut, hcommitted, hrecords, hdone, hlog⟩ :=
    h.writing hne
  have hinserted : InterruptedLog.insert w.log row =
      (done ++ [row]).foldl InterruptedLog.insert before := by
    rw [List.foldl_append, ← hlog]
    rfl
  have htracks : TracksNow conn (advance w row pending discards).finish := by
    rw [finish_advance]
    exact h.tracks
  cases pending with
  | nil =>
    refine ⟨htracks, fun hpending => absurd rfl hpending, fun _ => rfl, fun _ => ?_,
      fun hpending => absurd rfl hpending⟩
    have hwhole : (advance w row [] discards).wrapper.log = logGroup before group := by
      rw [← foldl_record, ← hdone, ← hinserted]
      cases discards <;> rfl
    refine ⟨cut, hcut, ?_⟩
    dsimp only at hcommitted ⊢
    rw [hwhole, hcommitted]
    exact hrecords.whole
  | cons next rest =>
    have hmore : next :: rest ≠ [] := List.cons_ne_nil _ _
    refine ⟨htracks, fun _ => ⟨hnone, fun hkeeps => ?_⟩, fun hnil => absurd hnil hmore,
      fun hnil => absurd hnil hmore, fun _ => ?_⟩
    · have hw := hclosed hkeeps
      exact ⟨hw.inTransaction, hw.buffer, hw.savepoints, hw.reason⟩
    · refine ⟨groups, group, before, done ++ [row], cut, hcut, hcommitted, hrecords, ?_, hinserted⟩
      rw [← hdone]
      simp [advance]

lemma Sound.raises {row : Insert} {pending : List Insert}
    (h : Sound log interruptions ⟨conn, ⟨w, row :: pending, false⟩⟩) :
    Sound log (interruptions + 1) ⟨conn, .idle w⟩ := by
  obtain ⟨hnone, hclosed⟩ := h.closed (List.cons_ne_nil _ _)
  refine ⟨?_, fun hpending => absurd rfl hpending, fun _ => rfl, fun _ => h.records,
    fun hpending => absurd rfl hpending⟩
  have htracks : TracksNow ⟨conn.committed, none⟩ w := tracksNow_closed (hclosed rfl)
  rw [← hnone] at htracks
  exact htracks

lemma Sound.reopens {activity : Activity} (h : Sound log interruptions ⟨conn, activity⟩) :
    Sound log (interruptions + 1)
      ⟨{ conn with transaction := none }, .idle (SQLiteWrapper.new activity.wrapper.log)⟩ :=
  ⟨tracksNow_closed ⟨rfl, rfl, rfl, rfl⟩, fun hpending => absurd rfl hpending, fun _ => rfl,
    fun _ => h.records, fun hpending => absurd rfl hpending⟩

lemma sound_run {session : Session}
    (h : Run ReleasesSafely (· = false) log interruptions session) :
    Sound log interruptions session := by
  induction h with
  | start =>
    exact ⟨tracksNow_closed ⟨rfl, rfl, rfl, rfl⟩, fun hpending => absurd rfl hpending,
      fun _ => rfl, fun _ => ⟨0, le_rfl, .nil⟩, fun hpending => absurd rfl hpending⟩
  | execute _ hstep hrelease ih => exact ih.execute hstep hrelease
  | insert _ ih => exact ih.insert
  | raises _ hdiscards ih =>
    subst hdiscards
    exact ih.raises
  | reopens _ ih => exact ih.reopens

/-- At every point of a session whose releases are safe and whose `_flush` does not raise,
the log has the records of the committed transactions, and of nothing else: a record lacks
inserts only while it is written, or when an interruption cut it off. -/
theorem consistent_of_run {session : Session}
    (h : Run ReleasesSafely (· = false) log interruptions session) :
    Consistent log interruptions session := by
  have hsound := sound_run h
  refine ⟨hsound.idle, hsound.writing, ?_, ?_⟩
  · intro hzero hpending
    obtain ⟨cut, hcut, hrecords⟩ := hsound.idle hpending
    exact hrecords.eq_foldl (by omega)
  · intro hpending
    have htracks := hsound.tracks
    have hfinish : session.activity.finish = session.activity.wrapper := by
      simp [Activity.finish, hpending, hsound.discards hpending]
    rw [hfinish] at htracks
    have hin := Tracks.inTransaction htracks
    refine ⟨hin, ?_⟩
    cases ht : session.conn.transaction with
    | none => exact (htracks.closed ht).buffer
    | some transaction => exact (htracks.opened transaction ht).buffer

end

/-! An INSERT by itself, and one inside a transaction. -/

def insertedConnection : Connection := ⟨[⟨[insertEffect], none⟩], none⟩

/-- The log row of an autocommitted INSERT raises: its transaction row stays alone. -/
theorem interrupted_insert :
    Consistent emptyLog 1 ⟨insertedConnection, .idle (SQLiteWrapper.new ⟨1, []⟩)⟩ := by
  have hexecuted : Run ReleasesSafely (· = false) emptyLog 0
      ⟨insertedConnection,
        ⟨SQLiteWrapper.new emptyLog, [.transactionRow, .logRow insertOne], false⟩⟩ :=
    Run.start.execute (.dml : Step Connection.new (.dml insertOne) .ok insertedConnection) trivial
  exact consistent_of_run (hexecuted.insert.raises rfl)

/-- The wrapper whose `_flush` writes the INSERT of a committed transaction. -/
def flushingWrapper : SQLiteWrapper := openWrapper [insertOne] []

lemma run_flush (P : Connection → SQLiteWrapper → Call → Outcome → Prop) (R : Bool → Prop)
    (hP : ∀ conn w call outcome, P conn w call outcome) :
    Run P R emptyLog 0
      ⟨insertedConnection,
        ⟨flushingWrapper, [.transactionRow, .logRow insertOne], true⟩⟩ := by
  have hbegin : Run P R emptyLog 0 ⟨openConnection [] [], .idle (openWrapper [] [])⟩ :=
    Run.start.execute (.begin rfl) (hP _ _ _ _)
  have hdml : Step (openConnection [] []) (.dml insertOne) .ok
      (openConnection [insertEffect] []) := .dml
  have hinsert : Run P R emptyLog 0 ⟨openConnection [insertEffect] [], .idle flushingWrapper⟩ :=
    hbegin.execute hdml (hP _ _ _ _)
  have hcommit : Step (openConnection [insertEffect] []) .commit .ok insertedConnection :=
    @Step.commit _ (openTransaction [insertEffect] []) rfl
  exact hinsert.execute hcommit (hP _ _ _ _)

/-- A stop between COMMIT and the first insert leaves a committed INSERT without a log row. -/
theorem commit_not_logged :
    ¬ ∀ n session, Run (fun _ _ _ _ => True) (fun _ => True) emptyLog n session →
      session.activity.wrapper.log = committedLog emptyLog session.conn ∧
        (session.activity.pending = [] → Matches session.conn session.activity.wrapper) := by
  intro h
  have hrun := run_flush (fun _ _ _ _ => True) (fun _ => True) fun _ _ _ _ => trivial
  have hlog := (h _ _ hrun).1
  revert hlog
  decide

/-! An insert of `_flush` that raises leaves the wrapper in a transaction that is over. -/
example :
    ∃ session, Run (fun _ _ _ _ => True) (fun _ => True) emptyLog 1 session ∧
      session.activity.pending = [] ∧ session.conn.inTransaction = false ∧
      session.activity.wrapper.inTransaction = true ∧
      session.activity.wrapper.buffer = [insertOne] := by
  have hrun := run_flush (fun _ _ _ _ => True) (fun _ => True) fun _ _ _ _ => trivial
  exact ⟨_, hrun.raises trivial, rfl, rfl, rfl, rfl⟩

end SqliteReconcile.InterruptedLog
