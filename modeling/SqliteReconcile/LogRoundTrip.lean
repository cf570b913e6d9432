import SqliteReconcile.AcceptedReplay
import SqliteReconcile.ConflictSyntax
import SqliteReconcile.LogMerge

/-!
# Writing and reading the log tables

The wrapper and the merge append groups of statements to the two log tables; the merge reads
the groups above a watermark back, from one ordered stream of joined rows.
-/
namespace SqliteReconcile.LogRoundTrip
open Models Wrapper LogMerge ConflictSyntax

/-- A row of the transaction table. SQLite fills `committed_at`. -/
structure TransactionRow where
  id : ℕ
  committedAt : String
  deriving DecidableEq

structure LogRow where
  id : ℕ
  transactionId : ℕ
  originalSqlText : String
  toReplaySqlText : String
  isReplaySafe : ℕ
  replayBlockReason : Option String
  deriving DecidableEq

/-- Both tables, with the last id that AUTOINCREMENT gave in each. -/
structure LogDatabase where
  transactions : List TransactionRow
  log : List LogRow
  lastTransactionId : ℕ
  lastLogId : ℕ
  deriving DecidableEq

namespace LogDatabase

def empty : LogDatabase := ⟨[], [], 0, 0⟩

def insertTransaction (db : LogDatabase) (committedAt : String) : LogDatabase :=
  { db with
    transactions := db.transactions ++ [⟨db.lastTransactionId + 1, committedAt⟩]
    lastTransactionId := db.lastTransactionId + 1 }

def insertLogRow (transactionId : ℕ) (db : LogDatabase) (entry : LogEntry) : LogDatabase :=
  { db with
    log := db.log ++ [⟨db.lastLogId + 1, transactionId, entry.originalSqlText,
      entry.toReplaySqlText, entry.isReplaySafe.toNat, entry.replayBlockReason⟩]
    lastLogId := db.lastLogId + 1 }

def insertGroup (db : LogDatabase) (committedAt : String) (entries : List LogEntry) :
    LogDatabase :=
  entries.foldl (insertLogRow (db.lastTransactionId + 1)) (db.insertTransaction committedAt)

def write (db : LogDatabase) (committedAt : String) (statements : List LogEntry) : LogDatabase :=
  db.insertGroup committedAt statements

/-- Record one accepted transaction group in the working merge log. -/
def appendReplayedLog (db : LogDatabase) (committedAt : String)
    (statements : List LoggedStatement) : LogDatabase :=
  db.insertGroup committedAt (statements.map AcceptedReplay.logEntry)

end LogDatabase

def LogRow.entry (row : LogRow) : LogEntry where
  originalSqlText := row.originalSqlText
  toReplaySqlText := row.toReplaySqlText
  isReplaySafe := row.isReplaySafe ≠ 0
  replayBlockReason := row.replayBlockReason

inductive Append
  | write (committedAt : String) (statements : List LogEntry) (nonempty : statements ≠ [])
  | appendReplayedLog (committedAt : String) (statements : List LoggedStatement)
      (nonempty : statements ≠ [])

namespace Append

def committedAt : Append → String
  | .write committedAt _ _ | .appendReplayedLog committedAt _ _ => committedAt

def entries : Append → List LogEntry
  | .write _ statements _ => statements
  | .appendReplayedLog _ statements _ => statements.map AcceptedReplay.logEntry

lemma entries_ne_nil (append : Append) : append.entries ≠ [] := by
  cases append with
  | write _ _ nonempty => exact nonempty
  | appendReplayedLog _ _ nonempty => simpa [entries] using nonempty

def apply (db : LogDatabase) : Append → LogDatabase
  | .write committedAt statements _ => db.write committedAt statements
  | .appendReplayedLog committedAt statements _ => db.appendReplayedLog committedAt statements

lemma apply_eq (db : LogDatabase) (append : Append) :
    append.apply db = db.insertGroup append.committedAt append.entries := by
  cases append <;> rfl

end Append

/-- The tables after some calls. -/
def logOf (appends : List Append) : LogDatabase := appends.foldl Append.apply .empty

def ordered (left right : LogRow × TransactionRow) : Bool :=
  left.1.transactionId < right.1.transactionId ||
    left.1.transactionId = right.1.transactionId && left.1.id ≤ right.1.id

def tableRow (row : LogRow × TransactionRow) : LogTableRow where
  transactionId := row.1.transactionId
  committedAt := row.2.committedAt
  originalSqlText := row.1.originalSqlText
  toReplaySqlText := row.1.toReplaySqlText
  isReplaySafe := row.1.isReplaySafe ≠ 0
  replayBlockReason := row.1.replayBlockReason

/-- The log rows above a watermark, joined with their transactions. -/
def selectRows (db : LogDatabase) (since : ℕ) : List LogTableRow :=
  let joined := db.log.flatMap fun row =>
    (db.transactions.filter (·.id = row.transactionId)).map (row, ·)
  let selected := joined.filter (since < ·.1.transactionId)
  (selected.mergeSort ordered).map tableRow

/-- What comes of reading a stored text: its metadata, or the message of the error. sqlglot
raises a TokenError for a text of which it makes no tokens; it is no ParseError. -/
inductive Reading
  | metadata (metadata : StatementMetadata)
  | parseError (message : String)
  | tokenError (message : String)

/-- How the merge reads stored texts. -/
structure MergeReader where
  characters : Characters
  read : String → Reading
  unsupported : String → StatementMetadata

namespace MergeReader

variable (reader : MergeReader)

def neutralizeRollback (sql : String) : String :=
  String.ofList (neutralizeRollbackConflictResolution reader.characters sql.toList)

/-- The reader of texts that can be tokenized. -/
def sqlReader : SqlReader where
  neutralizeRollback := reader.neutralizeRollback
  parse sql :=
    match reader.read sql with
    | .metadata metadata => .ok metadata
    | .parseError message | .tokenError message => .error message
  unsupported := reader.unsupported

/-- `make_logged_statement` catches a ParseError only. -/
def makeStatement (branch : BranchName) (row : LogTableRow) (index : ℕ) :
    Except String LoggedStatement :=
  match reader.read (reader.neutralizeRollback row.toReplaySqlText) with
  | .tokenError message => .error message
  | .metadata _ | .parseError _ =>
    .ok (makeLoggedStatement reader.sqlReader branch index row.transactionId row.committedAt
      row.prepared)

def loadStatements (branch : BranchName) (rows : List LogTableRow) :
    Except String (List LoggedStatement) :=
  rows.zipIdx.mapM fun p => reader.makeStatement branch p.1 p.2

/-- Load the branch log entries of a database, grouped by committed transaction. -/
def load (branch : BranchName) (db : LogDatabase) (since : ℕ) :
    Except String (List LoggedTransaction) :=
  (reader.loadStatements branch (selectRows db since)).map groupLoggedTransactions

/-- The stored text can be tokenized once its OR ROLLBACK clause is gone. -/
def Tokenized (toReplaySqlText : String) : Prop :=
  ∀ message, reader.read (reader.neutralizeRollback toReplaySqlText) ≠ .tokenError message

end MergeReader

/-- The transactions that the rows of texts that can be tokenized make. -/
def loadTransactions (reader : SqlReader) (branch : BranchName) (db : LogDatabase) (since : ℕ) :
    List LoggedTransaction :=
  loadLoggedTransactions reader branch (selectRows db since)

/-- The transaction ids that the calls get, from the first one. -/
def numbered (first : ℕ) (appends : List Append) : List (ℕ × Append) :=
  (appends.zipIdx first).map Prod.swap

@[simp] lemma numbered_nil (first : ℕ) : numbered first [] = [] := rfl

@[simp] lemma numbered_cons (first : ℕ) (append : Append) (rest : List Append) :
    numbered first (append :: rest) = (first, append) :: numbered (first + 1) rest := rfl

lemma numbered_append (first : ℕ) (appends others : List Append) :
    numbered first (appends ++ others) =
      numbered first appends ++ numbered (first + appends.length) others := by
  simp [numbered, List.zipIdx_append]

/-- The log ids grow, up to the last one that was given. -/
structure Increasing (db : LogDatabase) : Prop where
  increasing : db.log.Pairwise (·.id < ·.id)
  bounded : ∀ row ∈ db.log, row.id ≤ db.lastLogId

/-- The tables hold what the calls appended. -/
structure Holds (appends : List Append) (db : LogDatabase) : Prop where
  transactions : db.transactions = (numbered 1 appends).map fun p => ⟨p.1, p.2.committedAt⟩
  log : db.log.map (fun row => (row.transactionId, row.entry)) =
    (numbered 1 appends).flatMap fun p => p.2.entries.map (p.1, ·)
  lastTransactionId : db.lastTransactionId = appends.length
  increasing : Increasing db

lemma increasing_insertLogRow {db : LogDatabase} (h : Increasing db) (transactionId : ℕ)
    (entry : LogEntry) : Increasing (db.insertLogRow transactionId entry) := by
  constructor
  · simp only [LogDatabase.insertLogRow, List.pairwise_append, List.pairwise_singleton,
      List.mem_singleton, forall_eq, true_and]
    refine ⟨h.increasing, ?_⟩
    intro row hrow
    have hbound := h.bounded row hrow
    omega
  · intro row hrow
    simp only [LogDatabase.insertLogRow, List.mem_append, List.mem_singleton] at hrow ⊢
    rcases hrow with hrow | rfl
    · have hbound := h.bounded row hrow
      omega
    · exact le_rfl

lemma foldl_insertLogRow (transactionId : ℕ) (entries : List LogEntry) (db : LogDatabase) :
    let after := entries.foldl (LogDatabase.insertLogRow transactionId) db
    after.transactions = db.transactions ∧ after.lastTransactionId = db.lastTransactionId ∧
      after.log.map (fun row => (row.transactionId, row.entry)) =
        db.log.map (fun row => (row.transactionId, row.entry)) ++
          entries.map (transactionId, ·) := by
  induction entries generalizing db with
  | nil => simp
  | cons entry rest ih =>
    obtain ⟨htransactions, hlast, hlog⟩ := ih (db.insertLogRow transactionId entry)
    refine ⟨htransactions, hlast, ?_⟩
    have hentry : (LogRow.entry ⟨db.lastLogId + 1, transactionId, entry.originalSqlText,
        entry.toReplaySqlText, entry.isReplaySafe.toNat, entry.replayBlockReason⟩) = entry := by
      cases entry with
      | mk original toReplay safe reason => cases safe <;> rfl
    rw [List.foldl_cons, hlog]
    simp [LogDatabase.insertLogRow, hentry]

lemma increasing_foldl (transactionId : ℕ) (entries : List LogEntry) {db : LogDatabase}
    (h : Increasing db) :
    Increasing (entries.foldl (LogDatabase.insertLogRow transactionId) db) := by
  induction entries generalizing db with
  | nil => exact h
  | cons entry rest ih => exact ih (increasing_insertLogRow h transactionId entry)

/-- The tables as the replay of accepted transactions sees them. -/
def LogDatabase.mergeLog (db : LogDatabase) : Connection.MergeLog where
  lastTransactionId := db.lastTransactionId
  transactions := db.transactions.map (·.id)
  rows := db.log.map fun row => (row.transactionId, row.entry)

/-- The tables as the wrapper sees them. -/
def LogDatabase.logTables (db : LogDatabase) : LogTables where
  lastTransactionId := db.lastTransactionId
  rows := db.log.map fun row => (row.transactionId, row.entry)

lemma mergeLog_appendReplayedLog (db : LogDatabase) (committedAt : String)
    (statements : List LoggedStatement) :
    (db.appendReplayedLog committedAt statements).mergeLog =
      db.mergeLog.append (statements.map AcceptedReplay.logEntry) := by
  obtain ⟨htransactions, hlast, hlog⟩ := foldl_insertLogRow (db.lastTransactionId + 1)
    (statements.map AcceptedReplay.logEntry) (db.insertTransaction committedAt)
  simp only [LogDatabase.appendReplayedLog, LogDatabase.insertGroup, LogDatabase.mergeLog,
    htransactions, hlast, hlog]
  simp [LogDatabase.insertTransaction, Connection.MergeLog.append,
    Connection.MergeLog.insertTransaction, Connection.MergeLog.insertRows]

lemma logTables_write (db : LogDatabase) (committedAt : String) (statements : List LogEntry)
    {wrapper : SQLiteWrapper} (h : wrapper.log = db.logTables) :
    (db.write committedAt statements).logTables = (wrapper.write statements).log := by
  obtain ⟨-, hlast, hlog⟩ := foldl_insertLogRow (db.lastTransactionId + 1) statements
    (db.insertTransaction committedAt)
  simp only [LogDatabase.write, LogDatabase.insertGroup, LogDatabase.logTables, hlast, hlog]
  simp [SQLiteWrapper.write, h, LogDatabase.insertTransaction, LogDatabase.logTables]

lemma holds_apply {appends : List Append} {db : LogDatabase} (h : Holds appends db)
    (append : Append) : Holds (appends ++ [append]) (append.apply db) := by
  have hstart : Increasing (db.insertTransaction append.committedAt) :=
    ⟨h.increasing.increasing, h.increasing.bounded⟩
  obtain ⟨htransactions, hlast, hlog⟩ := foldl_insertLogRow (db.lastTransactionId + 1)
    append.entries (db.insertTransaction append.committedAt)
  have hafter := increasing_foldl (db.lastTransactionId + 1) append.entries hstart
  rw [Append.apply_eq]
  refine ⟨?_, ?_, ?_, hafter⟩
  · rw [LogDatabase.insertGroup, htransactions, LogDatabase.insertTransaction, h.transactions,
      h.lastTransactionId, numbered_append]
    simp [Nat.add_comm]
  · rw [LogDatabase.insertGroup, hlog, LogDatabase.insertTransaction, h.log,
      h.lastTransactionId, numbered_append]
    simp [Nat.add_comm]
  · rw [LogDatabase.insertGroup, hlast, LogDatabase.insertTransaction, h.lastTransactionId]
    simp

lemma holds_logOf (appends : List Append) : Holds appends (logOf appends) := by
  induction appends using List.reverseRecOn with
  | nil => exact ⟨rfl, rfl, rfl, ⟨List.Pairwise.nil, nofun⟩⟩
  | append_singleton appends append ih =>
    have hstep : logOf (appends ++ [append]) = append.apply (logOf appends) := by
      simp [logOf]
    rw [hstep]
    exact holds_apply ih append

lemma le_of_mem_numbered {first : ℕ} {appends : List Append} {p : ℕ × Append}
    (h : p ∈ numbered first appends) : first ≤ p.1 ∧ p.1 < first + appends.length := by
  induction appends generalizing first with
  | nil => cases h
  | cons append rest ih =>
    rw [numbered_cons, List.mem_cons] at h
    rw [List.length_cons]
    rcases h with rfl | h
    · exact ⟨le_rfl, by omega⟩
    · have hrest := ih h
      omega

lemma filter_numbered {first : ℕ} {appends : List Append} {p : ℕ × Append}
    (h : p ∈ numbered first appends) :
    (numbered first appends).filter (·.1 = p.1) = [p] := by
  induction appends generalizing first with
  | nil => cases h
  | cons append rest ih =>
    rw [numbered_cons, List.mem_cons] at h
    rw [numbered_cons, List.filter_cons]
    rcases h with rfl | h
    · have hnone : (numbered (first + 1) rest).filter (·.1 = first) = [] := by
        rw [List.filter_eq_nil_iff]
        intro q hq
        have hle := (le_of_mem_numbered hq).1
        simp only [decide_eq_true_eq]
        omega
      simp [hnone]
    · have hle := (le_of_mem_numbered h).1
      have hne : first ≠ p.1 := by omega
      simp only [hne, decide_false, Bool.false_eq_true, if_false]
      exact ih h

lemma sorted_numbered (first : ℕ) (appends : List Append) :
    ((numbered first appends).flatMap fun p => p.2.entries.map fun _ => p.1).Pairwise (· ≤ ·) := by
  induction appends generalizing first with
  | nil => exact List.Pairwise.nil
  | cons append rest ih =>
    rw [numbered_cons, List.flatMap_cons, List.pairwise_append]
    refine ⟨?_, ih (first + 1), ?_⟩
    · rw [List.pairwise_map]
      exact List.pairwise_of_forall fun _ _ => le_rfl
    · intro left hleft right hright
      obtain ⟨entry, -, rfl⟩ := List.mem_map.mp hleft
      obtain ⟨q, hq, hmem⟩ := List.mem_flatMap.mp hright
      obtain ⟨entry', -, rfl⟩ := List.mem_map.mp hmem
      have hle := (le_of_mem_numbered hq).1
      omega

section

variable {appends : List Append} {db : LogDatabase}

lemma Holds.transaction_of_row (h : Holds appends db) {row : LogRow} (hrow : row ∈ db.log) :
    ∃ p ∈ numbered 1 appends, p.1 = row.transactionId ∧
      db.transactions.filter (·.id = row.transactionId) = [⟨p.1, p.2.committedAt⟩] := by
  have hview : (row.transactionId, row.entry) ∈
      (numbered 1 appends).flatMap fun p => p.2.entries.map (p.1, ·) := by
    rw [← h.log]
    exact List.mem_map_of_mem hrow
  obtain ⟨p, hp, hmem⟩ := List.mem_flatMap.mp hview
  obtain ⟨entry, -, heq⟩ := List.mem_map.mp hmem
  have hid : p.1 = row.transactionId := congrArg Prod.fst heq
  refine ⟨p, hp, hid, ?_⟩
  rw [h.transactions, List.filter_map, ← hid]
  have hfilter := filter_numbered hp
  simp only [Function.comp_def]
  rw [hfilter]
  rfl

lemma Holds.pairwise_ordered (h : Holds appends db) :
    db.log.Pairwise fun left right => left.transactionId ≤ right.transactionId ∧
      left.id ≤ right.id := by
  have hsorted : (db.log.map (·.transactionId)).Pairwise (· ≤ ·) := by
    have hids : db.log.map (·.transactionId) =
        (db.log.map fun row => (row.transactionId, row.entry)).map Prod.fst := by
      simp
    rw [hids, h.log, List.map_flatMap]
    simpa [Function.comp_def] using sorted_numbered 1 appends
  rw [List.pairwise_map] at hsorted
  exact hsorted.imp₂ (fun _ _ htransaction hid => ⟨htransaction, hid.le⟩) h.increasing.increasing

def groupRows (p : ℕ × Append) : List LogTableRow :=
  p.2.entries.map fun entry => ⟨p.1, p.2.committedAt, entry.originalSqlText,
    entry.toReplaySqlText, entry.isReplaySafe, entry.replayBlockReason⟩

lemma joined_fst (h : Holds appends db) :
    (db.log.flatMap fun row =>
      (db.transactions.filter (·.id = row.transactionId)).map (row, ·)).map Prod.fst = db.log := by
  have hsingle : ∀ row ∈ db.log, (db.transactions.filter (·.id = row.transactionId)).map
      (fun _ => row) = [row] := by
    intro row hrow
    obtain ⟨p, -, -, hfilter⟩ := h.transaction_of_row hrow
    rw [hfilter]
    rfl
  rw [List.map_flatMap]
  simp only [List.map_map, Function.comp_def]
  rw [List.flatMap_congr hsingle]
  simp

lemma joined_tableRow (h : Holds appends db) :
    (db.log.flatMap fun row =>
      (db.transactions.filter (·.id = row.transactionId)).map (row, ·)).map tableRow =
      (numbered 1 appends).flatMap groupRows := by
  have hview : (db.log.flatMap fun row =>
      (db.transactions.filter (·.id = row.transactionId)).map (row, ·)).map tableRow =
      (db.log.map fun row => (row.transactionId, row.entry)).flatMap fun view =>
        (db.transactions.filter (·.id = view.1)).map fun transaction =>
          ⟨view.1, transaction.committedAt, view.2.originalSqlText, view.2.toReplaySqlText,
            view.2.isReplaySafe, view.2.replayBlockReason⟩ := by
    rw [List.map_flatMap, List.flatMap_map]
    simp only [List.map_map]
    rfl
  rw [hview, h.log, List.flatMap_assoc]
  apply List.flatMap_congr
  intro p hp
  have hfilter : db.transactions.filter (·.id = p.1) = [⟨p.1, p.2.committedAt⟩] := by
    rw [h.transactions, List.filter_map]
    simp only [Function.comp_def]
    rw [filter_numbered hp]
    rfl
  rw [List.flatMap_map]
  simp only [hfilter, groupRows]
  exact (List.map_eq_flatMap).symm

lemma selectRows_eq (h : Holds appends db) (since : ℕ) :
    selectRows db since = ((numbered 1 appends).filter (since < ·.1)).flatMap groupRows := by
  have hordered : (db.log.flatMap fun row =>
      (db.transactions.filter (·.id = row.transactionId)).map (row, ·)).Pairwise
        fun left right => ordered left right = true := by
    have hpairs := h.pairwise_ordered
    rw [← joined_fst h, List.pairwise_map] at hpairs
    apply hpairs.imp
    intro left right ⟨htransaction, hid⟩
    simp only [ordered, Bool.or_eq_true, Bool.and_eq_true, decide_eq_true_eq]
    omega
  unfold selectRows
  dsimp only
  rw [List.mergeSort_of_pairwise (hordered.filter _)]
  have hcomm : ((db.log.flatMap fun row =>
      (db.transactions.filter (·.id = row.transactionId)).map (row, ·)).filter
        (since < ·.1.transactionId)).map tableRow =
      (((db.log.flatMap fun row =>
        (db.transactions.filter (·.id = row.transactionId)).map (row, ·)).map tableRow).filter
        (since < ·.transactionId)) := by
    rw [List.filter_map]
    rfl
  rw [hcomm, joined_tableRow h, List.filter_flatMap]
  have hgroup : ∀ p ∈ numbered 1 appends, (groupRows p).filter (since < ·.transactionId) =
      if since < p.1 then groupRows p else [] := by
    intro p _
    split_ifs with hlt
    · rw [List.filter_eq_self]
      intro row hrow
      obtain ⟨entry, -, rfl⟩ := List.mem_map.mp hrow
      simpa using hlt
    · rw [List.filter_eq_nil_iff]
      intro row hrow
      obtain ⟨entry, -, rfl⟩ := List.mem_map.mp hrow
      simpa using hlt
  rw [List.flatMap_congr hgroup]
  generalize numbered 1 appends = groups
  induction groups with
  | nil => rfl
  | cons p rest ih =>
    rw [List.flatMap_cons, ih, List.filter_cons]
    by_cases hlt : since < p.1 <;> simp [hlt]

lemma filter_numbered_eq (appends : List Append) (since : ℕ) :
    (numbered 1 appends).filter (since < ·.1) = numbered (since + 1) (appends.drop since) := by
  conv_lhs => rw [← List.take_append_drop since appends, numbered_append, List.filter_append]
  have hbelow : (numbered 1 (appends.take since)).filter (since < ·.1) = [] := by
    rw [List.filter_eq_nil_iff]
    intro p hp
    have hlt := (le_of_mem_numbered hp).2
    rw [List.length_take] at hlt
    simp only [decide_eq_true_eq]
    omega
  have habove : (numbered (1 + (appends.take since).length) (appends.drop since)).filter
      (since < ·.1) = numbered (since + 1) (appends.drop since) := by
    by_cases hlong : appends.length ≤ since
    · rw [List.drop_of_length_le hlong]
      rfl
    · have hlength : 1 + (appends.take since).length = since + 1 := by
        rw [List.length_take]
        omega
      rw [hlength, List.filter_eq_self]
      intro p hp
      have hle := (le_of_mem_numbered hp).1
      simpa using hle
  rw [hbelow, habove, List.nil_append]

section

variable (reader : SqlReader) (branch : BranchName)

def groupStatements (first : ℕ) (p : ℕ × Append) : List LoggedStatement :=
  (groupRows p).mapIdx fun index row =>
    makeLoggedStatement reader branch ((first + index : ℕ) : ℤ) row.transactionId row.committedAt
      row.prepared

def loadedGroups : ℕ → List (ℕ × Append) → List (List LoggedStatement)
  | _, [] => []
  | first, p :: rest =>
    groupStatements reader branch first p :: loadedGroups (first + p.2.entries.length) rest

lemma length_groupRows (p : ℕ × Append) : (groupRows p).length = p.2.entries.length := by
  simp [groupRows]

lemma mapIdx_groupRows (first : ℕ) (groups : List (ℕ × Append)) :
    ((groups.flatMap groupRows).mapIdx fun index row =>
      makeLoggedStatement reader branch ((first + index : ℕ) : ℤ) row.transactionId
        row.committedAt row.prepared) = (loadedGroups reader branch first groups).flatten := by
  induction groups generalizing first with
  | nil => rfl
  | cons p rest ih =>
    rw [List.flatMap_cons, List.mapIdx_append, loadedGroups, List.flatten_cons, ← ih]
    congr 1
    apply List.mapIdx_eq_mapIdx_iff.mpr
    intro index _
    rw [length_groupRows]
    congr 2
    omega

lemma groupStatements_ne_nil (first : ℕ) (p : ℕ × Append) :
    groupStatements reader branch first p ≠ [] := by
  have hne := p.2.entries_ne_nil
  simpa [groupStatements, groupRows] using hne

lemma transactionId_groupStatements {first : ℕ} {p : ℕ × Append} {statement : LoggedStatement}
    (h : statement ∈ groupStatements reader branch first p) : statement.transactionId = p.1 := by
  obtain ⟨index, hindex, rfl⟩ := List.mem_mapIdx.mp h
  simp [makeLoggedStatement, groupRows]

lemma mem_loadedGroups {first id : ℕ} {appends : List Append} {group : List LoggedStatement}
    (h : group ∈ loadedGroups reader branch first (numbered id appends)) :
    ∃ first' p, p ∈ numbered id appends ∧ group = groupStatements reader branch first' p := by
  induction appends generalizing first id with
  | nil => cases h
  | cons append rest ih =>
    rw [numbered_cons, loadedGroups, List.mem_cons] at h
    rcases h with rfl | h
    · exact ⟨first, (id, append), List.mem_cons_self, rfl⟩
    · obtain ⟨first', p, hp, heq⟩ := ih h
      exact ⟨first', p, List.mem_cons_of_mem _ hp, heq⟩

/-- No statement joins a neighbouring group, and no group is split. -/
lemma splitBy_loadedGroups (first : ℕ) (id : ℕ) (appends : List Append) :
    (loadedGroups reader branch first (numbered id appends)).flatten.splitBy
        (fun left right => left.transactionId == right.transactionId) =
      loadedGroups reader branch first (numbered id appends) := by
  apply List.splitBy_flatten
  · intro hnil
    obtain ⟨first', p, -, heq⟩ := mem_loadedGroups reader branch hnil
    exact groupStatements_ne_nil reader branch first' p heq.symm
  · intro group hgroup
    obtain ⟨first', p, -, rfl⟩ := mem_loadedGroups reader branch hgroup
    apply List.Pairwise.isChain
    apply List.pairwise_of_forall_mem_list
    intro left hleft right hright
    rw [transactionId_groupStatements reader branch hleft,
      transactionId_groupStatements reader branch hright]
    exact beq_self_eq_true p.1
  · induction appends generalizing first id with
    | nil => exact List.IsChain.nil
    | cons append rest ih =>
      rw [numbered_cons, loadedGroups, List.isChain_cons]
      refine ⟨?_, ih _ _⟩
      intro group hgroup
      obtain ⟨first', p, hp, rfl⟩ :=
        mem_loadedGroups reader branch (List.mem_of_mem_head? hgroup)
      refine ⟨groupStatements_ne_nil reader branch first (id, append),
        groupStatements_ne_nil reader branch first' p, ?_⟩
      have hle := (le_of_mem_numbered hp).1
      rw [transactionId_groupStatements reader branch (List.getLast_mem _),
        transactionId_groupStatements reader branch (List.head_mem _)]
      have hne : id ≠ p.1 := by omega
      simpa using hne

/-- What a log entry is read back as: the original text unless it is empty, the replay text
without OR ROLLBACK, and the replay-safe flag and the block reason unless that text does not
parse. -/
def readBack (entry : LogEntry) : LogEntry where
  originalSqlText := if entry.originalSqlText = "" then entry.toReplaySqlText
    else entry.originalSqlText
  toReplaySqlText := reader.neutralizeRollback entry.toReplaySqlText
  isReplaySafe :=
    match reader.parse (reader.neutralizeRollback entry.toReplaySqlText) with
    | .ok _ => entry.isReplaySafe
    | .error _ => false
  replayBlockReason :=
    match reader.parse (reader.neutralizeRollback entry.toReplaySqlText) with
    | .ok _ => entry.replayBlockReason
    | .error message =>
      if entry.replayBlockReason.getD "" = "" then
        some (metadataParseErrorReason ++ ": " ++ message)
      else entry.replayBlockReason

lemma logEntry_makeLoggedStatement (index : ℤ) (transactionId : ℕ) (committedAt : String)
    (entry : LogEntry) :
    AcceptedReplay.logEntry (makeLoggedStatement reader branch index transactionId committedAt
      ⟨entry.originalSqlText, entry.toReplaySqlText, entry.isReplaySafe,
        entry.replayBlockReason⟩) = readBack reader entry := by
  unfold AcceptedReplay.logEntry makeLoggedStatement readBack readPreparedSql
  cases reader.parse (reader.neutralizeRollback entry.toReplaySqlText) with
  | ok metadata => rfl
  | error message =>
    cases entry.replayBlockReason with
    | none => simp
    | some reason => by_cases hempty : reason = "" <;> simp [hempty]

lemma logEntry_groupStatements (first : ℕ) (p : ℕ × Append) :
    (groupStatements reader branch first p).map AcceptedReplay.logEntry =
      p.2.entries.map (readBack reader) := by
  apply List.ext_getElem?
  intro index
  simp [groupStatements, groupRows, LogTableRow.prepared, logEntry_makeLoggedStatement,
    Function.comp_def]

lemma groupTransaction_loadedGroups (first id index : ℕ) (appends : List Append) :
    (((loadedGroups reader branch first (numbered id appends)).zipIdx index).filterMap
        groupTransaction).map (fun transaction => (transaction.transactionId,
          transaction.committedAt, transaction.statements.map AcceptedReplay.logEntry)) =
      (numbered id appends).map fun p =>
        (p.1, p.2.committedAt, p.2.entries.map (readBack reader)) := by
  induction appends generalizing first id index with
  | nil => rfl
  | cons append rest ih =>
    have hentries := logEntry_groupStatements reader branch first (id, append)
    rw [numbered_cons, loadedGroups, List.zipIdx_cons, List.map_cons,
      ← ih (first + append.entries.length) (id + 1) (index + 1)]
    cases hgroup : groupStatements reader branch first (id, append) with
    | nil => exact absurd hgroup (groupStatements_ne_nil reader branch first (id, append))
    | cons statement others =>
      have hfirst : (groupStatements reader branch first (id, append))[0]? = some statement := by
        rw [hgroup]
        rfl
      have hcommitted : statement.committedAt = append.committedAt := by
        simp only [groupStatements, groupRows, List.getElem?_mapIdx, List.getElem?_map] at hfirst
        obtain ⟨row, hrow, rfl⟩ := Option.map_eq_some_iff.mp hfirst
        obtain ⟨entry, -, rfl⟩ := Option.map_eq_some_iff.mp hrow
        rfl
      have hid : statement.transactionId = id :=
        transactionId_groupStatements reader branch
          (p := (id, append)) (by rw [hgroup]; exact List.mem_cons_self)
      rw [hgroup] at hentries
      rw [List.filterMap_cons_some (show groupTransaction (statement :: others, index) = _
        from rfl), List.map_cons, ← hentries]
      simp [loggedTransaction, hid, hcommitted]

lemma statements_loadedGroups (index : ℕ) (groups : List (List LoggedStatement))
    (h : [] ∉ groups) :
    ((groups.zipIdx index).filterMap groupTransaction).map (·.statements) = groups := by
  induction groups generalizing index with
  | nil => rfl
  | cons group rest ih =>
    rw [List.mem_cons, not_or] at h
    cases group with
    | nil => exact absurd rfl h.1
    | cons statement others =>
      rw [List.zipIdx_cons, List.filterMap_cons_some (show
        groupTransaction (statement :: others, index) = _ from rfl), List.map_cons, ih _ h.2]
      rfl

end

end

section

variable (branch : BranchName)

/-- The transactions above a watermark are read back: their ids, their commit times, their
statements in order, numbered consecutively, each with its own transaction. -/
structure ReadsBack (read : LogEntry → LogEntry) (loaded : List LoggedTransaction)
    (appends : List Append) (since : ℕ) : Prop where
  transactions : loaded.map (fun transaction => (transaction.transactionId,
      transaction.committedAt, transaction.statements.map AcceptedReplay.logEntry)) =
    (numbered (since + 1) (appends.drop since)).map fun p =>
      (p.1, p.2.committedAt, p.2.entries.map read)
  branchIndexes : (loaded.flatMap (·.statements)).map (·.branchIndex) =
    (List.range (loaded.flatMap (·.statements)).length).map fun index : ℕ => (index : ℤ)
  together : ∀ transaction ∈ loaded, ∀ statement ∈ transaction.statements,
    statement.transactionId = transaction.transactionId ∧ statement.branch = branch

lemma loadTransactions_eq (reader : SqlReader) {appends : List Append} {db : LogDatabase}
    (h : Holds appends db) (since : ℕ) :
    loadTransactions reader branch db since =
      ((loadedGroups reader branch 0 (numbered (since + 1) (appends.drop since))).zipIdx).filterMap
        groupTransaction := by
  have hstatements : loadLoggedStatements reader branch (selectRows db since) =
      (loadedGroups reader branch 0 (numbered (since + 1) (appends.drop since))).flatten := by
    rw [selectRows_eq h, filter_numbered_eq, ← mapIdx_groupRows]
    simp [loadLoggedStatements]
  unfold loadTransactions loadLoggedTransactions groupLoggedTransactions
  dsimp only
  rw [hstatements, splitBy_loadedGroups]

lemma flatMap_statements (reader : SqlReader) {appends : List Append} {db : LogDatabase}
    (h : Holds appends db) (since : ℕ) :
    (loadTransactions reader branch db since).flatMap (·.statements) =
      (((numbered (since + 1) (appends.drop since)).flatMap groupRows).mapIdx fun index row =>
        makeLoggedStatement reader branch (index : ℤ) row.transactionId row.committedAt
          row.prepared) := by
  have hnonempty : [] ∉ loadedGroups reader branch 0
      (numbered (since + 1) (appends.drop since)) := by
    rw [← splitBy_loadedGroups]
    exact List.nil_notMem_splitBy _ _
  have hgroups := mapIdx_groupRows reader branch 0 (numbered (since + 1) (appends.drop since))
  simp only [Nat.zero_add] at hgroups
  rw [hgroups, List.flatMap_def, loadTransactions_eq branch reader h,
    statements_loadedGroups 0 _ hnonempty]

/-- Whatever the tables hold is read back. -/
lemma readsBack_of_holds (reader : SqlReader) {appends : List Append} {db : LogDatabase}
    (h : Holds appends db) (since : ℕ) :
    ReadsBack branch (readBack reader) (loadTransactions reader branch db since) appends
      since where
  transactions := by
    rw [loadTransactions_eq branch reader h]
    exact groupTransaction_loadedGroups reader branch 0 (since + 1) 0 (appends.drop since)
  branchIndexes := by
    rw [flatMap_statements branch reader h]
    apply List.ext_getElem?
    intro index
    simp only [List.getElem?_map, List.getElem?_mapIdx, List.length_mapIdx, Option.map_map]
    by_cases hlt : index < ((numbered (since + 1) (appends.drop since)).flatMap groupRows).length
    · rw [List.getElem?_eq_getElem hlt, List.getElem?_range hlt]
      rfl
    · rw [List.getElem?_eq_none (by omega), List.getElem?_eq_none (by simpa using hlt)]
      rfl
  together := by
    intro transaction htransaction statement hstatement
    rw [loadTransactions_eq branch reader h] at htransaction
    obtain ⟨⟨group, index⟩, hgroup, heq⟩ := List.mem_filterMap.mp htransaction
    obtain ⟨first, p, -, rfl⟩ :=
      mem_loadedGroups reader branch (List.fst_mem_of_mem_zipIdx hgroup)
    cases hstatements : groupStatements reader branch first p with
    | nil => exact absurd hstatements (groupStatements_ne_nil reader branch first p)
    | cons head others =>
      rw [hstatements] at heq
      cases heq
      have hmem : ∀ other ∈ head :: others,
          other.transactionId = p.1 ∧ other.branch = branch := by
        intro other hother
        rw [← hstatements] at hother
        refine ⟨transactionId_groupStatements reader branch hother, ?_⟩
        obtain ⟨position, hposition, rfl⟩ := List.mem_mapIdx.mp hother
        rfl
      have hid : (loggedTransaction head others index).transactionId = p.1 :=
        (hmem head List.mem_cons_self).1
      rw [hid]
      exact hmem statement hstatement

lemma entry_ext {entry other : LogEntry} (horiginal : entry.originalSqlText = other.originalSqlText)
    (hreplay : entry.toReplaySqlText = other.toReplaySqlText)
    (hsafe : entry.isReplaySafe = other.isReplaySafe)
    (hreason : entry.replayBlockReason = other.replayBlockReason) : entry = other := by
  cases entry
  cases other
  simp_all

/-- Reading an entry back a second time changes it exactly when its replay text has another
OR ROLLBACK clause. -/
lemma readBack_readBack_iff {reader : SqlReader} (hnil : reader.neutralizeRollback "" = "")
    (entry : LogEntry) :
    readBack reader (readBack reader entry) = readBack reader entry ↔
      reader.neutralizeRollback (readBack reader entry).toReplaySqlText =
        (readBack reader entry).toReplaySqlText := by
  constructor
  · intro h
    exact congrArg LogEntry.toReplaySqlText h
  · intro hagain
    have horiginal : (readBack reader entry).originalSqlText = "" →
        (readBack reader entry).toReplaySqlText = "" := by
      simp only [readBack]
      split_ifs with hempty
      · intro htext
        rw [htext, hnil]
      · intro htext
        exact absurd htext hempty
    have htext : (readBack reader (readBack reader entry)).originalSqlText =
        (readBack reader entry).originalSqlText := by
      rw [readBack]
      dsimp only
      split_ifs with hempty
      · rw [hempty, horiginal hempty]
      · rfl
    have hsafe : (readBack reader (readBack reader entry)).isReplaySafe =
        (readBack reader entry).isReplaySafe := by
      rw [readBack]
      dsimp only
      rw [hagain]
      cases hparse : reader.parse (readBack reader entry).toReplaySqlText with
      | ok metadata => rfl
      | error message =>
        simp only [readBack] at hparse ⊢
        simp only [hparse]
    have hreason : (readBack reader (readBack reader entry)).replayBlockReason =
        (readBack reader entry).replayBlockReason := by
      rw [readBack]
      dsimp only
      rw [hagain]
      cases hparse : reader.parse (readBack reader entry).toReplaySqlText with
      | ok metadata => rfl
      | error message =>
        have hgiven : (readBack reader entry).replayBlockReason.getD "" ≠ "" := by
          simp only [readBack] at hparse ⊢
          simp only [hparse]
          split_ifs with hempty
          · simp [metadataParseErrorReason]
          · exact hempty
        dsimp only
        rw [if_neg hgiven]
    exact entry_ext htext hagain hsafe hreason

lemma load_appended (reader : SqlReader) {appends : List Append} {db : LogDatabase}
    (h : Holds appends db) (committedAt : String) {statements : List LoggedStatement}
    (hne : statements ≠ []) :
    ∃ reloaded, loadTransactions reader branch (db.appendReplayedLog committedAt statements)
        appends.length = [reloaded] ∧
      reloaded.statements.map AcceptedReplay.logEntry =
        statements.map fun statement => readBack reader (AcceptedReplay.logEntry statement) := by
  have happlied := holds_apply h (.appendReplayedLog committedAt statements hne)
  have hread := (readsBack_of_holds branch reader happlied appends.length).transactions
  rw [List.drop_left] at hread
  obtain ⟨reloaded, hreloaded, hentries⟩ := List.map_eq_singleton_iff.mp hread
  refine ⟨reloaded, hreloaded, ?_⟩
  have hthird := congrArg (·.2.2) hentries
  simpa [Append.entries, Function.comp_def] using hthird

lemma neutralizeRollback_nil (reader : MergeReader) :
    reader.sqlReader.neutralizeRollback "" = "" := rfl

lemma makeStatement_eq_ok {reader : MergeReader} {row : LogTableRow} {index : ℕ}
    {statement : LoggedStatement} :
    reader.makeStatement branch row index = .ok statement ↔
      reader.Tokenized row.toReplaySqlText ∧
        makeLoggedStatement reader.sqlReader branch index row.transactionId row.committedAt
          row.prepared = statement := by
  unfold MergeReader.makeStatement MergeReader.Tokenized
  cases reader.read (reader.neutralizeRollback row.toReplaySqlText) with
  | metadata metadata => simp
  | parseError message => simp
  | tokenError message => simp

/-- The statements are read exactly when each of their texts can be tokenized. -/
lemma loadStatements_eq_ok {reader : MergeReader} {rows : List LogTableRow}
    {statements : List LoggedStatement} :
    reader.loadStatements branch rows = .ok statements ↔
      (∀ row ∈ rows, reader.Tokenized row.toReplaySqlText) ∧
        loadLoggedStatements reader.sqlReader branch rows = statements := by
  have hall : reader.loadStatements branch rows = .ok statements ↔
      (∀ p ∈ rows.zipIdx, reader.Tokenized p.1.toReplaySqlText) ∧
        (rows.zipIdx.map fun p => makeLoggedStatement reader.sqlReader branch p.2
          p.1.transactionId p.1.committedAt p.1.prepared) = statements := by
    unfold MergeReader.loadStatements
    rw [Outcomes.mapM_eq_ok]
    simp only [makeStatement_eq_ok]
    induction rows.zipIdx generalizing statements with
    | nil => simp [eq_comm]
    | cons p rest ih =>
      rw [List.forall₂_cons_left_iff, List.forall_mem_cons, List.map_cons]
      constructor
      · rintro ⟨statement, others, ⟨htokenized, rfl⟩, hrest, rfl⟩
        obtain ⟨hothers, heq⟩ := ih.mp hrest
        exact ⟨⟨htokenized, hothers⟩, by rw [heq]⟩
      · rintro ⟨⟨htokenized, hothers⟩, rfl⟩
        exact ⟨_, _, ⟨htokenized, rfl⟩, ih.mpr ⟨hothers, rfl⟩, rfl⟩
  rw [hall, loadLoggedStatements, List.mapIdx_eq_zipIdx_map]
  refine and_congr_left fun _ => ?_
  constructor
  · intro h row hrow
    obtain ⟨index, hindex⟩ := List.mem_iff_getElem?.mp hrow
    exact h (row, index) (List.mk_mem_zipIdx_iff_getElem?.mpr hindex)
  · exact fun h p hp => h p.1 (List.fst_mem_of_mem_zipIdx hp)

lemma load_eq_ok {reader : MergeReader} {appends : List Append} {db : LogDatabase}
    (h : Holds appends db) {since : ℕ} {transactions : List LoggedTransaction} :
    reader.load branch db since = .ok transactions ↔
      (∀ append ∈ appends.drop since, ∀ entry ∈ append.entries,
        reader.Tokenized entry.toReplaySqlText) ∧
      loadTransactions reader.sqlReader branch db since = transactions := by
  have hrows : (∀ row ∈ selectRows db since, reader.Tokenized row.toReplaySqlText) ↔
      ∀ append ∈ appends.drop since, ∀ entry ∈ append.entries,
        reader.Tokenized entry.toReplaySqlText := by
    rw [selectRows_eq h, filter_numbered_eq]
    simp only [numbered, List.mem_flatMap, List.mem_map, groupRows]
    constructor
    · intro hall append happend entry hentry
      obtain ⟨index, hindex⟩ := List.mem_iff_getElem?.mp happend
      have hzip : (append, since + 1 + index) ∈ (appends.drop since).zipIdx (since + 1) := by
        rw [List.mk_add_mem_zipIdx_iff_getElem?]
        exact hindex
      exact hall ⟨_, _, _, _, _, _⟩ ⟨_, ⟨_, hzip, rfl⟩, entry, hentry, rfl⟩
    · rintro hall row ⟨p, ⟨⟨append, index⟩, hmem, rfl⟩, entry, hentry, rfl⟩
      exact hall append (List.fst_mem_of_mem_zipIdx hmem) entry hentry
  unfold MergeReader.load loadTransactions loadLoggedTransactions
  rw [Outcomes.map_eq_ok]
  simp only [loadStatements_eq_ok, hrows]
  constructor
  · rintro ⟨statements, ⟨htokenized, rfl⟩, hgroups⟩
    exact ⟨htokenized, hgroups⟩
  · rintro ⟨htokenized, hgroups⟩
    exact ⟨_, ⟨htokenized, rfl⟩, hgroups⟩

/-- What is loaded of the tables after some calls, when every text above the watermark can be
tokenized, and what it is loaded as once more. -/
structure Loads (reader : MergeReader) (appends : List Append) (since : ℕ)
    (transactions : List LoggedTransaction) : Prop where
  readsBack : ReadsBack branch (readBack reader.sqlReader) transactions appends since
  again : ∀ transaction ∈ transactions, ∀ committedAt reloaded,
    reader.load branch ((logOf appends).appendReplayedLog committedAt transaction.statements)
        appends.length = .ok reloaded →
      ∃ alone, reloaded = [alone]
  same : ∀ transaction ∈ transactions, ∀ committedAt,
    (∃ alone, reader.load branch
          ((logOf appends).appendReplayedLog committedAt transaction.statements)
          appends.length = .ok [alone] ∧
        alone.statements.map AcceptedReplay.logEntry =
          transaction.statements.map AcceptedReplay.logEntry) ↔
      ∀ statement ∈ transaction.statements,
        reader.neutralizeRollback statement.toReplaySqlText = statement.toReplaySqlText

lemma load_again_eq_ok {reader : MergeReader} {appends : List Append} {committedAt : String}
    {statements : List LoggedStatement} (hne : statements ≠ [])
    {transactions : List LoggedTransaction} :
    reader.load branch ((logOf appends).appendReplayedLog committedAt statements)
        appends.length = .ok transactions ↔
      (∀ statement ∈ statements, reader.Tokenized statement.toReplaySqlText) ∧
        loadTransactions reader.sqlReader branch
          ((logOf appends).appendReplayedLog committedAt statements) appends.length =
            transactions := by
  have happlied := holds_apply (holds_logOf appends) (.appendReplayedLog committedAt statements hne)
  have hload := @load_eq_ok branch reader _ _ happlied appends.length transactions
  rw [List.drop_left] at hload
  simpa [Append.apply, Append.entries, AcceptedReplay.logEntry] using hload

lemma entries_of_load {reader : MergeReader} {appends : List Append} {since : ℕ}
    {transaction : LoggedTransaction}
    (h : transaction ∈ loadTransactions reader.sqlReader branch (logOf appends) since) :
    ∃ append ∈ appends.drop since,
      transaction.statements.map AcceptedReplay.logEntry =
        append.entries.map (readBack reader.sqlReader) := by
  have hread := readsBack_of_holds branch reader.sqlReader (holds_logOf appends) since
  have hmem := List.mem_map_of_mem (f := fun transaction : LoggedTransaction =>
    (transaction.transactionId, transaction.committedAt,
      transaction.statements.map AcceptedReplay.logEntry)) h
  rw [hread.transactions] at hmem
  obtain ⟨p, hp, heq⟩ := List.mem_map.mp hmem
  obtain ⟨⟨append, index⟩, hzip, rfl⟩ := List.mem_map.mp hp
  exact ⟨append, List.fst_mem_of_mem_zipIdx hzip, (congrArg (·.2.2) heq).symm⟩

lemma loads_of_load {reader : MergeReader} {appends : List Append} {since : ℕ}
    {transactions : List LoggedTransaction}
    (h : reader.load branch (logOf appends) since = .ok transactions) :
    Loads branch reader appends since transactions := by
  obtain ⟨htokenized, rfl⟩ := (load_eq_ok branch (holds_logOf appends)).mp h
  have hne : ∀ transaction ∈ loadTransactions reader.sqlReader branch (logOf appends) since,
      transaction.statements ≠ [] := by
    intro transaction htransaction hnil
    obtain ⟨append, -, heq⟩ := entries_of_load branch htransaction
    rw [hnil, List.map_nil] at heq
    exact append.entries_ne_nil (List.map_eq_nil_iff.mp heq.symm)
  refine ⟨readsBack_of_holds branch reader.sqlReader (holds_logOf appends) since, ?_, ?_⟩
  · intro transaction htransaction committedAt reloaded hload
    obtain ⟨-, hreloaded⟩ := (load_again_eq_ok branch (hne transaction htransaction)).mp hload
    obtain ⟨alone, halone, -⟩ := load_appended branch reader.sqlReader (holds_logOf appends)
      committedAt (hne transaction htransaction)
    exact ⟨alone, hreloaded.symm.trans halone⟩
  · intro transaction htransaction committedAt
    obtain ⟨append, happend, hentries⟩ := entries_of_load branch htransaction
    obtain ⟨alone, halone, hagain⟩ := load_appended branch reader.sqlReader
      (holds_logOf appends) committedAt (hne transaction htransaction)
    have hstored : ∀ statement ∈ transaction.statements, ∃ entry ∈ append.entries,
        readBack reader.sqlReader entry = AcceptedReplay.logEntry statement := by
      intro statement hstatement
      have hmem := List.mem_map_of_mem (f := AcceptedReplay.logEntry) hstatement
      rw [hentries] at hmem
      exact List.mem_map.mp hmem
    have hsame : alone.statements.map AcceptedReplay.logEntry =
          transaction.statements.map AcceptedReplay.logEntry ↔
        ∀ statement ∈ transaction.statements,
          reader.neutralizeRollback statement.toReplaySqlText = statement.toReplaySqlText := by
      rw [hagain, List.map_inj_left]
      refine forall₂_congr ?_
      intro statement hstatement
      obtain ⟨entry, -, hentry⟩ := hstored statement hstatement
      have hiff := readBack_readBack_iff (neutralizeRollback_nil reader) entry
      rw [hentry] at hiff
      exact hiff
    constructor
    · rintro ⟨other, hload, hother⟩
      obtain ⟨-, hreloaded⟩ := (load_again_eq_ok branch (hne transaction htransaction)).mp hload
      cases hreloaded.symm.trans halone
      exact hsame.mp hother
    · intro hunchanged
      refine ⟨alone, (load_again_eq_ok branch (hne transaction htransaction)).mpr
        ⟨?_, halone⟩, hsame.mpr hunchanged⟩
      -- the text that is read again is the one that was read when it was loaded
      intro statement hstatement message
      obtain ⟨entry, hentry, hread⟩ := hstored statement hstatement
      have htext : reader.neutralizeRollback entry.toReplaySqlText = statement.toReplaySqlText :=
        congrArg LogEntry.toReplaySqlText hread
      rw [hunchanged statement hstatement, ← htext]
      exact htokenized append happend entry hentry message

end

/-- A log entry but for its OR ROLLBACK clauses. -/
def withoutRollback (reader : MergeReader) (entry : LogEntry) : LogEntry :=
  { entry with toReplaySqlText := reader.neutralizeRollback entry.toReplaySqlText }

def noMetadata : StatementMetadata :=
  SqlMetadata.parseStatementMetadata none ⟨"", none, false⟩ ⟨.other, none, [], none, ∅, by simp⟩

/-- A reader for which every text has one outcome. -/
def uniformReader (reading : Reading) : MergeReader :=
  ⟨asciiCharacters, fun _ => reading, fun _ => noMetadata⟩

def rejectingReader : MergeReader := uniformReader (.parseError "Invalid expression")

def acceptingReader : MergeReader := uniformReader (.metadata noMetadata)

def insertOnce : Append :=
  .write "2026-01-01" [⟨"INSERT INTO t VALUES (1)", "INSERT INTO t VALUES (1)", true, none⟩]
    (by simp)

def rollbackTwice : String := "INSERT OR ROLLBACK OR ROLLBACK INTO t VALUES (1)"

def rollbackInsert : Append :=
  .write "2026-01-01" [⟨rollbackTwice, rollbackTwice, true, none⟩] (by simp)

/-- SQLite takes the empty blob, sqlglot makes no tokens of it. -/
def emptyBlobInsert : Append :=
  .write "2026-01-01" [⟨"INSERT INTO t VALUES (x'')", "INSERT INTO t VALUES (x'')", true, none⟩]
    (by simp)

end SqliteReconcile.LogRoundTrip
