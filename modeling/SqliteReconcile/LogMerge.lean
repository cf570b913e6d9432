import SqliteReconcile.RemainingMetadata

/-! Log rows as statements, statements grouped into transactions, and replay warnings. -/
namespace SqliteReconcile.LogMerge
open Models SqlMetadata

/-- One row of the log table, joined with its transaction. -/
structure LogTableRow where
  transactionId : ℕ
  committedAt : String
  originalSqlText : String
  toReplaySqlText : String
  isReplaySafe : Bool
  replayBlockReason : Option String

/-- SQL text as prepared for replay. -/
structure PreparedSql where
  originalSqlText : String
  toReplaySqlText : String
  isReplaySafe : Bool
  replayBlockReason : Option String

/-- Reading SQL text. `parse` gives the metadata in the schema context, or the message of
the parse error; `unsupported` is the metadata of a statement that does not parse. -/
structure SqlReader where
  neutralizeRollback : String → String
  parse : String → Except String StatementMetadata
  unsupported : String → StatementMetadata

def metadataParseErrorReason : String := "statement could not be parsed for merge analysis"

def acknowledgeableReplayReasons : List String :=
  ["nondeterministic expression cannot be safely materialized"]

/-- Metadata of prepared SQL, whether it is safe for replay, and why not. SQL that does not
parse is unsafe; an empty reason is replaced like a missing one. -/
def readPreparedSql (reader : SqlReader) (prepared : PreparedSql) :
    StatementMetadata × Bool × Option String :=
  match reader.parse (reader.neutralizeRollback prepared.toReplaySqlText) with
  | .ok metadata => (metadata, prepared.isReplaySafe, prepared.replayBlockReason)
  | .error message =>
    let given := prepared.replayBlockReason.getD ""
    (reader.unsupported prepared.toReplaySqlText, false,
      some (if given = "" then metadataParseErrorReason ++ ": " ++ message else given))

def makeLoggedStatement (reader : SqlReader) (branch : BranchName) (branchIndex : ℤ)
    (transactionId : ℕ) (committedAt : String) (prepared : PreparedSql) : LoggedStatement where
  branch := branch
  branchIndex := branchIndex
  transactionId := transactionId
  committedAt := committedAt
  originalSqlText := if prepared.originalSqlText = "" then prepared.toReplaySqlText
    else prepared.originalSqlText
  toReplaySqlText := reader.neutralizeRollback prepared.toReplaySqlText
  isReplaySafe := (readPreparedSql reader prepared).2.1
  replayBlockReason := (readPreparedSql reader prepared).2.2
  metadata := (readPreparedSql reader prepared).1
  replayWarnings := []
  acceptedReplayWarnings := ∅

def LogTableRow.prepared (row : LogTableRow) : PreparedSql where
  originalSqlText := row.originalSqlText
  toReplaySqlText := row.toReplaySqlText
  isReplaySafe := row.isReplaySafe
  replayBlockReason := row.replayBlockReason

def loadLoggedStatements (reader : SqlReader) (branch : BranchName) (rows : List LogTableRow) :
    List LoggedStatement :=
  rows.mapIdx fun index row =>
    makeLoggedStatement reader branch index row.transactionId row.committedAt row.prepared

def loggedTransaction (first : LoggedStatement) (rest : List LoggedStatement)
    (branchIndex : ℕ) : LoggedTransaction where
  branch := first.branch
  branchIndex := branchIndex
  transactionId := first.transactionId
  committedAt := first.committedAt
  statements := first :: rest
  metadata := transactionMetadata ((first :: rest).map (·.metadata))

def groupTransaction : List LoggedStatement × ℕ → Option LoggedTransaction
  | ([], _) => none
  | (first :: rest, index) => some (loggedTransaction first rest index)

/-- Consecutive statements with one transaction id form a transaction. -/
def groupLoggedTransactions (statements : List LoggedStatement) : List LoggedTransaction :=
  let groups := statements.splitBy fun left right => left.transactionId == right.transactionId
  groups.zipIdx.filterMap groupTransaction

def loadLoggedTransactions (reader : SqlReader) (branch : BranchName) (rows : List LogTableRow) :
    List LoggedTransaction :=
  groupLoggedTransactions (loadLoggedStatements reader branch rows)

def replayWarningReason (statement : LoggedStatement) : Option String :=
  if statement.isReplaySafe then none
  else match statement.replayBlockReason with
    | none => none
    | some reason =>
      if acknowledgeableReplayReasons.any fun known => known.toList.isPrefixOf reason.toList then
        some reason
      else none

def unresolvedReplayBlockReason (statement : LoggedStatement) : Option String :=
  if statement.isReplaySafe then none
  else match replayWarningReason statement with
    | some warning =>
      if warning ∈ statement.acceptedReplayWarnings then none else blockReason statement
    | none => blockReason statement
where
  blockReason (statement : LoggedStatement) : Option String :=
    let given := statement.replayBlockReason.getD ""
    some (if given = "" then "statement is unsafe for replay" else given)

def acceptReplayWarning (statement : LoggedStatement) (warning : String) : LoggedStatement :=
  { statement with
    acceptedReplayWarnings := insert warning statement.acceptedReplayWarnings }

lemma replayWarningReason_eq_some {statement : LoggedStatement} {warning : String}
    (h : replayWarningReason statement = some warning) :
    statement.replayBlockReason = some warning := by
  unfold replayWarningReason at h
  split at h
  · cases h
  · split at h
    · cases h
    · rename_i reason hreason
      split at h
      · rw [hreason, ← h]
      · cases h

/-- A statement without an open block reason is safe, or its reason was accepted. -/
lemma unresolvedReplayBlockReason_eq_none {statement : LoggedStatement}
    (h : unresolvedReplayBlockReason statement = none) :
    statement.isReplaySafe ∨ ∃ warning ∈ statement.acceptedReplayWarnings,
      statement.replayBlockReason = some warning := by
  unfold unresolvedReplayBlockReason at h
  split at h
  · rename_i hsafe
    exact .inl hsafe
  · split at h
    · rename_i warning hwarning
      split at h
      · rename_i haccepted
        exact .inr ⟨warning, haccepted, replayWarningReason_eq_some hwarning⟩
      · cases h
    · cases h

lemma mem_groupLoggedTransactions {statements : List LoggedStatement}
    {transaction : LoggedTransaction} (h : transaction ∈ groupLoggedTransactions statements) :
    ∃ first ∈ statements, transaction.branch = first.branch ∧ transaction.statements ≠ [] ∧
      ∀ statement ∈ transaction.statements, statement ∈ statements := by
  obtain ⟨⟨group, index⟩, hgroup, heq⟩ := List.mem_filterMap.mp h
  cases group with
  | nil => cases heq
  | cons first rest =>
    simp only [groupTransaction, Option.some.injEq] at heq
    have hmem : ∀ statement ∈ first :: rest, statement ∈ statements := by
      intro statement hs
      rw [← List.flatten_splitBy (fun left right : LoggedStatement =>
        left.transactionId == right.transactionId) statements]
      exact List.mem_flatten.mpr ⟨_, List.fst_mem_of_mem_zipIdx hgroup, hs⟩
    refine ⟨first, hmem first List.mem_cons_self, ?_⟩
    rw [← heq]
    exact ⟨rfl, List.cons_ne_nil _ _, hmem⟩

/-- Loaded transactions belong to their branch and have statements, none of them with an
accepted warning. -/
theorem mem_loadLoggedTransactions {reader : SqlReader} {branch : BranchName}
    {rows : List LogTableRow} {transaction : LoggedTransaction}
    (h : transaction ∈ loadLoggedTransactions reader branch rows) :
    transaction.branch = branch ∧ transaction.statements ≠ [] ∧
      ∀ statement ∈ transaction.statements, statement.acceptedReplayWarnings = ∅ := by
  have hload : ∀ statement ∈ loadLoggedStatements reader branch rows,
      statement.branch = branch ∧ statement.acceptedReplayWarnings = ∅ := by
    intro statement hs
    obtain ⟨index, hindex, heq⟩ := List.mem_mapIdx.mp hs
    rw [← heq]
    exact ⟨rfl, rfl⟩
  obtain ⟨first, hfirst, hbranch, hne, hmem⟩ := mem_groupLoggedTransactions h
  refine ⟨hbranch.trans (hload first hfirst).1, hne, ?_⟩
  intro statement hs
  exact (hload statement (hmem statement hs)).2

lemma branchIndex_groupTransaction {group : List LoggedStatement × ℕ}
    {transaction : LoggedTransaction} (h : groupTransaction group = some transaction) :
    transaction.branchIndex = group.2 := by
  obtain ⟨statements, index⟩ := group
  cases statements with
  | nil => cases h
  | cons first rest =>
    cases h
    rfl

theorem nodup_branchIndex (reader : SqlReader) (branch : BranchName)
    (rows : List LogTableRow) :
    ((loadLoggedTransactions reader branch rows).map (·.branchIndex)).Nodup := by
  unfold loadLoggedTransactions groupLoggedTransactions
  simp only
  generalize (loadLoggedStatements reader branch rows).splitBy _ = groups
  have hindexes : groups.zipIdx.Pairwise fun left right => left.2 < right.2 := by
    rw [← List.pairwise_map (f := Prod.snd), List.zipIdx_map_snd]
    exact List.pairwise_lt_range'
  rw [List.Nodup, List.pairwise_map]
  apply List.Pairwise.filterMap _ _ hindexes
  intro left right hlt transaction htx transaction' htx'
  rw [branchIndex_groupTransaction htx, branchIndex_groupTransaction htx']
  exact Nat.ne_of_lt hlt

end SqliteReconcile.LogMerge
