import SqliteReconcile.Utils

/-! Data model of the merge: statements, transactions, their metadata, conflicts, and the
schema context they are analysed in. -/
namespace SqliteReconcile.Models
open Utils

inductive BranchName
  | ours
  | theirs
  deriving DecidableEq, Repr

def BranchName.other : BranchName → BranchName
  | .ours => .theirs
  | .theirs => .ours

inductive ConflictScope
  | pair
  | ours
  | theirs
  | both
  deriving DecidableEq, Repr

def BranchName.scope : BranchName → ConflictScope
  | .ours => .ours
  | .theirs => .theirs

inductive ConflictKind
  | writeWrite
  | writeRead
  | implicitInsertKey
  | integrity
  | constraintResolution
  | replayError
  deriving DecidableEq, Repr

inductive StatementKind
  | insert
  | update
  | delete
  | other
  deriving DecidableEq, Repr

inductive CascadeEventKind
  | delete
  | update
  deriving DecidableEq, Repr

inductive ForeignKeyAction
  | noAction
  | restrict
  | cascade
  | setNull
  | setDefault
  deriving DecidableEq, Repr

structure CascadeWriteEvent where
  table : String
  columns : Finset String
  kind : CascadeEventKind
  deriving DecidableEq

structure ForeignKeyEdge where
  childTable : String
  childColumns : List String
  parentTable : String
  parentColumns : List String
  onUpdate : ForeignKeyAction
  onDelete : ForeignKeyAction
  deriving DecidableEq, Repr

/-- One element of an UPDATE's SET list, as far as the metadata looks at it. In `c = a = b` the
value is a comparison; sqlglot reads the element from the left, as `(c = a) = b`. -/
inductive Assignment
  | column (name : String)
  | row (names : List String)
  | comparison (name : String)
  deriving DecidableEq, Repr

inductive ConflictAlgorithm
  | rollback
  | abort
  | fail
  | ignore
  | replace
  deriving DecidableEq, Repr

/-- Top-level conflict-resolution syntax found before parsing. -/
structure SQLiteConflictResolution where
  statementKind : StatementKind
  algorithm : ConflictAlgorithm
  deriving DecidableEq, Repr

/-- SQL text that the parser accepts, plus the syntax stripped to get there. -/
structure CompatibleSQL where
  sql : String
  conflictResolution : Option SQLiteConflictResolution
  strippedUpsert : Bool
  deriving DecidableEq, Repr

/-- What the metadata reads off a parsed statement: its kind, the table named by its
target, its SET list, the columns of an INSERT's target list when it has one, and the
table columns it reads, resolved against the schema. -/
structure ParsedStatement where
  statementKind : StatementKind
  target : Option String
  assignments : List Assignment
  insertTarget : Option (List String)
  references : ColumnMap
  /-- Exactly the DML statements name a target table. -/
  target_isSome : target.isSome ↔ statementKind ≠ .other
  deriving DecidableEq

structure StatementMetadata where
  parsedSqlText : ParsedStatement
  compatibleSql : CompatibleSQL
  statementKind : StatementKind
  conflictResolution : Option SQLiteConflictResolution
  hasReviewableConstraintResolution : Bool
  tableUpdated : Option String
  columnsUpdated : Finset String
  tablesUpdatedToColumnsUpdated : ColumnMap
  tablesReferencedToColumnsReferenced : ColumnMap
  cascadeWriteEvents : List CascadeWriteEvent
  hasCascadeEffects : Bool
  deriving DecidableEq

/-- The written table of DML metadata. The source asserts that there is one. -/
def requiredUpdatedTable (metadata : StatementMetadata) : String :=
  metadata.tableUpdated.getD ""

structure TransactionMetadata where
  statements : List StatementMetadata
  hasInsert : Bool
  hasUpdate : Bool
  hasDelete : Bool
  tablesUpdatedToColumnsUpdated : ColumnMap
  tablesReferencedToColumnsReferenced : ColumnMap
  cascadeWriteEvents : List CascadeWriteEvent
  hasCascadeEffects : Bool
  deriving DecidableEq

structure LoggedStatement where
  branch : BranchName
  branchIndex : ℤ
  transactionId : ℕ
  committedAt : String
  originalSqlText : String
  toReplaySqlText : String
  isReplaySafe : Bool
  replayBlockReason : Option String
  metadata : StatementMetadata
  replayWarnings : List String
  acceptedReplayWarnings : Finset String
  deriving DecidableEq

def LoggedStatement.sqlText (statement : LoggedStatement) : String :=
  statement.toReplaySqlText

structure LoggedTransaction where
  branch : BranchName
  branchIndex : ℕ
  transactionId : ℕ
  committedAt : String
  statements : List LoggedStatement
  metadata : TransactionMetadata
  deriving DecidableEq

structure StatementConflict where
  kind : ConflictKind
  message : String
  scope : ConflictScope
  details : List (String × String)
  deriving DecidableEq, Repr

/-- Conflicts grouped by kind, the groups in the order in which their kind first occurred. -/
structure ConflictCheckResult where
  conflictsByKind : List (ConflictKind × List StatementConflict)
  deriving DecidableEq, Repr

namespace ConflictCheckResult

def empty : ConflictCheckResult := ⟨[]⟩

def conflicts (result : ConflictCheckResult) : List StatementConflict :=
  result.conflictsByKind.flatMap Prod.snd

def hasConflict (result : ConflictCheckResult) : Bool :=
  !result.conflictsByKind.isEmpty

def ofKind (result : ConflictCheckResult) (kind : ConflictKind) : List StatementConflict :=
  (result.conflictsByKind.lookup kind).getD []

def hasKind (result : ConflictCheckResult) (kind : ConflictKind) : Bool :=
  result.conflictsByKind.any (·.1 == kind)

def withoutKind (result : ConflictCheckResult) (kind : ConflictKind) : ConflictCheckResult :=
  ⟨result.conflictsByKind.filter (·.1 != kind)⟩

def replaceKind (result : ConflictCheckResult) (kind : ConflictKind)
    (conflicts : List StatementConflict) : ConflictCheckResult :=
  if conflicts.isEmpty then result.withoutKind kind
  else ⟨(result.withoutKind kind).conflictsByKind ++ [(kind, conflicts)]⟩

/-- Append one conflict to its kind group. -/
def addConflict (result : ConflictCheckResult) (conflict : StatementConflict) :
    ConflictCheckResult :=
  if result.hasKind conflict.kind then
    ⟨result.conflictsByKind.map fun group =>
      if group.1 = conflict.kind then (group.1, group.2 ++ [conflict]) else group⟩
  else ⟨result.conflictsByKind ++ [(conflict.kind, [conflict])]⟩

def addConflicts (result : ConflictCheckResult) (conflicts : List StatementConflict) :
    ConflictCheckResult :=
  conflicts.foldl addConflict result

def ofConflicts (conflicts : List StatementConflict) : ConflictCheckResult :=
  empty.addConflicts conflicts

@[simp] lemma hasKind_empty (kind : ConflictKind) : empty.hasKind kind = false := rfl

@[simp] lemma hasConflict_empty : empty.hasConflict = false := rfl

lemma hasKind_addConflict (result : ConflictCheckResult) (conflict : StatementConflict)
    (kind : ConflictKind) :
    (result.addConflict conflict).hasKind kind =
      (result.hasKind kind || conflict.kind == kind) := by
  unfold addConflict
  split
  · rename_i h
    have hmap : ∀ groups : List (ConflictKind × List StatementConflict),
        (groups.map fun group => if group.1 = conflict.kind
          then (group.1, group.2 ++ [conflict]) else group).any (·.1 == kind) =
        groups.any (·.1 == kind) := by
      intro groups
      rw [List.any_map]
      congr 1
      funext group
      by_cases hk : group.1 = conflict.kind <;> simp [hk]
    by_cases hk : conflict.kind = kind
    · subst hk
      simp only [hasKind, hmap, beq_self_eq_true, Bool.or_true]
      exact h
    · simp [hasKind, hmap, hk]
  · simp [hasKind]

theorem hasKind_addConflicts (result : ConflictCheckResult)
    (conflicts : List StatementConflict) (kind : ConflictKind) :
    (result.addConflicts conflicts).hasKind kind ↔
      result.hasKind kind ∨ ∃ c ∈ conflicts, c.kind = kind :=
  Loops.list_foldl_iff addConflict (fun r => r.hasKind kind) (fun c => c.kind = kind)
    (fun r c => by simp [hasKind_addConflict]) result conflicts

lemma hasConflict_iff (result : ConflictCheckResult) :
    result.hasConflict ↔ ∃ kind, result.hasKind kind := by
  cases result with
  | mk groups => cases groups with
    | nil => simp [hasConflict, hasKind]
    | cons g gs => exact ⟨fun _ => ⟨g.1, by simp [hasKind]⟩, fun _ => rfl⟩

end ConflictCheckResult

/-- Queue-relative conflict shown to the user. `otherIndex = none` is a standalone replay
problem of the current transaction. -/
structure ConflictPair (Key : Type) where
  currentBranch : BranchName
  otherIndex : Option ℕ
  conflicts : List StatementConflict
  resolutionKey : Option Key
  isStandalone : Bool

/-- Schema-derived facts of one merge; a Python dict is kept as its list of items. -/
structure SchemaCache where
  tableColumns : List (String × Finset String)
  primaryKeyColumns : List (String × List String)
  keyColumnSets : List (String × List (Finset String))
  integerPrimaryKeyColumns : List (String × Option String)
  foreignKeyEdges : List ForeignKeyEdge

/-- The analysis context. `pragmaIntegerPrimaryKey` stands for the schema lookup made on
the base database for a table that the cache does not list. -/
structure ConflictCheckContext where
  schemaCache : SchemaCache
  pragmaIntegerPrimaryKey : String → Option String

namespace ConflictCheckContext

def tableColumns (context : ConflictCheckContext) := context.schemaCache.tableColumns

def primaryKeyColumns (context : ConflictCheckContext) := context.schemaCache.primaryKeyColumns

def keyColumnSets (context : ConflictCheckContext) := context.schemaCache.keyColumnSets

def keySets (context : ConflictCheckContext) (table : String) : List (Finset String) :=
  (context.keyColumnSets.lookup table).getD []

end ConflictCheckContext

def transactionLabel (transaction : LoggedTransaction) : String :=
  (match transaction.branch with | .ours => "L" | .theirs => "R") ++
    toString (transaction.branchIndex + 1)

def statementLabel (statement : LoggedStatement) : String :=
  if statement.branchIndex < 0 then
    (match statement.branch with | .ours => "LN" | .theirs => "RN") ++
      toString statement.branchIndex.natAbs
  else
    (match statement.branch with | .ours => "L" | .theirs => "R") ++
      toString (statement.branchIndex + 1)

end SqliteReconcile.Models
