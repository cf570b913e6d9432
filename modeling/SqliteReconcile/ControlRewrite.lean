import SqliteReconcile.Identifiers

/-!
# Statements for the control database

A statement is rewritten so that its tables are those of the attached control database. The
traversal keeps the names of the CTEs in scope and stops at table nodes.
-/
namespace SqliteReconcile.ControlRewrite
open Identifiers

/-- What a table node says itself; an empty `db` is no schema. -/
structure TableRef where
  name : String
  db : String
  tableAlias : Option String
  deriving DecidableEq

/-- An expression of `sqlglot`. The CTEs of a node are the expressions of its WITH block; the
joins of a table node are among its children. The label stands for everything else. -/
inductive Expr
  | table (ref : TableRef) (children : List Expr)
  | cte (cteAlias : String) (children : List Expr)
  | node (label : String) (ctes : List Expr) (children : List Expr)

/-- The root of a statement. A DML statement has the table that it writes. -/
inductive Root
  | select
  | dml (target : Option (TableRef × List Expr))
  | other

structure Statement where
  root : Root
  label : String
  ctes : List Expr
  children : List Expr

def cteAliases (ctes : List Expr) : List String :=
  ctes.filterMap fun
    | .cte cteAlias _ => if cteAlias = "" then none else some cteAlias
    | _ => none

section

variable (persistentTables : List String) (schema : String)

def isRewritablePersistentTable (table : TableRef) : Bool :=
  table.name ∈ persistentTables &&
    (table.db = "" || table.db = "main" || table.db = schema)

def qualifyTableReference (table : TableRef) : TableRef :=
  { table with
    db := schema
    tableAlias := table.tableAlias <|> some table.name }

mutual

/-- The traversal collects the tables to qualify, and fails at a table that it cannot
qualify; here it builds the tree with the collected tables qualified. -/
def rewrite (visibleCtes : List String) : Expr → Option Expr
  | .table table children =>
    if table.db = "" && visibleCtes.contains table.name then some (.table table children)
    else if isRewritablePersistentTable persistentTables schema table then
      some (.table (qualifyTableReference schema table) children)
    else none
  | .cte cteAlias children => do
    let children ← rewriteAll visibleCtes children
    return .cte cteAlias children
  | .node label ctes children => do
    -- every child of the node sees all its CTEs, the CTEs among them
    let visibleInChildren := visibleCtes ++ cteAliases ctes
    let ctes ← rewriteAll visibleInChildren ctes
    let children ← rewriteAll visibleInChildren children
    return .node label ctes children

def rewriteAll (visibleCtes : List String) : List Expr → Option (List Expr)
  | [] => some []
  | child :: rest => do
    let child ← rewrite visibleCtes child
    let rest ← rewriteAll visibleCtes rest
    return child :: rest

end

/-- The target table is never taken for a CTE. -/
def rewriteRoot : Root → Option Root
  | .select => some .select
  | .dml none => some (.dml none)
  | .dml (some (table, children)) =>
    if isRewritablePersistentTable persistentTables schema table then
      some (.dml (some (qualifyTableReference schema table, children)))
    else none
  | .other => none

/-- Rewrite a parsed SQL AST for the attached control schema. -/
def rewriteExpressionForControlDb (expression : Statement) : Option Statement := do
  let visibleInChildren := cteAliases expression.ctes
  let root ← rewriteRoot persistentTables schema expression.root
  let ctes ← rewriteAll persistentTables schema visibleInChildren expression.ctes
  let children ← rewriteAll persistentTables schema visibleInChildren expression.children
  return { expression with root := root, ctes := ctes, children := children }

end

section

variable (persistentTables : List String) (schema : String)

/-- SQLite takes a name without schema for a CTE in scope, whatever its letter case. -/
def IsCteReference (visibleCtes : List String) (table : TableRef) : Prop :=
  table.db = "" ∧ ∃ cteAlias ∈ visibleCtes, foldCase cteAlias = foldCase table.name

/-- The table's name is that of a persistent table. -/
def NamesPersistent (table : TableRef) : Prop :=
  (table.db = "" ∨ foldCase table.db = foldCase "main" ∨ foldCase table.db = foldCase schema) ∧
    ∃ persistent ∈ persistentTables, foldCase persistent = foldCase table.name

def Denotes (visibleCtes : List String) (table : TableRef) : Prop :=
  NamesPersistent persistentTables schema table ∧ ¬ IsCteReference visibleCtes table

/-- A persistent table gets the control schema, every other table node stays as it is. -/
structure QualifiedIf (persistent : Prop) (table table' : TableRef) : Prop where
  qualified : persistent → table'.db = schema
  unchanged : ¬ persistent → table' = table
  only : table' = table ∨ table' = qualifyTableReference schema table

mutual

/-- Every table of the tree is qualified when it denotes a persistent table where it stands,
and nothing else is changed. -/
def Qualified (visibleCtes : List String) : Expr → Expr → Prop
  | .table table children, .table table' children' =>
    QualifiedIf schema (Denotes persistentTables schema visibleCtes table) table table' ∧
      QualifiedAll visibleCtes children children'
  | .cte cteAlias children, .cte cteAlias' children' =>
    cteAlias = cteAlias' ∧ QualifiedAll visibleCtes children children'
  | .node label ctes children, .node label' ctes' children' =>
    label = label' ∧ QualifiedAll (visibleCtes ++ cteAliases ctes) ctes ctes' ∧
      QualifiedAll (visibleCtes ++ cteAliases ctes) children children'
  | _, _ => False

def QualifiedAll (visibleCtes : List String) : List Expr → List Expr → Prop
  | [], [] => True
  | child :: rest, child' :: rest' =>
    Qualified visibleCtes child child' ∧ QualifiedAll visibleCtes rest rest'
  | _, _ => False

end

def RootQualified (visibleCtes : List String) : Root → Root → Prop
  | .select, .select => True
  | .dml none, .dml none => True
  | .dml (some (table, children)), .dml (some (table', children')) =>
    QualifiedIf schema (NamesPersistent persistentTables schema table) table table' ∧
      QualifiedAll persistentTables schema visibleCtes children children'
  | .other, .other => True
  | _, _ => False

structure StatementQualified (expression expression' : Statement) : Prop where
  root : RootQualified persistentTables schema (cteAliases expression.ctes) expression.root
    expression'.root
  label : expression'.label = expression.label
  ctes : QualifiedAll persistentTables schema (cteAliases expression.ctes) expression.ctes
    expression'.ctes
  children : QualifiedAll persistentTables schema (cteAliases expression.ctes)
    expression.children expression'.children

mutual

/-- Every table of the tree that denotes a persistent table has the control schema already. -/
def Settled (visibleCtes : List String) : Expr → Prop
  | .table table children =>
    (Denotes persistentTables schema visibleCtes table → table.db = schema) ∧
      SettledAll visibleCtes children
  | .cte _ children => SettledAll visibleCtes children
  | .node _ ctes children =>
    SettledAll (visibleCtes ++ cteAliases ctes) ctes ∧
      SettledAll (visibleCtes ++ cteAliases ctes) children

def SettledAll (visibleCtes : List String) : List Expr → Prop
  | [] => True
  | child :: rest => Settled visibleCtes child ∧ SettledAll visibleCtes rest

end

/-- A reference to a CTE in another letter case than the CTE's is not spelled like a
persistent table. -/
def SpelledApart (visibleCtes : List String) (table : TableRef) : Prop :=
  IsCteReference visibleCtes table → table.name ∉ visibleCtes → table.name ∉ persistentTables

mutual

/-- No table below another one is left to qualify, and references to CTEs are spelled apart
from persistent tables. -/
def Covered (visibleCtes : List String) : Expr → Prop
  | .table table children =>
    SpelledApart persistentTables visibleCtes table ∧
      SettledAll persistentTables schema visibleCtes children
  | .cte _ children => CoveredAll visibleCtes children
  | .node _ ctes children =>
    CoveredAll (visibleCtes ++ cteAliases ctes) ctes ∧
      CoveredAll (visibleCtes ++ cteAliases ctes) children

def CoveredAll (visibleCtes : List String) : List Expr → Prop
  | [] => True
  | child :: rest => Covered visibleCtes child ∧ CoveredAll visibleCtes rest

end

def RootCovered (visibleCtes : List String) : Root → Prop
  | .dml (some (_, children)) => SettledAll persistentTables schema visibleCtes children
  | _ => True

structure StatementCovered (expression : Statement) : Prop where
  root : RootCovered persistentTables schema (cteAliases expression.ctes) expression.root
  ctes : CoveredAll persistentTables schema (cteAliases expression.ctes) expression.ctes
  children : CoveredAll persistentTables schema (cteAliases expression.ctes) expression.children

end

section

variable {persistentTables visibleCtes : List String} {schema : String} {table : TableRef}

lemma qualifiedIf_self_iff {persistent : Prop} :
    QualifiedIf schema persistent table table ↔ (persistent → table.db = schema) :=
  ⟨fun h => h.qualified, fun h => ⟨h, fun _ => rfl, .inl rfl⟩⟩

mutual

lemma qualified_self_iff (visibleCtes : List String) : ∀ expression : Expr,
    Qualified persistentTables schema visibleCtes expression expression ↔
      Settled persistentTables schema visibleCtes expression
  | .table table children => by
    rw [Qualified, Settled, qualifiedIf_self_iff, qualifiedAll_self_iff visibleCtes children]
  | .cte cteAlias children => by
    rw [Qualified, Settled, qualifiedAll_self_iff visibleCtes children]
    simp
  | .node label ctes children => by
    rw [Qualified, Settled, qualifiedAll_self_iff _ ctes, qualifiedAll_self_iff _ children]
    simp

lemma qualifiedAll_self_iff (visibleCtes : List String) : ∀ expressions : List Expr,
    QualifiedAll persistentTables schema visibleCtes expressions expressions ↔
      SettledAll persistentTables schema visibleCtes expressions
  | [] => by rw [QualifiedAll, SettledAll]
  | child :: rest => by
    rw [QualifiedAll, SettledAll, qualified_self_iff visibleCtes child,
      qualifiedAll_self_iff visibleCtes rest]

end

lemma namesPersistent_of_rewritable
    (h : isRewritablePersistentTable persistentTables schema table = true) :
    table.name ∈ persistentTables ∧ NamesPersistent persistentTables schema table := by
  simp only [isRewritablePersistentTable, Bool.and_eq_true, Bool.or_eq_true,
    decide_eq_true_eq] at h
  obtain ⟨hname, hdb⟩ := h
  refine ⟨hname, ?_, table.name, hname, rfl⟩
  rcases hdb with (hdb | hdb) | hdb
  · exact .inl hdb
  · exact .inr (.inl (congrArg foldCase hdb))
  · exact .inr (.inr (congrArg foldCase hdb))

/-- Qualifying a table is right unless SQLite takes it for a CTE. -/
lemma qualifiedIf_qualify_iff (hschema : schema ≠ "") {persistent : Prop}
    (hdb : ¬ persistent → table.db = "") :
    QualifiedIf schema persistent table (qualifyTableReference schema table) ↔ persistent := by
  constructor
  · intro h
    by_contra hnot
    have hsame := congrArg TableRef.db (h.unchanged hnot)
    rw [hdb hnot] at hsame
    exact hschema hsame
  · intro h
    exact ⟨fun _ => rfl, fun hnot => absurd h hnot, .inr rfl⟩

lemma rewrite_table_iff (hschema : schema ≠ "") {children : List Expr} {expression' : Expr}
    (h : rewrite persistentTables schema visibleCtes (.table table children) = some expression') :
    Qualified persistentTables schema visibleCtes (.table table children) expression' ↔
      Covered persistentTables schema visibleCtes (.table table children) := by
  rw [rewrite] at h
  rw [Covered, ← qualifiedAll_self_iff]
  split_ifs at h with hcte hrewritable
  · cases h
    simp only [Bool.and_eq_true, decide_eq_true_eq, List.contains_iff_mem] at hcte
    have hreference : IsCteReference visibleCtes table := ⟨hcte.1, table.name, hcte.2, rfl⟩
    rw [Qualified, qualifiedIf_self_iff]
    have hdenotes : ¬ Denotes persistentTables schema visibleCtes table :=
      fun hdenotes => hdenotes.2 hreference
    have hapart : SpelledApart persistentTables visibleCtes table :=
      fun _ hmem => absurd hcte.2 hmem
    simp [hdenotes, hapart]
  · cases h
    obtain ⟨hname, hnames⟩ := namesPersistent_of_rewritable hrewritable
    rw [Qualified]
    have hdenotes : Denotes persistentTables schema visibleCtes table ↔
        SpelledApart persistentTables visibleCtes table := by
      constructor
      · intro hdenotes hreference
        exact absurd hreference hdenotes.2
      · intro hapart
        refine ⟨hnames, fun hreference => ?_⟩
        have hnot : table.name ∉ visibleCtes := by
          intro hmem
          apply hcte
          simp [hreference.1, hmem]
        exact hapart hreference hnot hname
    have hdb : ¬ Denotes persistentTables schema visibleCtes table → table.db = "" := by
      intro hnot
      by_contra hne
      exact hnot ⟨hnames, fun hreference => hne hreference.1⟩
    rw [qualifiedIf_qualify_iff hschema hdb, hdenotes]

mutual

/-- A rewritten tree is right exactly when the traversal covers it. -/
lemma rewrite_iff (hschema : schema ≠ "") (visibleCtes : List String) :
    ∀ {expression expression' : Expr},
      rewrite persistentTables schema visibleCtes expression = some expression' →
      (Qualified persistentTables schema visibleCtes expression expression' ↔
        Covered persistentTables schema visibleCtes expression)
  | .table table children, expression', h => rewrite_table_iff hschema h
  | .cte cteAlias children, expression', h => by
    rw [rewrite] at h
    obtain ⟨children', hchildren, h⟩ := Option.bind_eq_some_iff.mp h
    cases h
    rw [Qualified, Covered, rewriteAll_iff hschema visibleCtes hchildren]
    simp
  | .node label ctes children, expression', h => by
    rw [rewrite] at h
    obtain ⟨ctes', hctes, h⟩ := Option.bind_eq_some_iff.mp h
    obtain ⟨children', hchildren, h⟩ := Option.bind_eq_some_iff.mp h
    cases h
    rw [Qualified, Covered, rewriteAll_iff hschema _ hctes, rewriteAll_iff hschema _ hchildren]
    simp

lemma rewriteAll_iff (hschema : schema ≠ "") (visibleCtes : List String) :
    ∀ {expressions expressions' : List Expr},
      rewriteAll persistentTables schema visibleCtes expressions = some expressions' →
      (QualifiedAll persistentTables schema visibleCtes expressions expressions' ↔
        CoveredAll persistentTables schema visibleCtes expressions)
  | [], expressions', h => by
    rw [rewriteAll] at h
    cases h
    rw [QualifiedAll, CoveredAll]
  | child :: rest, expressions', h => by
    rw [rewriteAll] at h
    obtain ⟨child', hchild, h⟩ := Option.bind_eq_some_iff.mp h
    obtain ⟨rest', hrest, h⟩ := Option.bind_eq_some_iff.mp h
    cases h
    rw [QualifiedAll, CoveredAll, rewrite_iff hschema visibleCtes hchild,
      rewriteAll_iff hschema visibleCtes hrest]

end

lemma rewriteRoot_iff (hschema : schema ≠ "") {root root' : Root}
    (h : rewriteRoot persistentTables schema root = some root') :
    RootQualified persistentTables schema visibleCtes root root' ↔
      RootCovered persistentTables schema visibleCtes root := by
  cases root with
  | select =>
    cases h
    rfl
  | other => cases h
  | dml target =>
    cases target with
    | none =>
      cases h
      rfl
    | some target =>
      obtain ⟨table, children⟩ := target
      rw [rewriteRoot] at h
      split_ifs at h with hrewritable
      cases h
      obtain ⟨-, hnames⟩ := namesPersistent_of_rewritable hrewritable
      rw [RootQualified, RootCovered, qualifiedAll_self_iff,
        qualifiedIf_qualify_iff hschema fun hnot => absurd hnames hnot]
      simp [hnames]

/-- A rewritten statement has its persistent tables qualified, and nothing else changed,
exactly when no table below another table is left to qualify and no reference to a CTE that
differs from it in letter case is spelled like a persistent table. -/
theorem rewriteExpressionForControlDb_iff (hschema : schema ≠ "")
    {expression expression' : Statement}
    (h : rewriteExpressionForControlDb persistentTables schema expression = some expression') :
    StatementQualified persistentTables schema expression expression' ↔
      StatementCovered persistentTables schema expression := by
  obtain ⟨root', hroot, h⟩ := Option.bind_eq_some_iff.mp h
  obtain ⟨ctes', hctes, h⟩ := Option.bind_eq_some_iff.mp h
  obtain ⟨children', hchildren, h⟩ := Option.bind_eq_some_iff.mp h
  cases h
  constructor
  · intro hqualified
    exact ⟨(rewriteRoot_iff hschema hroot).mp hqualified.root,
      (rewriteAll_iff hschema _ hctes).mp hqualified.ctes,
      (rewriteAll_iff hschema _ hchildren).mp hqualified.children⟩
  · intro hcovered
    exact ⟨(rewriteRoot_iff hschema hroot).mpr hcovered.root, rfl,
      (rewriteAll_iff hschema _ hctes).mpr hcovered.ctes,
      (rewriteAll_iff hschema _ hchildren).mpr hcovered.children⟩

end

/-! An INSERT whose CTE has the name of its target, and an UPDATE that reads a join. -/

def plainTable (name : String) : TableRef := ⟨name, "", none⟩

def controlTable (name : String) : TableRef := ⟨name, "control", some name⟩

def selectFrom (table : TableRef) : Expr :=
  .node "SELECT id" [] [.node "FROM" [] [.table table []]]

/-- WITH users AS (SELECT id FROM archive) INSERT INTO users SELECT id FROM users. -/
def insertUsers (target source : TableRef) : Statement where
  root := .dml (some (target, []))
  label := "INSERT"
  ctes := [.cte "users" [selectFrom source]]
  children := [selectFrom (plainTable "users")]

/-- The target and the table of the CTE are qualified, the reference to the CTE is not. -/
theorem insertUsers_qualified :
    StatementQualified ["users", "archive"] "control"
      (insertUsers (plainTable "users") (plainTable "archive"))
      (insertUsers (controlTable "users") (controlTable "archive")) := by
  have hrewrite : rewriteExpressionForControlDb ["users", "archive"] "control"
      (insertUsers (plainTable "users") (plainTable "archive")) =
        some (insertUsers (controlTable "users") (controlTable "archive")) := by
    rfl
  apply (rewriteExpressionForControlDb_iff (by decide) hrewrite).mpr
  have hapart : SpelledApart ["users", "archive"] ["users"] (plainTable "archive") := by
    rintro ⟨-, cteAlias, hmem, hsame⟩
    rw [List.mem_singleton.mp hmem] at hsame
    exact absurd hsame (by decide)
  have husers : SpelledApart ["users", "archive"] ["users"] (plainTable "users") :=
    fun _ hnot => absurd List.mem_cons_self hnot
  refine ⟨trivial, ?_, ?_⟩
  · simpa [insertUsers, selectFrom, cteAliases, CoveredAll, Covered, SettledAll] using hapart
  · simpa [insertUsers, selectFrom, cteAliases, CoveredAll, Covered, SettledAll] using husers

/-- UPDATE t SET v = 1 FROM a JOIN b, with the join below the table `a`. -/
def updateFromJoin (target joined : TableRef) : Statement where
  root := .dml (some (target, []))
  label := "UPDATE SET v = 1"
  ctes := []
  children := [.node "FROM" [] [.table joined [.node "JOIN" [] [.table (plainTable "b") []]]]]

/-- The joined table keeps its name, which means the one of the main schema. -/
theorem joined_table_not_qualified :
    ¬ ∀ persistentTables schema expression expression', schema ≠ "" →
      rewriteExpressionForControlDb persistentTables schema expression = some expression' →
      StatementQualified persistentTables schema expression expression' := by
  intro h
  have hrewrite : rewriteExpressionForControlDb ["t", "a", "b"] "control"
      (updateFromJoin (plainTable "t") (plainTable "a")) =
        some (updateFromJoin (controlTable "t") (controlTable "a")) := by
    rfl
  have hchildren := (h _ _ _ _ (by decide) hrewrite).children
  simp only [updateFromJoin, QualifiedAll, Qualified] at hchildren
  obtain ⟨⟨-, -, ⟨-, ⟨-, -, ⟨hjoined, -⟩, -⟩, -⟩, -⟩, -⟩ := hchildren
  have hdenotes : Denotes ["t", "a", "b"] "control" [] (plainTable "b") := by
    refine ⟨⟨.inl rfl, "b", by simp, rfl⟩, ?_⟩
    rintro ⟨-, cteAlias, hmem, -⟩
    exact List.not_mem_nil hmem
  have hschema := hjoined.qualified hdenotes
  exact absurd hschema (by decide)

end SqliteReconcile.ControlRewrite
