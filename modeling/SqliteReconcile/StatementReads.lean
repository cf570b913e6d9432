import SqliteReconcile.StatementSyntax

/-!
# Where the columns of a statement stand

The columns and stars of a statement, each with the scopes that it sees, and the tables that they
name. The collector finds just what they read.
-/
namespace SqliteReconcile.StatementSyntax
open Utils Models SqlMetadata

def Leaf.expr : Leaf → Expr
  | .column qualifier name => .column qualifier name
  | .star => .star

/-- A part stands in another one, inside no SELECT of it. -/
inductive Outside : Root → Root → Prop
  | self (part : Root) : Outside part part
  | child {operator : String} {children : List Expr} {child : Expr} {part : Root} :
    child ∈ children → Outside (.expression child) part →
    Outside (.expression (.node operator children)) part
  | subquery {query : Query} {part : Root} :
    Outside (.query query) part → Outside (.expression (.query query)) part
  | cte {ctes : List Query} {left right cte : Query} {tail : List Expr} {part : Root} :
    cte ∈ ctes → Outside (.query cte) part →
    Outside (.query (.setOperation ctes left right tail)) part
  | left {ctes : List Query} {left right : Query} {tail : List Expr} {part : Root} :
    Outside (.query left) part → Outside (.query (.setOperation ctes left right tail)) part
  | right {ctes : List Query} {left right : Query} {tail : List Expr} {part : Root} :
    Outside (.query right) part → Outside (.query (.setOperation ctes left right tail)) part
  | tail {ctes : List Query} {left right : Query} {tail : List Expr} {expr : Expr} {part : Root} :
    expr ∈ tail → Outside (.expression expr) part →
    Outside (.query (.setOperation ctes left right tail)) part

/-- A subquery of an expression that is in no other subquery of it. -/
inductive Nested : Expr → Query → Prop
  | here (query : Query) : Nested (.query query) query
  | child {operator : String} {children : List Expr} {child : Expr} {query : Query} :
    child ∈ children → Nested child query → Nested (.node operator children) query

section

variable (ignoredRelations : IgnoredRelations)

/-- A column or star stands in a query, and sees the given scopes. `outer` are the scopes around the
query, which its CTEs and derived tables see in place of its own. -/
inductive Stands : ResolutionFrame → Query → ResolutionFrame → Leaf → Prop
  | clause {outer ctes sources clauses aliases clause leaf} : clause ∈ clauses →
    Outside (.expression clause) (.expression (Leaf.expr leaf)) →
    Stands outer (.select ctes sources clauses aliases)
      (scopeSources ignoredRelations sources aliases :: outer) leaf
  | behindCte {outer ctes sources clauses aliases cte leaf} : cte ∈ ctes →
    Outside (.query cte) (.expression (Leaf.expr leaf)) →
    Stands outer (.select ctes sources clauses aliases)
      (scopeSources ignoredRelations sources aliases :: outer) leaf
  | behindDerived {outer ctes sources clauses aliases sourceAlias columns query leaf} :
    .derived sourceAlias columns query ∈ sources →
    Outside (.query query) (.expression (Leaf.expr leaf)) →
    Stands outer (.select ctes sources clauses aliases)
      (scopeSources ignoredRelations sources aliases :: outer) leaf
  | selectCte {outer ctes sources clauses aliases cte frame leaf} : cte ∈ ctes →
    Stands outer cte frame leaf → Stands outer (.select ctes sources clauses aliases) frame leaf
  | derived {outer ctes sources clauses aliases sourceAlias columns query frame leaf} :
    .derived sourceAlias columns query ∈ sources → Stands outer query frame leaf →
    Stands outer (.select ctes sources clauses aliases) frame leaf
  | subquery {outer ctes sources clauses aliases clause query frame leaf} : clause ∈ clauses →
    Nested clause query →
    Stands (scopeSources ignoredRelations sources aliases :: outer) query frame leaf →
    Stands outer (.select ctes sources clauses aliases) frame leaf
  | behindSet {outer ctes left right tail leaf} :
    Outside (.query (.setOperation ctes left right tail)) (.expression (Leaf.expr leaf)) →
    Stands outer (.setOperation ctes left right tail) (newSourceMap ∅ :: outer) leaf
  | setCte {outer ctes left right tail cte frame leaf} : cte ∈ ctes →
    Stands outer cte frame leaf → Stands outer (.setOperation ctes left right tail) frame leaf
  | left {outer ctes left right tail frame leaf} :
    Stands (newSourceMap ∅ :: outer) left frame leaf →
    Stands outer (.setOperation ctes left right tail) frame leaf
  | right {outer ctes left right tail frame leaf} :
    Stands (newSourceMap ∅ :: outer) right frame leaf →
    Stands outer (.setOperation ctes left right tail) frame leaf
  | setSubquery {outer ctes left right tail expr query frame leaf} : expr ∈ tail →
    Nested expr query → Stands (newSourceMap ∅ :: outer) query frame leaf →
    Stands outer (.setOperation ctes left right tail) frame leaf

/-- A column or star stands in a fragment of a statement. -/
inductive RootStands (frame : ResolutionFrame) : Root → ResolutionFrame → Leaf → Prop
  | expression {expr leaf} : Outside (.expression expr) (.expression (Leaf.expr leaf)) →
    RootStands frame (.expression expr) frame leaf
  | select {root ctes sources clauses aliases inner leaf} :
    Outside root (.query (.select ctes sources clauses aliases)) →
    Stands ignoredRelations frame (.select ctes sources clauses aliases) inner leaf →
    RootStands frame root inner leaf

end

/-- The table that a qualifier names: the nearest scope that knows it counts. -/
inductive Qualified (qualifier : String) : ResolutionFrame → String → Prop
  | here {sources parents table} : qualifier ∉ sources.ignoredAliases →
    sources.aliasToTable.lookup qualifier = some table →
    Qualified qualifier (sources :: parents) table
  | outer {sources parents table} : qualifier ∉ sources.ignoredAliases →
    sources.aliasToTable.lookup qualifier = none → Qualified qualifier parents table →
    Qualified qualifier (sources :: parents) table

section

variable (tableColumns : List (String × Finset String))

/-- A table of a scope has a column. -/
def HasColumn (sources : SourceMap) (name table : String) : Prop :=
  (∃ key, (key, table) ∈ sources.aliasToTable) ∧ name ∈ (tableColumns.lookup table).getD ∅

/-- The table of an unqualified column: it is the only one of its scope with the column, and no
nearer scope has the name. -/
inductive Unqualified (name : String) : ResolutionFrame → String → Prop
  | here {sources parents table} :
    (∀ other, HasColumn tableColumns sources name other ↔ other = table) →
    Unqualified name (sources :: parents) table
  | outer {sources parents table} :
    (∀ other, ¬ ∀ t, HasColumn tableColumns sources name t ↔ t = other) →
    name ∉ sources.outputAliases →
    (∀ item ∈ sources.ignoredColumns, allColumns ∉ item.2 ∧ name ∉ item.2) →
    Unqualified name parents table → Unqualified name (sources :: parents) table

/-- A column or star reads a column of a table. -/
inductive LeafReads : ResolutionFrame → Leaf → String → String → Prop
  | star {sources parents key table} : (key, table) ∈ sources.aliasToTable →
    LeafReads (sources :: parents) .star table allColumns
  | starColumn {sources parents key table} : (key, table) ∈ sources.aliasToTable →
    LeafReads (sources :: parents) (.column "" allColumns) table allColumns
  | qualified {frame qualifier name table} : qualifier ≠ "" → Qualified qualifier frame table →
    LeafReads frame (.column qualifier name) table name
  | unqualified {frame name table} : name ≠ allColumns → Unqualified tableColumns name frame table →
    LeafReads frame (.column "" name) table name

end

namespace Statement

/-- A column or star stands in a statement, and sees the given scopes. -/
inductive Stands (statement : Statement) : ResolutionFrame → Leaf → Prop
  | cte {cte frame leaf} : cte ∈ statement.ctes →
    RootStands statement.cteOutputColumns [newSourceMap ∅] (.query cte.query) frame leaf →
    Stands statement frame leaf
  | root {root frame leaf} : root ∈ statement.readRoots →
    RootStands statement.cteOutputColumns [statement.dmlOuterSources] root frame leaf →
    Stands statement frame leaf

/-- Some column or star of a statement reads a column of a table. -/
def Reads (tableColumns : List (String × Finset String)) (statement : Statement)
    (table column : String) : Prop :=
  ∃ frame leaf, statement.Stands frame leaf ∧ LeafReads tableColumns frame leaf table column

end Statement

@[simp] lemma outside_node {operator : String} {children : List Expr} {part : Root} :
    Outside (.expression (.node operator children)) part ↔
      part = .expression (.node operator children) ∨
        ∃ child ∈ children, Outside (.expression child) part := by
  constructor
  · intro h
    cases h with
    | self => exact .inl rfl
    | child hmem hpart => exact .inr ⟨_, hmem, hpart⟩
  · rintro (rfl | ⟨child, hmem, hpart⟩)
    · exact .self _
    · exact .child hmem hpart

@[simp] lemma outside_subquery {query : Query} {part : Root} :
    Outside (.expression (.query query)) part ↔
      part = .expression (.query query) ∨ Outside (.query query) part := by
  constructor
  · intro h
    cases h with
    | self => exact .inl rfl
    | subquery hpart => exact .inr hpart
  · rintro (rfl | hpart)
    · exact .self _
    · exact .subquery hpart

@[simp] lemma outside_setOperation {ctes : List Query} {left right : Query} {tail : List Expr}
    {part : Root} :
    Outside (.query (.setOperation ctes left right tail)) part ↔
      part = .query (.setOperation ctes left right tail) ∨
        (∃ cte ∈ ctes, Outside (.query cte) part) ∨ Outside (.query left) part ∨
          Outside (.query right) part ∨ ∃ expr ∈ tail, Outside (.expression expr) part := by
  constructor
  · intro h
    cases h with
    | self => exact .inl rfl
    | cte hmem hpart => exact .inr (.inl ⟨_, hmem, hpart⟩)
    | left hpart => exact .inr (.inr (.inl hpart))
    | right hpart => exact .inr (.inr (.inr (.inl hpart)))
    | tail hmem hpart => exact .inr (.inr (.inr (.inr ⟨_, hmem, hpart⟩)))
  · rintro (rfl | ⟨cte, hmem, hpart⟩ | hpart | hpart | ⟨expr, hmem, hpart⟩)
    · exact .self _
    · exact .cte hmem hpart
    · exact .left hpart
    · exact .right hpart
    · exact .tail hmem hpart

@[simp] lemma outside_select {ctes : List Query} {sources : List Source} {clauses : List Expr}
    {aliases : List String} {part : Root} :
    Outside (.query (.select ctes sources clauses aliases)) part ↔
      part = .query (.select ctes sources clauses aliases) :=
  ⟨fun h => by cases h; rfl, fun h => h ▸ .self _⟩

@[simp] lemma outside_column {qualifier name : String} {part : Root} :
    Outside (.expression (.column qualifier name)) part ↔
      part = .expression (.column qualifier name) :=
  ⟨fun h => by cases h; rfl, fun h => h ▸ .self _⟩

@[simp] lemma outside_star {part : Root} :
    Outside (.expression .star) part ↔ part = .expression .star :=
  ⟨fun h => by cases h; rfl, fun h => h ▸ .self _⟩

@[simp] lemma outside_null {part : Root} :
    Outside (.expression .null) part ↔ part = .expression .null :=
  ⟨fun h => by cases h; rfl, fun h => h ▸ .self _⟩

@[simp] lemma outside_literal {text : String} {part : Root} :
    Outside (.expression (.literal text)) part ↔ part = .expression (.literal text) :=
  ⟨fun h => by cases h; rfl, fun h => h ▸ .self _⟩

lemma leaf_ne_node (leaf : Leaf) (operator : String) (children : List Expr) :
    leaf.expr ≠ .node operator children := by
  cases leaf <;> simp [Leaf.expr]

lemma leaf_ne_query (leaf : Leaf) (query : Query) : leaf.expr ≠ .query query := by
  cases leaf <;> simp [Leaf.expr]

mutual

lemma mem_leaves {leaf : Leaf} : ∀ expr : Expr,
    leaf ∈ leaves expr ↔ Outside (.expression expr) (.expression leaf.expr)
  | .null => by cases leaf <;> simp [leaves, Leaf.expr]
  | .literal text => by cases leaf <;> simp [leaves, Leaf.expr]
  | .column qualifier name => by cases leaf <;> simp [leaves, Leaf.expr]
  | .star => by cases leaf <;> simp [leaves, Leaf.expr]
  | .query query => by
    rw [leaves, mem_queryLeaves query]
    simp [leaf_ne_query]
  | .node operator children => by
    rw [leaves, mem_leavesAll children]
    simp [leaf_ne_node]

lemma mem_leavesAll {leaf : Leaf} : ∀ exprs : List Expr,
    leaf ∈ leavesAll exprs ↔ ∃ expr ∈ exprs, Outside (.expression expr) (.expression leaf.expr)
  | [] => by simp [leavesAll]
  | expr :: rest => by
    rw [leavesAll, List.mem_append, mem_leaves expr, mem_leavesAll rest]
    simp

lemma mem_queryLeaves {leaf : Leaf} : ∀ query : Query,
    leaf ∈ queryLeaves query ↔ Outside (.query query) (.expression leaf.expr)
  | .select .. => by simp [queryLeaves]
  | .setOperation ctes left right tail => by
    simp only [queryLeaves, List.mem_append, mem_queryLeavesAll ctes, mem_queryLeaves left,
      mem_queryLeaves right, mem_leavesAll tail, outside_setOperation, reduceCtorEq, false_or,
      or_assoc]

lemma mem_queryLeavesAll {leaf : Leaf} : ∀ queries : List Query,
    leaf ∈ queryLeavesAll queries ↔ ∃ query ∈ queries, Outside (.query query) (.expression leaf.expr)
  | [] => by simp [queryLeavesAll]
  | query :: rest => by
    rw [queryLeavesAll, List.mem_append, mem_queryLeaves query, mem_queryLeavesAll rest]
    simp

end

mutual

lemma mem_outermostSelects {select : Query} : ∀ expr : Expr,
    select ∈ outermostSelects expr ↔ (∃ ctes sources clauses aliases,
      select = .select ctes sources clauses aliases) ∧ Outside (.expression expr) (.query select)
  | .null => by simp [outermostSelects]
  | .literal text => by simp [outermostSelects]
  | .column qualifier name => by simp [outermostSelects]
  | .star => by simp [outermostSelects]
  | .query query => by
    rw [outermostSelects, mem_queryOutermostSelects query]
    simp
  | .node operator children => by
    rw [outermostSelects, mem_outermostSelectsAll children]
    simp

lemma mem_outermostSelectsAll {select : Query} : ∀ exprs : List Expr,
    select ∈ outermostSelectsAll exprs ↔ (∃ ctes sources clauses aliases,
      select = .select ctes sources clauses aliases) ∧
        ∃ expr ∈ exprs, Outside (.expression expr) (.query select)
  | [] => by simp [outermostSelectsAll]
  | expr :: rest => by
    rw [outermostSelectsAll, List.mem_append, mem_outermostSelects expr,
      mem_outermostSelectsAll rest, ← and_or_left]
    simp

lemma mem_queryOutermostSelects {select : Query} : ∀ query : Query,
    select ∈ queryOutermostSelects query ↔ (∃ ctes sources clauses aliases,
      select = .select ctes sources clauses aliases) ∧ Outside (.query query) (.query select)
  | .select ctes sources clauses aliases => by
    simp only [queryOutermostSelects, List.mem_singleton, outside_select, Root.query.injEq]
    exact ⟨fun h => ⟨⟨_, _, _, _, h⟩, h⟩, And.right⟩
  | .setOperation ctes left right tail => by
    simp only [queryOutermostSelects, List.mem_append, mem_queryOutermostSelectsAll ctes,
      mem_queryOutermostSelects left, mem_queryOutermostSelects right,
      mem_outermostSelectsAll tail, outside_setOperation, Root.query.injEq, ← and_or_left, or_assoc]
    refine and_congr_right ?_
    rintro ⟨ctes', sources, clauses, aliases, rfl⟩
    simp

lemma mem_queryOutermostSelectsAll {select : Query} : ∀ queries : List Query,
    select ∈ queryOutermostSelectsAll queries ↔ (∃ ctes sources clauses aliases,
      select = .select ctes sources clauses aliases) ∧
        ∃ query ∈ queries, Outside (.query query) (.query select)
  | [] => by simp [queryOutermostSelectsAll]
  | query :: rest => by
    rw [queryOutermostSelectsAll, List.mem_append, mem_queryOutermostSelects query,
      mem_queryOutermostSelectsAll rest, ← and_or_left]
    simp

end

section

variable (ignoredRelations : IgnoredRelations)

mutual

/-- The columns and stars of a scope tree with the frames that they are resolved in. -/
def scopeOccurrences (outer : ResolutionFrame) : Query → List (ResolutionFrame × Leaf)
  | .select ctes sources clauses aliases =>
    let frame := scopeSources ignoredRelations sources aliases :: outer
    ((queryLeavesAll ctes ++ sources.flatMap sourceLeaves ++ leavesAll clauses).map (frame, ·)) ++
      scopeOccurrencesAll outer ctes ++ sourceOccurrences outer sources ++
      nestedOccurrencesAll frame clauses
  | .setOperation ctes left right tail =>
    let frame := newSourceMap ∅ :: outer
    ((queryLeaves (.setOperation ctes left right tail)).map (frame, ·)) ++
      scopeOccurrencesAll outer ctes ++ scopeOccurrences frame left ++
      scopeOccurrences frame right ++ nestedOccurrencesAll frame tail

def scopeOccurrencesAll (outer : ResolutionFrame) : List Query → List (ResolutionFrame × Leaf)
  | [] => []
  | query :: rest => scopeOccurrences outer query ++ scopeOccurrencesAll outer rest

def sourceOccurrences (outer : ResolutionFrame) : List Source → List (ResolutionFrame × Leaf)
  | [] => []
  | .derived _ _ query :: rest => scopeOccurrences outer query ++ sourceOccurrences outer rest
  | .table _ :: rest | .cteReference .. :: rest => sourceOccurrences outer rest

def nestedOccurrences (frame : ResolutionFrame) : Expr → List (ResolutionFrame × Leaf)
  | .query query => scopeOccurrences frame query
  | .node _ children => nestedOccurrencesAll frame children
  | .null | .literal _ | .column .. | .star => []

def nestedOccurrencesAll (frame : ResolutionFrame) : List Expr → List (ResolutionFrame × Leaf)
  | [] => []
  | expr :: rest => nestedOccurrences frame expr ++ nestedOccurrencesAll frame rest

end

def rootOccurrences (frame : ResolutionFrame) : Root → List (ResolutionFrame × Leaf)
  | .query query => (queryOutermostSelects query).flatMap (scopeOccurrences ignoredRelations frame)
  | .expression expr =>
    (outermostSelects expr).flatMap (scopeOccurrences ignoredRelations frame) ++
      (leaves expr).map (frame, ·)

end

def Statement.occurrences (statement : Statement) : List (ResolutionFrame × Leaf) :=
  statement.ctes.flatMap (fun cte =>
      rootOccurrences statement.cteOutputColumns [newSourceMap ∅] (.query cte.query)) ++
    statement.readRoots.flatMap
      (rootOccurrences statement.cteOutputColumns [statement.dmlOuterSources])

section

variable (tableColumns : List (String × Finset String)) {ignoredRelations : IgnoredRelations}

def occurrenceReads (occurrence : ResolutionFrame × Leaf) : List (String × String) :=
  readsOfLeaf tableColumns occurrence.1 occurrence.2

lemma flatMap_occurrenceReads (frame : ResolutionFrame) (found : List Leaf) :
    (found.map (frame, ·)).flatMap (occurrenceReads tableColumns) =
      directReads tableColumns frame found := by
  rw [List.flatMap_map]
  rfl

mutual

lemma scopeReads_eq (outer : ResolutionFrame) : ∀ query : Query,
    scopeReads tableColumns ignoredRelations outer query =
      (scopeOccurrences ignoredRelations outer query).flatMap (occurrenceReads tableColumns)
  | .select ctes sources clauses aliases => by
    rw [scopeReads, scopeOccurrences, List.flatMap_append, List.flatMap_append,
      List.flatMap_append, flatMap_occurrenceReads, scopeReadsAll_eq outer ctes,
      sourceReads_eq outer sources, nestedReadsAll_eq _ clauses]
  | .setOperation ctes left right tail => by
    rw [scopeReads, scopeOccurrences, List.flatMap_append, List.flatMap_append,
      List.flatMap_append, List.flatMap_append, flatMap_occurrenceReads,
      scopeReadsAll_eq outer ctes, scopeReads_eq _ left, scopeReads_eq _ right,
      nestedReadsAll_eq _ tail]

lemma scopeReadsAll_eq (outer : ResolutionFrame) : ∀ queries : List Query,
    scopeReadsAll tableColumns ignoredRelations outer queries =
      (scopeOccurrencesAll ignoredRelations outer queries).flatMap (occurrenceReads tableColumns)
  | [] => rfl
  | query :: rest => by
    rw [scopeReadsAll, scopeOccurrencesAll, List.flatMap_append, scopeReads_eq outer query,
      scopeReadsAll_eq outer rest]

lemma sourceReads_eq (outer : ResolutionFrame) : ∀ sources : List Source,
    sourceReads tableColumns ignoredRelations outer sources =
      (sourceOccurrences ignoredRelations outer sources).flatMap (occurrenceReads tableColumns)
  | [] => rfl
  | .table _ :: rest => by rw [sourceReads, sourceOccurrences, sourceReads_eq outer rest]
  | .cteReference .. :: rest => by rw [sourceReads, sourceOccurrences, sourceReads_eq outer rest]
  | .derived _ _ query :: rest => by
    rw [sourceReads, sourceOccurrences, List.flatMap_append, scopeReads_eq outer query,
      sourceReads_eq outer rest]

lemma nestedReads_eq (frame : ResolutionFrame) : ∀ expr : Expr,
    nestedReads tableColumns ignoredRelations frame expr =
      (nestedOccurrences ignoredRelations frame expr).flatMap (occurrenceReads tableColumns)
  | .null | .literal _ | .column .. | .star => by rw [nestedReads, nestedOccurrences]; rfl
  | .query query => by rw [nestedReads, nestedOccurrences, scopeReads_eq frame query]
  | .node _ children => by rw [nestedReads, nestedOccurrences, nestedReadsAll_eq frame children]

lemma nestedReadsAll_eq (frame : ResolutionFrame) : ∀ exprs : List Expr,
    nestedReadsAll tableColumns ignoredRelations frame exprs =
      (nestedOccurrencesAll ignoredRelations frame exprs).flatMap (occurrenceReads tableColumns)
  | [] => rfl
  | expr :: rest => by
    rw [nestedReadsAll, nestedOccurrencesAll, List.flatMap_append, nestedReads_eq frame expr,
      nestedReadsAll_eq frame rest]

end

lemma rootReads_eq (frame : ResolutionFrame) (root : Root) :
    rootReads tableColumns ignoredRelations frame root =
      (rootOccurrences ignoredRelations frame root).flatMap (occurrenceReads tableColumns) := by
  cases root with
  | query query =>
    rw [rootReads, rootOccurrences, List.flatMap_assoc]
    exact List.flatMap_congr fun select _ => scopeReads_eq tableColumns frame select
  | expression expr =>
    rw [rootReads, rootOccurrences, List.flatMap_append, flatMap_occurrenceReads,
      List.flatMap_assoc]
    exact congrArg (· ++ _)
      (List.flatMap_congr fun select _ => scopeReads_eq tableColumns frame select)

lemma Statement.reads_eq (statement : Statement) :
    statement.reads tableColumns =
      statement.occurrences.flatMap (occurrenceReads tableColumns) := by
  rw [Statement.reads, Statement.occurrences, List.flatMap_append, List.flatMap_assoc,
    List.flatMap_assoc]
  congr 1
  · exact List.flatMap_congr fun cte _ => rootReads_eq tableColumns _ _
  · exact List.flatMap_congr fun root _ => rootReads_eq tableColumns _ _

end

section

variable {ignoredRelations : IgnoredRelations} {frame : ResolutionFrame} {leaf : Leaf}

lemma mem_sourceLeaves {sources : List Source} :
    leaf ∈ sources.flatMap sourceLeaves ↔ ∃ sourceAlias columns query,
      .derived sourceAlias columns query ∈ sources ∧
        Outside (.query query) (.expression leaf.expr) := by
  rw [List.mem_flatMap]
  constructor
  · rintro ⟨source, hsource, hleaf⟩
    cases source with
    | table table => cases hleaf
    | cteReference sourceAlias columns => cases hleaf
    | derived sourceAlias columns query => exact ⟨_, _, _, hsource, (mem_queryLeaves query).mp hleaf⟩
  · rintro ⟨sourceAlias, columns, query, hsource, hleaf⟩
    exact ⟨_, hsource, (mem_queryLeaves query).mpr hleaf⟩

lemma stands_select {outer : ResolutionFrame} {ctes : List Query} {sources : List Source}
    {clauses : List Expr} {aliases : List String} :
    Stands ignoredRelations outer (.select ctes sources clauses aliases) frame leaf ↔
      (frame = scopeSources ignoredRelations sources aliases :: outer ∧
        ((∃ cte ∈ ctes, Outside (.query cte) (.expression leaf.expr)) ∨
          (∃ sourceAlias columns query, .derived sourceAlias columns query ∈ sources ∧
            Outside (.query query) (.expression leaf.expr)) ∨
          ∃ clause ∈ clauses, Outside (.expression clause) (.expression leaf.expr))) ∨
      (∃ cte ∈ ctes, Stands ignoredRelations outer cte frame leaf) ∨
      (∃ sourceAlias columns query, .derived sourceAlias columns query ∈ sources ∧
        Stands ignoredRelations outer query frame leaf) ∨
      ∃ clause ∈ clauses, ∃ query, Nested clause query ∧
        Stands ignoredRelations (scopeSources ignoredRelations sources aliases :: outer) query
          frame leaf := by
  constructor
  · intro h
    cases h with
    | clause hmem hleaf => exact .inl ⟨rfl, .inr (.inr ⟨_, hmem, hleaf⟩)⟩
    | behindCte hmem hleaf => exact .inl ⟨rfl, .inl ⟨_, hmem, hleaf⟩⟩
    | behindDerived hmem hleaf => exact .inl ⟨rfl, .inr (.inl ⟨_, _, _, hmem, hleaf⟩)⟩
    | selectCte hmem hstands => exact .inr (.inl ⟨_, hmem, hstands⟩)
    | derived hmem hstands => exact .inr (.inr (.inl ⟨_, _, _, hmem, hstands⟩))
    | subquery hmem hnested hstands => exact .inr (.inr (.inr ⟨_, hmem, _, hnested, hstands⟩))
  · rintro (⟨rfl, ⟨cte, hmem, hleaf⟩ | ⟨_, _, _, hmem, hleaf⟩ | ⟨clause, hmem, hleaf⟩⟩ |
      ⟨cte, hmem, hstands⟩ | ⟨_, _, _, hmem, hstands⟩ | ⟨clause, hmem, query, hnested, hstands⟩)
    · exact .behindCte hmem hleaf
    · exact .behindDerived hmem hleaf
    · exact .clause hmem hleaf
    · exact .selectCte hmem hstands
    · exact .derived hmem hstands
    · exact .subquery hmem hnested hstands

lemma stands_setOperation {outer : ResolutionFrame} {ctes : List Query} {left right : Query}
    {tail : List Expr} :
    Stands ignoredRelations outer (.setOperation ctes left right tail) frame leaf ↔
      (frame = newSourceMap ∅ :: outer ∧
        Outside (.query (.setOperation ctes left right tail)) (.expression leaf.expr)) ∨
      (∃ cte ∈ ctes, Stands ignoredRelations outer cte frame leaf) ∨
      Stands ignoredRelations (newSourceMap ∅ :: outer) left frame leaf ∨
      Stands ignoredRelations (newSourceMap ∅ :: outer) right frame leaf ∨
      ∃ expr ∈ tail, ∃ query, Nested expr query ∧
        Stands ignoredRelations (newSourceMap ∅ :: outer) query frame leaf := by
  constructor
  · intro h
    cases h with
    | behindSet hleaf => exact .inl ⟨rfl, hleaf⟩
    | setCte hmem hstands => exact .inr (.inl ⟨_, hmem, hstands⟩)
    | left hstands => exact .inr (.inr (.inl hstands))
    | right hstands => exact .inr (.inr (.inr (.inl hstands)))
    | setSubquery hmem hnested hstands =>
      exact .inr (.inr (.inr (.inr ⟨_, hmem, _, hnested, hstands⟩)))
  · rintro (⟨rfl, hleaf⟩ | ⟨cte, hmem, hstands⟩ | hstands | hstands |
      ⟨expr, hmem, query, hnested, hstands⟩)
    · exact .behindSet hleaf
    · exact .setCte hmem hstands
    · exact .left hstands
    · exact .right hstands
    · exact .setSubquery hmem hnested hstands

lemma nested_node {operator : String} {children : List Expr} {query : Query} :
    Nested (.node operator children) query ↔ ∃ child ∈ children, Nested child query := by
  constructor
  · intro h
    cases h with
    | child hmem hnested => exact ⟨_, hmem, hnested⟩
  · rintro ⟨child, hmem, hnested⟩
    exact .child hmem hnested

lemma nested_query {query query' : Query} : Nested (.query query) query' ↔ query' = query :=
  ⟨fun h => by cases h; rfl, fun h => h ▸ .here _⟩

lemma mem_leafMap {frame' : ResolutionFrame} {found : List Leaf} :
    (frame, leaf) ∈ found.map (frame', ·) ↔ frame = frame' ∧ leaf ∈ found := by
  simp [and_comm, eq_comm]

mutual

lemma mem_scopeOccurrences (outer : ResolutionFrame) : ∀ query : Query,
    (frame, leaf) ∈ scopeOccurrences ignoredRelations outer query ↔
      Stands ignoredRelations outer query frame leaf
  | .select ctes sources clauses aliases => by
    rw [stands_select, scopeOccurrences]
    simp only [List.mem_append, mem_leafMap, mem_queryLeavesAll ctes, mem_sourceLeaves,
      mem_leavesAll clauses, mem_scopeOccurrencesAll outer ctes, mem_sourceOccurrences outer sources,
      mem_nestedOccurrencesAll _ clauses, or_assoc]
  | .setOperation ctes left right tail => by
    rw [stands_setOperation, scopeOccurrences]
    simp only [List.mem_append, mem_leafMap, mem_queryLeaves (.setOperation ctes left right tail),
      mem_scopeOccurrencesAll outer ctes, mem_scopeOccurrences _ left, mem_scopeOccurrences _ right,
      mem_nestedOccurrencesAll _ tail, or_assoc]

lemma mem_scopeOccurrencesAll (outer : ResolutionFrame) : ∀ queries : List Query,
    (frame, leaf) ∈ scopeOccurrencesAll ignoredRelations outer queries ↔
      ∃ query ∈ queries, Stands ignoredRelations outer query frame leaf
  | [] => by simp [scopeOccurrencesAll]
  | query :: rest => by
    rw [scopeOccurrencesAll, List.mem_append, mem_scopeOccurrences outer query,
      mem_scopeOccurrencesAll outer rest]
    simp

lemma mem_sourceOccurrences (outer : ResolutionFrame) : ∀ sources : List Source,
    (frame, leaf) ∈ sourceOccurrences ignoredRelations outer sources ↔
      ∃ sourceAlias columns query, .derived sourceAlias columns query ∈ sources ∧
        Stands ignoredRelations outer query frame leaf
  | [] => by simp [sourceOccurrences]
  | .table table :: rest => by
    rw [sourceOccurrences, mem_sourceOccurrences outer rest]
    simp
  | .cteReference sourceAlias columns :: rest => by
    rw [sourceOccurrences, mem_sourceOccurrences outer rest]
    simp
  | .derived sourceAlias columns query :: rest => by
    rw [sourceOccurrences, List.mem_append, mem_scopeOccurrences outer query,
      mem_sourceOccurrences outer rest]
    simp only [List.mem_cons, Source.derived.injEq]
    constructor
    · rintro (hstands | ⟨_, _, _, hmem, hstands⟩)
      · exact ⟨_, _, _, .inl ⟨rfl, rfl, rfl⟩, hstands⟩
      · exact ⟨_, _, _, .inr hmem, hstands⟩
    · rintro ⟨_, _, _, ⟨rfl, rfl, rfl⟩ | hmem, hstands⟩
      · exact .inl hstands
      · exact .inr ⟨_, _, _, hmem, hstands⟩

lemma mem_nestedOccurrences (outer : ResolutionFrame) : ∀ expr : Expr,
    (frame, leaf) ∈ nestedOccurrences ignoredRelations outer expr ↔
      ∃ query, Nested expr query ∧ Stands ignoredRelations outer query frame leaf
  | .null => by
    rw [nestedOccurrences]
    exact iff_of_false List.not_mem_nil fun ⟨_, h, _⟩ => by cases h
  | .literal _ => by
    rw [nestedOccurrences]
    exact iff_of_false List.not_mem_nil fun ⟨_, h, _⟩ => by cases h
  | .column .. => by
    rw [nestedOccurrences]
    exact iff_of_false List.not_mem_nil fun ⟨_, h, _⟩ => by cases h
  | .star => by
    rw [nestedOccurrences]
    exact iff_of_false List.not_mem_nil fun ⟨_, h, _⟩ => by cases h
  | .query query => by
    rw [nestedOccurrences, mem_scopeOccurrences outer query]
    simp only [nested_query, exists_eq_left]
  | .node operator children => by
    rw [nestedOccurrences, mem_nestedOccurrencesAll outer children]
    simp only [nested_node]
    exact ⟨fun ⟨child, hmem, query, hnested, hstands⟩ => ⟨query, ⟨child, hmem, hnested⟩, hstands⟩,
      fun ⟨query, ⟨child, hmem, hnested⟩, hstands⟩ => ⟨child, hmem, query, hnested, hstands⟩⟩

lemma mem_nestedOccurrencesAll (outer : ResolutionFrame) : ∀ exprs : List Expr,
    (frame, leaf) ∈ nestedOccurrencesAll ignoredRelations outer exprs ↔
      ∃ expr ∈ exprs, ∃ query, Nested expr query ∧
        Stands ignoredRelations outer query frame leaf
  | [] => by simp [nestedOccurrencesAll]
  | expr :: rest => by
    rw [nestedOccurrencesAll, List.mem_append, mem_nestedOccurrences outer expr,
      mem_nestedOccurrencesAll outer rest]
    simp

end

lemma mem_rootOccurrences {outer : ResolutionFrame} {root : Root} :
    (frame, leaf) ∈ rootOccurrences ignoredRelations outer root ↔
      RootStands ignoredRelations outer root frame leaf := by
  cases root with
  | query query =>
    simp only [rootOccurrences, List.mem_flatMap, mem_queryOutermostSelects,
      mem_scopeOccurrences]
    constructor
    · rintro ⟨_, ⟨⟨ctes, sources, clauses, aliases, rfl⟩, houtside⟩, hstands⟩
      exact .select houtside hstands
    · intro h
      cases h with
      | select houtside hstands => exact ⟨_, ⟨⟨_, _, _, _, rfl⟩, houtside⟩, hstands⟩
  | expression expr =>
    simp only [rootOccurrences, List.mem_append, List.mem_flatMap, mem_outermostSelects,
      mem_scopeOccurrences, mem_leafMap, mem_leaves]
    constructor
    · rintro (⟨_, ⟨⟨ctes, sources, clauses, aliases, rfl⟩, houtside⟩, hstands⟩ | ⟨rfl, hleaf⟩)
      · exact .select houtside hstands
      · exact .expression hleaf
    · intro h
      cases h with
      | expression hleaf => exact .inr ⟨rfl, hleaf⟩
      | select houtside hstands => exact .inl ⟨_, ⟨⟨_, _, _, _, rfl⟩, houtside⟩, hstands⟩

lemma rootStands_node {outer : ResolutionFrame} {operator : String} {children : List Expr} :
    RootStands ignoredRelations outer (.expression (.node operator children)) frame leaf ↔
      ∃ child ∈ children, RootStands ignoredRelations outer (.expression child) frame leaf := by
  constructor
  · intro h
    cases h with
    | expression hleaf =>
      rcases outside_node.mp hleaf with hself | ⟨child, hmem, hleaf⟩
      · exact absurd (Root.expression.inj hself) (leaf_ne_node leaf operator children)
      · exact ⟨child, hmem, .expression hleaf⟩
    | select houtside hstands =>
      rcases outside_node.mp houtside with hself | ⟨child, hmem, houtside⟩
      · cases hself
      · exact ⟨child, hmem, .select houtside hstands⟩
  · rintro ⟨child, hmem, h⟩
    cases h with
    | expression hleaf => exact .expression (.child hmem hleaf)
    | select houtside hstands => exact .select (.child hmem houtside) hstands

lemma Statement.mem_occurrences {statement : Statement} :
    (frame, leaf) ∈ statement.occurrences ↔ statement.Stands frame leaf := by
  simp only [Statement.occurrences, List.mem_append, List.mem_flatMap, mem_rootOccurrences]
  constructor
  · rintro (⟨cte, hcte, hstands⟩ | ⟨root, hroot, hstands⟩)
    · exact .cte hcte hstands
    · exact .root hroot hstands
  · intro h
    cases h with
    | cte hcte hstands => exact .inl ⟨_, hcte, hstands⟩
    | root hroot hstands => exact .inr ⟨_, hroot, hstands⟩

end

section

variable {tableColumns : List (String × Finset String)} {frame : ResolutionFrame}

lemma resolveQualifiedTable_eq_some {qualifier table : String} :
    resolveQualifiedTable qualifier frame = some table ↔ Qualified qualifier frame table := by
  induction frame with
  | nil => exact iff_of_false (fun h => by cases h) fun h => by cases h
  | cons sources parents ih =>
    rw [resolveQualifiedTable]
    constructor
    · intro h
      split_ifs at h with hignored
      cases hlookup : sources.aliasToTable.lookup qualifier with
      | none =>
        rw [hlookup] at h
        exact .outer hignored hlookup (ih.mp h)
      | some found =>
        rw [hlookup] at h
        cases h
        exact .here hignored hlookup
    · intro h
      cases h with
      | here hignored hlookup => rw [if_neg hignored, hlookup]
      | outer hignored hlookup hrest => rw [if_neg hignored, hlookup, ih.mpr hrest]

lemma mem_realTableCandidates {sources : SourceMap} {name table : String} :
    table ∈ realTableCandidates tableColumns sources name ↔
      HasColumn tableColumns sources name table := by
  simp [realTableCandidates, HasColumn]

lemma realTableCandidates_eq_singleton {sources : SourceMap} {name table : String} :
    realTableCandidates tableColumns sources name = [table] ↔
      ∀ other, HasColumn tableColumns sources name other ↔ other = table := by
  simp only [← mem_realTableCandidates]
  constructor
  · intro h other
    rw [h, List.mem_singleton]
  · intro h
    have hnodup : (realTableCandidates tableColumns sources name).Nodup :=
      (List.nodup_dedup _).filter _
    have hperm : (realTableCandidates tableColumns sources name).Perm [table] :=
      (List.perm_ext_iff_of_nodup hnodup (List.nodup_singleton _)).mpr fun other => by
        rw [h other, List.mem_singleton]
    exact List.perm_singleton.mp hperm

lemma resolveUnqualifiedTable_eq_some {name table : String} :
    resolveUnqualifiedTable tableColumns name frame = some table ↔
      Unqualified tableColumns name frame table := by
  induction frame with
  | nil => exact iff_of_false (fun h => by cases h) fun h => by cases h
  | cons sources parents ih =>
    have hprovides : ignoredSourceMayProvideColumn sources name = false ↔
        ∀ item ∈ sources.ignoredColumns, allColumns ∉ item.2 ∧ name ∉ item.2 := by
      simp [ignoredSourceMayProvideColumn, not_or]
    rw [resolveUnqualifiedTable]
    constructor
    · intro h
      split at h
      · rename_i found hfound
        cases h
        exact .here (realTableCandidates_eq_singleton.mp hfound)
      · rename_i hmany
        split_ifs at h with hstop
        rw [not_or, Bool.not_eq_true] at hstop
        refine .outer (fun other hother => ?_) hstop.1 (hprovides.mp hstop.2) (ih.mp h)
        exact hmany other (realTableCandidates_eq_singleton.mpr hother)
    · intro h
      cases h with
      | here hone => rw [realTableCandidates_eq_singleton.mpr hone]
      | outer hmany halias hignored hrest =>
        have hstop : ¬ (name ∈ sources.outputAliases ∨
            ignoredSourceMayProvideColumn sources name = true) := by
          rw [not_or, Bool.not_eq_true]
          exact ⟨halias, hprovides.mpr hignored⟩
        split
        · rename_i found hfound
          exact absurd (realTableCandidates_eq_singleton.mp hfound) (hmany found)
        · rw [if_neg hstop, ih.mpr hrest]

lemma mem_starTables {table : String} :
    table ∈ starTables frame ↔
      ∃ sources parents key, frame = sources :: parents ∧ (key, table) ∈ sources.aliasToTable := by
  cases frame with
  | nil => simp [starTables]
  | cons sources parents => simp [starTables]

lemma mem_readsOfLeaf {leaf : Leaf} {table column : String} :
    (table, column) ∈ readsOfLeaf tableColumns frame leaf ↔
      LeafReads tableColumns frame leaf table column := by
  have hstar : (table, column) ∈ (starTables frame).map (·, allColumns) ↔
      table ∈ starTables frame ∧ column = allColumns := by
    simp [eq_comm]
  cases leaf with
  | star =>
    rw [readsOfLeaf, hstar, mem_starTables]
    constructor
    · rintro ⟨⟨sources, parents, key, rfl, hmem⟩, rfl⟩
      exact .star hmem
    · intro h
      cases h with
      | star hmem => exact ⟨⟨_, _, _, rfl, hmem⟩, rfl⟩
  | column qualifier name =>
    rw [readsOfLeaf]
    split_ifs with hboth hqualifier
    · obtain ⟨rfl, rfl⟩ := hboth
      rw [hstar, mem_starTables]
      constructor
      · rintro ⟨⟨sources, parents, key, rfl, hmem⟩, rfl⟩
        exact .starColumn hmem
      · intro h
        cases h with
        | starColumn hmem => exact ⟨⟨_, _, _, rfl, hmem⟩, rfl⟩
        | qualified hne _ => exact absurd rfl hne
        | unqualified hne _ => exact absurd rfl hne
    · simp only [List.mem_map, Option.mem_toList, Prod.mk.injEq, resolveQualifiedTable_eq_some]
      constructor
      · rintro ⟨_, hresolved, rfl, rfl⟩
        exact .qualified hqualifier hresolved
      · intro h
        cases h with
        | starColumn hmem => exact absurd rfl hqualifier
        | qualified _ hresolved => exact ⟨_, hresolved, rfl, rfl⟩
        | unqualified _ _ => exact absurd rfl hqualifier
    · obtain rfl := not_not.mp hqualifier
      have hname : name ≠ allColumns := fun hall => hboth ⟨hall, rfl⟩
      simp only [List.mem_map, Option.mem_toList, Prod.mk.injEq, resolveUnqualifiedTable_eq_some]
      constructor
      · rintro ⟨_, hresolved, rfl, rfl⟩
        exact .unqualified hname hresolved
      · intro h
        cases h with
        | starColumn hmem => exact absurd rfl hname
        | qualified hne _ => exact absurd rfl hne
        | unqualified _ hresolved => exact ⟨_, hresolved, rfl, rfl⟩

/-- The collector finds a column exactly when a column or star of the statement reads it. -/
theorem Statement.mem_reads {statement : Statement} {table column : String} :
    (table, column) ∈ statement.reads tableColumns ↔
      statement.Reads tableColumns table column := by
  rw [Statement.reads_eq, List.mem_flatMap]
  constructor
  · rintro ⟨⟨frame, leaf⟩, hmem, hread⟩
    exact ⟨frame, leaf, Statement.mem_occurrences.mp hmem, mem_readsOfLeaf.mp hread⟩
  · rintro ⟨frame, leaf, hstands, hread⟩
    exact ⟨(frame, leaf), Statement.mem_occurrences.mpr hstands, mem_readsOfLeaf.mpr hread⟩

end

end SqliteReconcile.StatementSyntax
