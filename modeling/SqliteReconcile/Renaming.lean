import SqliteReconcile.Identifiers
import SqliteReconcile.StatementReads

/-!
# Statements under other names

The tables, aliases and columns of a statement get other names, one for one. The collector walks the
renamed statement as the given one.
-/
namespace SqliteReconcile.StatementSyntax
open Utils Models SqlMetadata Identifiers

section

variable (source column : String → String)

def TableName.rename (table : TableName) : TableName :=
  ⟨source table.name, table.db, table.tableAlias.map source⟩

mutual

def renameExpr : Expr → Expr
  | .null => .null
  | .literal text => .literal text
  | .column qualifier name => .column (source qualifier) (column name)
  | .star => .star
  | .query query => .query (renameQuery query)
  | .node operator children => .node operator (renameExprs children)

def renameExprs : List Expr → List Expr
  | [] => []
  | expr :: rest => renameExpr expr :: renameExprs rest

def renameQuery : Query → Query
  | .select ctes sources clauses aliases =>
    .select (renameQueries ctes) (renameSources sources) (renameExprs clauses) (aliases.map column)
  | .setOperation ctes left right tail =>
    .setOperation (renameQueries ctes) (renameQuery left) (renameQuery right) (renameExprs tail)

def renameQueries : List Query → List Query
  | [] => []
  | query :: rest => renameQuery query :: renameQueries rest

def renameSource : Source → Source
  | .table table => .table (table.rename source)
  | .cteReference sourceAlias columns => .cteReference (source sourceAlias) (columns.map column)
  | .derived sourceAlias columns query =>
    .derived (source sourceAlias) (columns.map column) (renameQuery query)

def renameSources : List Source → List Source
  | [] => []
  | item :: rest => renameSource item :: renameSources rest

end

def Cte.rename (cte : Cte) : Cte :=
  ⟨source cte.name, cte.columns.map column, renameQuery source column cte.query⟩

def Root.rename : Root → Root
  | .query inner => .query (renameQuery source column inner)
  | .expression expr => .expression (renameExpr source column expr)

def InsertSource.rename : InsertSource → InsertSource
  | .values columns rows =>
    .values (columns.map (List.map column)) (rows.map (renameExprs source column))
  | .query columns inner => .query (columns.map (List.map column)) (renameQuery source column inner)
  | .defaultValues => .defaultValues

def FromClause.rename (fromClause : FromClause) : FromClause :=
  ⟨renameSources source column fromClause.sources, renameExprs source column fromClause.conditions⟩

def renameAssignment : Assignment → Assignment
  | .column name => .column (column name)
  | .row names => .row (names.map column)
  | .comparison name => .comparison (column name)

def Statement.rename : Statement → Statement
  | .insert ctes table insertSource =>
    .insert (ctes.map (Cte.rename source column)) (table.rename source)
      (insertSource.rename source column)
  | .update ctes table assignments fromClause condition =>
    .update (ctes.map (Cte.rename source column)) (table.rename source)
      (assignments.map fun a => (renameAssignment column a.1, renameExpr source column a.2))
      (fromClause.map (FromClause.rename source column))
      (condition.map (renameExpr source column))
  | .delete ctes table condition =>
    .delete (ctes.map (Cte.rename source column)) (table.rename source)
      (condition.map (renameExpr source column))
  | .nonDml ctes root => .nonDml (ctes.map (Cte.rename source column)) (root.rename source column)

def Leaf.rename : Leaf → Leaf
  | .column qualifier name => .column (source qualifier) (column name)
  | .star => .star

def SourceMap.rename (sources : SourceMap) : SourceMap where
  aliasToTable := sources.aliasToTable.map (Prod.map source source)
  ignoredAliases := sources.ignoredAliases.image source
  ignoredColumns := sources.ignoredColumns.map (Prod.map source (Finset.image column))
  outputAliases := sources.outputAliases.image column

def renameRelations (relations : IgnoredRelations) : IgnoredRelations :=
  relations.map (Prod.map source (Finset.image column))

def renameFrame (frame : ResolutionFrame) : ResolutionFrame :=
  frame.map (SourceMap.rename source column)

def renameOccurrence (occurrence : ResolutionFrame × Leaf) : ResolutionFrame × Leaf :=
  (renameFrame source column occurrence.1, occurrence.2.rename source column)

lemma renameExprs_eq_map (exprs : List Expr) :
    renameExprs source column exprs = exprs.map (renameExpr source column) := by
  induction exprs with
  | nil => rfl
  | cons expr rest ih => rw [renameExprs, ih, List.map_cons]

lemma renameSources_eq_map (sources : List Source) :
    renameSources source column sources = sources.map (renameSource source column) := by
  induction sources with
  | nil => rfl
  | cons item rest ih => rw [renameSources, ih, List.map_cons]

section

variable (source' column' : String → String)

lemma TableName.rename_rename (table : TableName) :
    (table.rename source).rename source' = table.rename (source' ∘ source) := by
  simp [TableName.rename]

mutual

lemma renameExpr_rename : ∀ expr : Expr, renameExpr source' column' (renameExpr source column expr) =
    renameExpr (source' ∘ source) (column' ∘ column) expr
  | .null | .literal _ | .column .. | .star => by simp [renameExpr]
  | .query query => by simp [renameExpr, renameQuery_rename query]
  | .node operator children => by simp [renameExpr, renameExprs_rename children]

lemma renameExprs_rename : ∀ exprs : List Expr,
    renameExprs source' column' (renameExprs source column exprs) =
      renameExprs (source' ∘ source) (column' ∘ column) exprs
  | [] => rfl
  | expr :: rest => by simp [renameExprs, renameExpr_rename expr, renameExprs_rename rest]

lemma renameQuery_rename : ∀ query : Query,
    renameQuery source' column' (renameQuery source column query) =
      renameQuery (source' ∘ source) (column' ∘ column) query
  | .select ctes sources clauses aliases => by
    simp [renameQuery, renameQueries_rename ctes, renameSources_rename sources,
      renameExprs_rename clauses]
  | .setOperation ctes left right tail => by
    simp [renameQuery, renameQueries_rename ctes, renameQuery_rename left,
      renameQuery_rename right, renameExprs_rename tail]

lemma renameQueries_rename : ∀ queries : List Query,
    renameQueries source' column' (renameQueries source column queries) =
      renameQueries (source' ∘ source) (column' ∘ column) queries
  | [] => rfl
  | query :: rest => by simp [renameQueries, renameQuery_rename query, renameQueries_rename rest]

lemma renameSource_rename : ∀ item : Source,
    renameSource source' column' (renameSource source column item) =
      renameSource (source' ∘ source) (column' ∘ column) item
  | .table table => by simp [renameSource, TableName.rename_rename]
  | .cteReference .. => by simp [renameSource]
  | .derived _ _ query => by simp [renameSource, renameQuery_rename query]

lemma renameSources_rename : ∀ sources : List Source,
    renameSources source' column' (renameSources source column sources) =
      renameSources (source' ∘ source) (column' ∘ column) sources
  | [] => rfl
  | item :: rest => by simp [renameSources, renameSource_rename item, renameSources_rename rest]

end

lemma Cte.rename_rename (cte : Cte) : (cte.rename source column).rename source' column' =
    cte.rename (source' ∘ source) (column' ∘ column) := by
  simp [Cte.rename, renameQuery_rename]

lemma InsertSource.rename_rename (insertSource : InsertSource) :
    (insertSource.rename source column).rename source' column' =
      insertSource.rename (source' ∘ source) (column' ∘ column) := by
  cases insertSource with
  | values columns rows => simp [InsertSource.rename, renameExprs_rename, Function.comp_def]
  | query columns query => simp [InsertSource.rename, renameQuery_rename, Function.comp_def]
  | defaultValues => rfl

lemma renameAssignment_rename (assignment : Assignment) :
    renameAssignment column' (renameAssignment column assignment) =
      renameAssignment (column' ∘ column) assignment := by
  cases assignment <;> simp [renameAssignment]

lemma Statement.rename_rename (statement : Statement) :
    (statement.rename source column).rename source' column' =
      statement.rename (source' ∘ source) (column' ∘ column) := by
  cases statement with
  | insert ctes table insertSource =>
    simp [Statement.rename, TableName.rename_rename, InsertSource.rename_rename,
      Cte.rename_rename, Function.comp_def]
  | update ctes table assignments fromClause condition =>
    cases fromClause <;> cases condition <;>
      simp [Statement.rename, TableName.rename_rename, Cte.rename_rename, FromClause.rename,
        renameAssignment_rename, renameExpr_rename, renameSources_rename, renameExprs_rename,
        Function.comp_def]
  | delete ctes table condition =>
    cases condition <;>
      simp [Statement.rename, TableName.rename_rename, Cte.rename_rename, renameExpr_rename,
        Function.comp_def]
  | nonDml ctes root =>
    cases root <;>
      simp [Statement.rename, Root.rename, Cte.rename_rename, renameExpr_rename,
        renameQuery_rename, Function.comp_def]

end

end

/-- Other spellings of the names of a statement: different names stay different, and only letter case
changes. -/
structure Spelling where
  source : String → String
  column : String → String
  source_injective : Function.Injective source
  column_injective : Function.Injective column
  source_fold : ∀ name, foldCase (source name) = foldCase name
  column_fold : ∀ name, foldCase (column name) = foldCase name

section

variable (s : Spelling)

lemma Spelling.source_eq_empty {name : String} : s.source name = "" ↔ name = "" := by
  have hempty : s.source "" = "" := eq_empty_of_foldCase (s.source_fold "")
  constructor
  · intro h
    exact s.source_injective (h.trans hempty.symm)
  · rintro rfl
    exact hempty

lemma Spelling.column_all : s.column allColumns = allColumns :=
  eq_star_of_foldCase (s.column_fold allColumns)

lemma Spelling.column_eq_all {name : String} : s.column name = allColumns ↔ name = allColumns := by
  constructor
  · intro h
    exact s.column_injective (h.trans s.column_all.symm)
  · rintro rfl
    exact s.column_all

lemma setItem_map {α β : Type} (value : α → β) (items : List (String × α)) (key : String) (item : α) :
    setItem (items.map (Prod.map s.source value)) (s.source key) (value item) =
      (setItem items key item).map (Prod.map s.source value) := by
  simp only [setItem, List.map_cons, List.filter_map, Prod.map_apply, Function.comp_def,
    Prod.map_fst, s.source_injective.ne_iff]

lemma lookup_map {α β : Type} (value : α → β) (items : List (String × α)) (key : String) :
    (items.map (Prod.map s.source value)).lookup (s.source key) = (items.lookup key).map value := by
  induction items with
  | nil => rfl
  | cons item rest ih =>
    rw [List.map_cons, Prod.map, List.lookup_cons, List.lookup_cons, ih]
    have hbeq : (s.source key == s.source item.1) = (key == item.1) := by
      simp [s.source_injective.eq_iff]
    rw [hbeq]
    cases key == item.1 <;> rfl

lemma aliasOrName_rename (table : TableName) :
    (table.rename s.source).aliasOrName = s.source table.aliasOrName := by
  cases halias : table.tableAlias with
  | none => simp [TableName.aliasOrName, TableName.rename, halias]
  | some name => simp [TableName.aliasOrName, TableName.rename, halias]

lemma outputColumns_rename (columns : List String) :
    outputColumns (columns.map s.column) = (outputColumns columns).image s.column := by
  unfold outputColumns
  by_cases h : columns = []
  · simp [h, s.column_all]
  · rw [if_neg (by simpa using h), if_neg h]
    ext name
    simp

lemma addTableSource_rename (relations : IgnoredRelations) (allowCteShadowing : Bool)
    (sources : SourceMap) (table : TableName) :
    addTableSource (renameRelations s.source s.column relations) allowCteShadowing
        (sources.rename s.source s.column) (table.rename s.source) =
      (addTableSource relations allowCteShadowing sources table).rename s.source s.column := by
  have hname : (table.rename s.source).name = s.source table.name := rfl
  have hdb : (table.rename s.source).db = table.db := rfl
  have halias := aliasOrName_rename s table
  have hlookup := lookup_map s (Finset.image s.column) relations table.name
  unfold addTableSource
  rw [hname, hdb, halias]
  simp only [s.source_eq_empty, renameRelations, hlookup]
  by_cases hempty : table.name = ""
  · rw [if_pos hempty, if_pos hempty]
  · rw [if_neg hempty, if_neg hempty]
    by_cases hshadow : allowCteShadowing = true ∧ table.db = ""
    · rw [if_pos hshadow, if_pos hshadow]
      cases relations.lookup table.name with
      | none => simp [SourceMap.rename, setItem_map]
      | some ignored =>
        simp [SourceMap.rename, setItem_map, Finset.image_insert]
    · rw [if_neg hshadow, if_neg hshadow]
      simp [SourceMap.rename, setItem_map]

lemma addSource_rename (relations : IgnoredRelations) (sources : SourceMap) (item : Source) :
    addSource (renameRelations s.source s.column relations) (sources.rename s.source s.column)
        (renameSource s.source s.column item) =
      (addSource relations sources item).rename s.source s.column := by
  cases item with
  | table table =>
    rw [renameSource, addSource, addSource]
    exact addTableSource_rename s relations true sources table
  | cteReference sourceAlias columns =>
    simp [renameSource, addSource, SourceMap.rename, outputColumns_rename, setItem_map,
      Finset.image_insert]
  | derived sourceAlias columns query =>
    simp [renameSource, addSource, SourceMap.rename, outputColumns_rename, setItem_map,
      Finset.image_insert]

lemma newSourceMap_rename (outputAliases : Finset String) :
    (newSourceMap outputAliases).rename s.source s.column =
      newSourceMap (outputAliases.image s.column) := by
  simp [newSourceMap, SourceMap.rename]

lemma foldl_rename {α : Type} (rename : α → α) (step step' : SourceMap → α → SourceMap)
    (h : ∀ sources a, step' (sources.rename s.source s.column) (rename a) =
      (step sources a).rename s.source s.column) (items : List α) (sources : SourceMap) :
    (items.map rename).foldl step' (sources.rename s.source s.column) =
      (items.foldl step sources).rename s.source s.column := by
  induction items generalizing sources with
  | nil => rfl
  | cons item rest ih => rw [List.map_cons, List.foldl_cons, List.foldl_cons, h, ih]

lemma scopeSources_rename (relations : IgnoredRelations) (items : List Source)
    (aliases : List String) :
    scopeSources (renameRelations s.source s.column relations)
        (renameSources s.source s.column items) (aliases.map s.column) =
      (scopeSources relations items aliases).rename s.source s.column := by
  unfold scopeSources
  have haliases : newSourceMap (aliases.map s.column).toFinset =
      (newSourceMap aliases.toFinset).rename s.source s.column := by
    rw [newSourceMap_rename]
    congr 1
    ext name
    simp
  rw [haliases, renameSources_eq_map]
  exact foldl_rename s (renameSource s.source s.column) _ _ (addSource_rename s relations) items _

mutual

lemma leaves_rename : ∀ expr : Expr, leaves (renameExpr s.source s.column expr) =
    (leaves expr).map (Leaf.rename s.source s.column)
  | .null | .literal _ | .column .. | .star => rfl
  | .query query => by rw [renameExpr, leaves, leaves, queryLeaves_rename query]
  | .node _ children => by rw [renameExpr, leaves, leaves, leavesAll_rename children]

lemma leavesAll_rename : ∀ exprs : List Expr, leavesAll (renameExprs s.source s.column exprs) =
    (leavesAll exprs).map (Leaf.rename s.source s.column)
  | [] => rfl
  | expr :: rest => by
    rw [renameExprs, leavesAll, leavesAll, leaves_rename expr, leavesAll_rename rest,
      List.map_append]

lemma queryLeaves_rename : ∀ query : Query, queryLeaves (renameQuery s.source s.column query) =
    (queryLeaves query).map (Leaf.rename s.source s.column)
  | .select .. => rfl
  | .setOperation ctes left right tail => by
    rw [renameQuery, queryLeaves, queryLeaves, queryLeavesAll_rename ctes, queryLeaves_rename left,
      queryLeaves_rename right, leavesAll_rename tail]
    simp only [List.map_append]

lemma queryLeavesAll_rename : ∀ queries : List Query,
    queryLeavesAll (renameQueries s.source s.column queries) =
      (queryLeavesAll queries).map (Leaf.rename s.source s.column)
  | [] => rfl
  | query :: rest => by
    rw [renameQueries, queryLeavesAll, queryLeavesAll, queryLeaves_rename query,
      queryLeavesAll_rename rest, List.map_append]

end

lemma sourceLeaves_rename (item : Source) : sourceLeaves (renameSource s.source s.column item) =
    (sourceLeaves item).map (Leaf.rename s.source s.column) := by
  cases item with
  | table table => rfl
  | cteReference sourceAlias columns => rfl
  | derived sourceAlias columns query => rw [renameSource, sourceLeaves, sourceLeaves,
      queryLeaves_rename]

mutual

lemma outermostSelects_rename : ∀ expr : Expr,
    outermostSelects (renameExpr s.source s.column expr) =
      (outermostSelects expr).map (renameQuery s.source s.column)
  | .null | .literal _ | .column .. | .star => rfl
  | .query query => by
    rw [renameExpr, outermostSelects, outermostSelects, queryOutermostSelects_rename query]
  | .node _ children => by
    rw [renameExpr, outermostSelects, outermostSelects, outermostSelectsAll_rename children]

lemma outermostSelectsAll_rename : ∀ exprs : List Expr,
    outermostSelectsAll (renameExprs s.source s.column exprs) =
      (outermostSelectsAll exprs).map (renameQuery s.source s.column)
  | [] => rfl
  | expr :: rest => by
    rw [renameExprs, outermostSelectsAll, outermostSelectsAll, outermostSelects_rename expr,
      outermostSelectsAll_rename rest, List.map_append]

lemma queryOutermostSelects_rename : ∀ query : Query,
    queryOutermostSelects (renameQuery s.source s.column query) =
      (queryOutermostSelects query).map (renameQuery s.source s.column)
  | .select ctes sources clauses aliases => by
    rw [renameQuery, queryOutermostSelects, queryOutermostSelects, List.map_singleton, renameQuery]
  | .setOperation ctes left right tail => by
    rw [renameQuery, queryOutermostSelects, queryOutermostSelects,
      queryOutermostSelectsAll_rename ctes, queryOutermostSelects_rename left,
      queryOutermostSelects_rename right, outermostSelectsAll_rename tail]
    simp only [List.map_append]

lemma queryOutermostSelectsAll_rename : ∀ queries : List Query,
    queryOutermostSelectsAll (renameQueries s.source s.column queries) =
      (queryOutermostSelectsAll queries).map (renameQuery s.source s.column)
  | [] => rfl
  | query :: rest => by
    rw [renameQueries, queryOutermostSelectsAll, queryOutermostSelectsAll,
      queryOutermostSelects_rename query, queryOutermostSelectsAll_rename rest, List.map_append]

end

lemma occurrences_here (frame : ResolutionFrame) (found : List Leaf) :
    (found.map (Leaf.rename s.source s.column)).map (renameFrame s.source s.column frame, ·) =
      (found.map (frame, ·)).map (renameOccurrence s.source s.column) := by
  simp [renameOccurrence, Function.comp_def]

section

variable (relations : IgnoredRelations)

lemma renameFrame_cons (sources : SourceMap) (outer : ResolutionFrame) :
    renameFrame s.source s.column (sources :: outer) =
      sources.rename s.source s.column :: renameFrame s.source s.column outer := rfl

mutual

lemma scopeOccurrences_rename (outer : ResolutionFrame) : ∀ query : Query,
    scopeOccurrences (renameRelations s.source s.column relations)
        (renameFrame s.source s.column outer) (renameQuery s.source s.column query) =
      (scopeOccurrences relations outer query).map (renameOccurrence s.source s.column)
  | .select ctes sources clauses aliases => by
    have hfound : queryLeavesAll (renameQueries s.source s.column ctes) ++
        (renameSources s.source s.column sources).flatMap sourceLeaves ++
          leavesAll (renameExprs s.source s.column clauses) =
        (queryLeavesAll ctes ++ sources.flatMap sourceLeaves ++ leavesAll clauses).map
          (Leaf.rename s.source s.column) := by
      rw [queryLeavesAll_rename, leavesAll_rename, renameSources_eq_map, List.flatMap_map,
        List.map_append, List.map_append, List.map_flatMap]
      simp only [sourceLeaves_rename]
    rw [renameQuery, scopeOccurrences, scopeOccurrences]
    rw [hfound, scopeSources_rename, ← renameFrame_cons, occurrences_here,
      scopeOccurrencesAll_rename outer ctes, sourceOccurrences_rename outer sources,
      nestedOccurrencesAll_rename _ clauses]
    simp only [List.map_append]
  | .setOperation ctes left right tail => by
    have hempty : newSourceMap ∅ :: renameFrame s.source s.column outer =
        renameFrame s.source s.column (newSourceMap ∅ :: outer) := by
      rw [renameFrame_cons, newSourceMap_rename, Finset.image_empty]
    have hleaves := queryLeaves_rename s (.setOperation ctes left right tail)
    rw [renameQuery] at hleaves
    rw [renameQuery, scopeOccurrences, scopeOccurrences]
    rw [hleaves, hempty, occurrences_here, scopeOccurrencesAll_rename outer ctes,
      scopeOccurrences_rename _ left, scopeOccurrences_rename _ right,
      nestedOccurrencesAll_rename _ tail]
    simp only [List.map_append]

lemma scopeOccurrencesAll_rename (outer : ResolutionFrame) : ∀ queries : List Query,
    scopeOccurrencesAll (renameRelations s.source s.column relations)
        (renameFrame s.source s.column outer) (renameQueries s.source s.column queries) =
      (scopeOccurrencesAll relations outer queries).map (renameOccurrence s.source s.column)
  | [] => rfl
  | query :: rest => by
    rw [renameQueries, scopeOccurrencesAll, scopeOccurrencesAll, scopeOccurrences_rename outer query,
      scopeOccurrencesAll_rename outer rest, List.map_append]

lemma sourceOccurrences_rename (outer : ResolutionFrame) : ∀ sources : List Source,
    sourceOccurrences (renameRelations s.source s.column relations)
        (renameFrame s.source s.column outer) (renameSources s.source s.column sources) =
      (sourceOccurrences relations outer sources).map (renameOccurrence s.source s.column)
  | [] => rfl
  | .table table :: rest => by
    rw [renameSources, renameSource, sourceOccurrences, sourceOccurrences,
      sourceOccurrences_rename outer rest]
  | .cteReference sourceAlias columns :: rest => by
    rw [renameSources, renameSource, sourceOccurrences, sourceOccurrences,
      sourceOccurrences_rename outer rest]
  | .derived sourceAlias columns query :: rest => by
    rw [renameSources, renameSource, sourceOccurrences, sourceOccurrences,
      scopeOccurrences_rename outer query, sourceOccurrences_rename outer rest, List.map_append]

lemma nestedOccurrences_rename (frame : ResolutionFrame) : ∀ expr : Expr,
    nestedOccurrences (renameRelations s.source s.column relations)
        (renameFrame s.source s.column frame) (renameExpr s.source s.column expr) =
      (nestedOccurrences relations frame expr).map (renameOccurrence s.source s.column)
  | .null | .literal _ | .column .. | .star => by
    simp only [renameExpr, nestedOccurrences, List.map_nil]
  | .query query => by
    rw [renameExpr, nestedOccurrences, nestedOccurrences, scopeOccurrences_rename frame query]
  | .node _ children => by
    rw [renameExpr, nestedOccurrences, nestedOccurrences,
      nestedOccurrencesAll_rename frame children]

lemma nestedOccurrencesAll_rename (frame : ResolutionFrame) : ∀ exprs : List Expr,
    nestedOccurrencesAll (renameRelations s.source s.column relations)
        (renameFrame s.source s.column frame) (renameExprs s.source s.column exprs) =
      (nestedOccurrencesAll relations frame exprs).map (renameOccurrence s.source s.column)
  | [] => rfl
  | expr :: rest => by
    rw [renameExprs, nestedOccurrencesAll, nestedOccurrencesAll,
      nestedOccurrences_rename frame expr, nestedOccurrencesAll_rename frame rest, List.map_append]

end

lemma rootOccurrences_rename (frame : ResolutionFrame) (root : Root) :
    rootOccurrences (renameRelations s.source s.column relations)
        (renameFrame s.source s.column frame) (root.rename s.source s.column) =
      (rootOccurrences relations frame root).map (renameOccurrence s.source s.column) := by
  cases root with
  | query query =>
    rw [Root.rename, rootOccurrences, rootOccurrences, queryOutermostSelects_rename,
      List.flatMap_map, List.map_flatMap]
    simp only [scopeOccurrences_rename]
  | expression expr =>
    rw [Root.rename, rootOccurrences, rootOccurrences, outermostSelects_rename, leaves_rename,
      List.flatMap_map, List.map_append, List.map_flatMap, occurrences_here]
    simp only [scopeOccurrences_rename]

end

end

section

variable (s : Spelling) (statement : Statement)

lemma ctes_rename : (statement.rename s.source s.column).ctes =
    statement.ctes.map (Cte.rename s.source s.column) := by
  cases statement <;> rfl

lemma cteOutputColumns_rename : (statement.rename s.source s.column).cteOutputColumns =
    renameRelations s.source s.column statement.cteOutputColumns := by
  have hstep : ∀ (ctes : List Cte) (relations : IgnoredRelations),
      (ctes.map (Cte.rename s.source s.column)).foldl
          (fun relations cte => setItem relations cte.name (outputColumns cte.columns))
          (renameRelations s.source s.column relations) =
        renameRelations s.source s.column (ctes.foldl
          (fun relations cte => setItem relations cte.name (outputColumns cte.columns))
          relations) := by
    intro ctes
    induction ctes with
    | nil => exact fun _ => rfl
    | cons cte rest ih =>
      intro relations
      have hset := setItem_map s (Finset.image s.column) relations cte.name
        (outputColumns cte.columns)
      rw [List.map_cons, List.foldl_cons, List.foldl_cons, ← ih]
      simp only [Cte.rename, outputColumns_rename, renameRelations, hset]
  have hnames : (statement.ctes.map (Cte.rename s.source s.column)).filter (·.name ≠ "") =
      (statement.ctes.filter (·.name ≠ "")).map (Cte.rename s.source s.column) := by
    rw [List.filter_map]
    congr 1
    apply List.filter_congr
    intro cte _
    simp [Cte.rename, s.source_eq_empty]
  unfold Statement.cteOutputColumns
  rw [ctes_rename, hnames]
  exact hstep _ []

lemma fromTableSources_rename (fromClause : Option FromClause) :
    Statement.fromTableSources (fromClause.map (FromClause.rename s.source s.column)) =
      (Statement.fromTableSources fromClause).map (TableName.rename s.source) := by
  cases fromClause with
  | none => rfl
  | some fromClause =>
    simp only [Statement.fromTableSources, Option.map_some, Option.getD_some, FromClause.rename,
      renameSources_eq_map, List.filterMap_map, List.map_filterMap]
    apply List.filterMap_congr
    intro item _
    cases item <;> rfl

lemma dmlOuterSources_rename : (statement.rename s.source s.column).dmlOuterSources =
    statement.dmlOuterSources.rename s.source s.column := by
  have hempty : newSourceMap ∅ = (newSourceMap ∅).rename s.source s.column := by
    rw [newSourceMap_rename, Finset.image_empty]
  have hrelations := cteOutputColumns_rename s statement
  cases statement with
  | insert ctes table source => exact hempty
  | nonDml ctes root => exact hempty
  | delete ctes table condition =>
    unfold Statement.dmlOuterSources
    rw [hrelations, hempty]
    exact addTableSource_rename s _ _ _ table
  | update ctes table assignments fromClause condition =>
    unfold Statement.dmlOuterSources
    rw [hrelations]
    simp only [Statement.rename]
    rw [fromTableSources_rename, hempty, addTableSource_rename]
    exact foldl_rename s (TableName.rename s.source) _ _
      (fun sources table => addTableSource_rename s _ true sources table) _ _

lemma assignmentRoot_rename (assignment : Assignment × Expr) :
    Statement.assignmentRoot
        (renameAssignment s.column assignment.1, renameExpr s.source s.column assignment.2) =
      renameExpr s.source s.column (Statement.assignmentRoot assignment) := by
  have hempty : s.source "" = "" := s.source_eq_empty.mpr rfl
  obtain ⟨target, value⟩ := assignment
  cases target with
  | column name => rfl
  | row names => rfl
  | comparison name =>
    simp only [renameAssignment, Statement.assignmentRoot]
    cases value with
    | node operator children =>
      match children with
      | [] => simp [Statement.assignmentRight, renameExpr, renameExprs, hempty]
      | [left] => simp [Statement.assignmentRight, renameExpr, renameExprs, hempty]
      | [left, right] =>
        by_cases hequal : operator = "="
        · subst hequal
          simp [Statement.assignmentRight, renameExpr, renameExprs]
        · simp [Statement.assignmentRight, renameExpr, renameExprs, hempty, hequal]
      | left :: right :: more :: rest =>
        simp [Statement.assignmentRight, renameExpr, renameExprs, hempty]
    | null => simp [Statement.assignmentRight, renameExpr, renameExprs, hempty]
    | literal text => simp [Statement.assignmentRight, renameExpr, renameExprs, hempty]
    | column qualifier name => simp [Statement.assignmentRight, renameExpr, renameExprs, hempty]
    | star => simp [Statement.assignmentRight, renameExpr, renameExprs, hempty]
    | query query => simp [Statement.assignmentRight, renameExpr, renameExprs, hempty]

lemma renameExprs_flatten (rows : List (List Expr)) :
    (rows.map (renameExprs s.source s.column)).flatten =
      renameExprs s.source s.column rows.flatten := by
  rw [renameExprs_eq_map, List.map_flatten]
  congr 1
  exact List.map_congr_left fun row _ => renameExprs_eq_map _ _ row

lemma fromRoot_rename (fromClause : FromClause) :
    Statement.fromRoot (fromClause.rename s.source s.column) =
      (Statement.fromRoot fromClause).rename s.source s.column := by
  simp only [Statement.fromRoot, FromClause.rename, Root.rename, renameExpr, renameSources_eq_map,
    renameExprs_eq_map, List.map_append, List.filterMap_map, List.map_filterMap]
  congr 3
  apply List.filterMap_congr
  intro item _
  cases item <;> simp [renameSource, renameExpr]

lemma readRoots_rename : (statement.rename s.source s.column).readRoots =
    statement.readRoots.map (Root.rename s.source s.column) := by
  cases statement with
  | insert ctes table source =>
    cases source with
    | values columns rows =>
      simp [Statement.rename, InsertSource.rename, Statement.readRoots, Root.rename, renameExpr,
        renameExprs_flatten]
    | query columns query => rfl
    | defaultValues => rfl
  | update ctes table assignments fromClause condition =>
    have hassignments : ∀ assignment : Assignment × Expr, Root.expression
        (Statement.assignmentRoot (renameAssignment s.column assignment.1,
          renameExpr s.source s.column assignment.2)) =
        (Root.expression (Statement.assignmentRoot assignment)).rename s.source s.column := by
      intro assignment
      rw [assignmentRoot_rename, Root.rename]
    cases fromClause <;> cases condition <;>
      simp [Statement.rename, Statement.readRoots, hassignments, fromRoot_rename, Root.rename]
  | delete ctes table condition => cases condition <;> simp [Statement.rename, Statement.readRoots, Root.rename]
  | nonDml ctes root => rfl

theorem occurrences_rename : (statement.rename s.source s.column).occurrences =
    statement.occurrences.map (renameOccurrence s.source s.column) := by
  have hempty : [newSourceMap ∅] = renameFrame s.source s.column [newSourceMap ∅] := by
    simp [renameFrame, newSourceMap_rename]
  have houter : [(statement.rename s.source s.column).dmlOuterSources] =
      renameFrame s.source s.column [statement.dmlOuterSources] := by
    simp [renameFrame, dmlOuterSources_rename]
  unfold Statement.occurrences
  rw [ctes_rename, readRoots_rename, cteOutputColumns_rename, houter, List.flatMap_map,
    List.flatMap_map, List.map_append, List.map_flatMap, List.map_flatMap]
  simp only [rootOccurrences_rename]
  congr 1
  apply List.flatMap_congr
  intro cte _
  have hroot : Root.query (cte.rename s.source s.column).query =
      (Root.query cte.query).rename s.source s.column := rfl
  have hrename := rootOccurrences_rename s statement.cteOutputColumns [newSourceMap ∅]
    (.query cte.query)
  rw [← hempty] at hrename
  rw [hroot, hrename]

end

/-- A table of one of the scopes. -/
def Visible (frame : ResolutionFrame) (table : String) : Prop :=
  ∃ sources ∈ frame, ∃ key, (key, table) ∈ sources.aliasToTable

section

variable (s : Spelling)

lemma resolveQualifiedTable_rename (frame : ResolutionFrame) (qualifier : String) :
    resolveQualifiedTable (s.source qualifier) (renameFrame s.source s.column frame) =
      (resolveQualifiedTable qualifier frame).map s.source := by
  induction frame with
  | nil => rfl
  | cons sources parents ih =>
    have hignored : s.source qualifier ∈ (sources.rename s.source s.column).ignoredAliases ↔
        qualifier ∈ sources.ignoredAliases := s.source_injective.mem_finset_image
    have hlookup : (sources.rename s.source s.column).aliasToTable.lookup (s.source qualifier) =
        (sources.aliasToTable.lookup qualifier).map s.source := lookup_map s _ _ _
    rw [renameFrame_cons, resolveQualifiedTable, resolveQualifiedTable, hlookup, ih]
    simp only [hignored]
    split_ifs
    · rfl
    · cases sources.aliasToTable.lookup qualifier <;> rfl

/-- A column is cached for the renamed table just when it is for the table. -/
def KeepsColumn (tableColumns : List (String × Finset String)) (name table : String) : Prop :=
  s.column name ∈ (tableColumns.lookup (s.source table)).getD ∅ ↔
    name ∈ (tableColumns.lookup table).getD ∅

lemma realTableCandidates_rename {tableColumns : List (String × Finset String)}
    {sources : SourceMap} {name : String}
    (h : ∀ key table, (key, table) ∈ sources.aliasToTable → KeepsColumn s tableColumns name table) :
    realTableCandidates tableColumns (sources.rename s.source s.column) (s.column name) =
      (realTableCandidates tableColumns sources name).map s.source := by
  have htables : (sources.rename s.source s.column).aliasToTable.map Prod.snd =
      (sources.aliasToTable.map Prod.snd).map s.source := by
    simp [SourceMap.rename]
  unfold realTableCandidates
  rw [htables, List.dedup_map_of_injective s.source_injective, List.filter_map]
  congr 1
  apply List.filter_congr
  intro table htable
  obtain ⟨⟨key, table⟩, hmem, rfl⟩ := List.mem_map.mp (List.mem_dedup.mp htable)
  exact decide_eq_decide.mpr (h key table hmem)

lemma ignoredSourceMayProvideColumn_rename (sources : SourceMap) (name : String) :
    ignoredSourceMayProvideColumn (sources.rename s.source s.column) (s.column name) =
      ignoredSourceMayProvideColumn sources name := by
  have hitem : ∀ columns : Finset String, (allColumns ∈ columns.image s.column ∨
      s.column name ∈ columns.image s.column) ↔ allColumns ∈ columns ∨ name ∈ columns := by
    intro columns
    have hall : allColumns ∈ columns.image s.column ↔ allColumns ∈ columns := by
      have hmem := s.column_injective.mem_finset_image (s := columns) (a := allColumns)
      rwa [s.column_all] at hmem
    rw [hall, s.column_injective.mem_finset_image]
  simp only [ignoredSourceMayProvideColumn, SourceMap.rename, List.any_map]
  congr 1
  funext item
  exact decide_eq_decide.mpr (hitem item.2)

lemma resolveUnqualifiedTable_rename {tableColumns : List (String × Finset String)}
    {frame : ResolutionFrame} {name : String}
    (h : ∀ table, Visible frame table → KeepsColumn s tableColumns name table) :
    resolveUnqualifiedTable tableColumns (s.column name) (renameFrame s.source s.column frame) =
      (resolveUnqualifiedTable tableColumns name frame).map s.source := by
  induction frame with
  | nil => rfl
  | cons sources parents ih =>
    have hcandidates : realTableCandidates tableColumns (sources.rename s.source s.column)
        (s.column name) = (realTableCandidates tableColumns sources name).map s.source :=
      realTableCandidates_rename s fun key table hmem =>
        h table ⟨sources, List.mem_cons_self, key, hmem⟩
    have hparents := ih fun table hvisible => by
      obtain ⟨outer, houter, hkey⟩ := hvisible
      exact h table ⟨outer, List.mem_cons_of_mem _ houter, hkey⟩
    have haliases : s.column name ∈ (sources.rename s.source s.column).outputAliases ↔
        name ∈ sources.outputAliases := s.column_injective.mem_finset_image
    rw [renameFrame_cons, resolveUnqualifiedTable, resolveUnqualifiedTable, hcandidates, hparents,
      ignoredSourceMayProvideColumn_rename]
    simp only [haliases]
    rcases realTableCandidates tableColumns sources name with _ | ⟨table, _ | ⟨other, rest⟩⟩
    · dsimp only [List.map_nil]
      split_ifs <;> rfl
    · rfl
    · dsimp only [List.map_cons]
      split_ifs <;> rfl

lemma starTables_rename (frame : ResolutionFrame) :
    starTables (renameFrame s.source s.column frame) = (starTables frame).map s.source := by
  cases frame with
  | nil => rfl
  | cons sources parents => simp [starTables, renameFrame, SourceMap.rename]

/-- A leaf whose unqualified name is cached for the same tables reads the renamed columns. -/
lemma readsOfLeaf_rename {tableColumns : List (String × Finset String)} {frame : ResolutionFrame}
    {leaf : Leaf}
    (h : ∀ name, leaf = .column "" name → ∀ table, Visible frame table →
      KeepsColumn s tableColumns name table) :
    readsOfLeaf tableColumns (renameFrame s.source s.column frame)
        (leaf.rename s.source s.column) =
      (readsOfLeaf tableColumns frame leaf).map (Prod.map s.source s.column) := by
  have hstar : (starTables (renameFrame s.source s.column frame)).map (·, allColumns) =
      ((starTables frame).map (·, allColumns)).map (Prod.map s.source s.column) := by
    rw [starTables_rename, List.map_map, List.map_map]
    simp [Function.comp_def, s.column_all]
  cases leaf with
  | star => exact hstar
  | column qualifier name =>
    rw [Leaf.rename, readsOfLeaf, readsOfLeaf]
    have hne : s.source qualifier ≠ "" ↔ qualifier ≠ "" := not_congr s.source_eq_empty
    simp only [s.column_eq_all, s.source_eq_empty, hne]
    by_cases hboth : name = allColumns ∧ qualifier = ""
    · rw [if_pos hboth, if_pos hboth, hstar]
    · rw [if_neg hboth, if_neg hboth]
      by_cases hqualifier : qualifier = ""
      · subst hqualifier
        rw [if_neg (not_not.mpr rfl), if_neg (not_not.mpr rfl),
          resolveUnqualifiedTable_rename s (h name rfl)]
        cases resolveUnqualifiedTable tableColumns name frame <;> rfl
      · rw [if_pos hqualifier, if_pos hqualifier, resolveQualifiedTable_rename]
        cases resolveQualifiedTable qualifier frame <;> rfl

end

end SqliteReconcile.StatementSyntax
