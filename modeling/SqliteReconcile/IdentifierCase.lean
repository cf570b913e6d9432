import SqliteReconcile.RemainingMetadata
import SqliteReconcile.Renaming

/-!
# Respelled identifiers

Two spellings of a statement that differ in the letter case of table and column names. A
respelling is consistent when it is an injective change of names that leaves the names of
the schema alone; the metadata of both spellings then agree up to that change.
-/
namespace SqliteReconcile.IdentifierCase
open Identifiers Utils Models CascadeMetadata SqlMetadata StaticAnalysis RemainingMetadata
  StatementSyntax

/-- A consistent change of the letter case of identifiers: one spelling for each spelling
of a table name, and of a column name of each table, that keeps different names different. -/
structure Respelling where
  table : String → String
  column : String → String → String
  table_injective : Function.Injective table
  column_injective : ∀ t, Function.Injective (column t)
  table_fold : ∀ t, foldCase (table t) = foldCase t
  column_fold : ∀ t c, foldCase (column t c) = foldCase c

namespace Respelling

variable (r : Respelling)

lemma table_empty : r.table "" = "" := eq_empty_of_foldCase (r.table_fold "")

lemma column_empty (t : String) : r.column t "" = "" := eq_empty_of_foldCase (r.column_fold t "")

lemma column_all (t : String) : r.column t allColumns = allColumns :=
  eq_star_of_foldCase (r.column_fold t allColumns)

def columns (t : String) (cs : Finset String) : Finset String := cs.image (r.column t)

lemma mem_columns {t c : String} {cs : Finset String} :
    r.column t c ∈ r.columns t cs ↔ c ∈ cs :=
  (r.column_injective t).mem_finset_image

lemma all_mem_columns {t : String} {cs : Finset String} :
    allColumns ∈ r.columns t cs ↔ allColumns ∈ cs := by
  have h := @mem_columns r t allColumns cs
  rwa [r.column_all] at h

@[simp] lemma columns_eq_empty {t : String} {cs : Finset String} : r.columns t cs = ∅ ↔ cs = ∅ :=
  Finset.image_eq_empty

lemma columns_allColumns (t : String) : r.columns t {allColumns} = {allColumns} := by
  simp [columns, r.column_all]

lemma meets_columns {t : String} {left right : Finset String} :
    Meets (r.columns t left) (r.columns t right) ↔ Meets left right := by
  have hshared : (∃ c ∈ r.columns t left, c ∈ r.columns t right) ↔ ∃ c ∈ left, c ∈ right := by
    constructor
    · rintro ⟨c', hl, hr⟩
      obtain ⟨c, hc, rfl⟩ := Finset.mem_image.mp hl
      exact ⟨c, hc, r.mem_columns.mp hr⟩
    · exact fun ⟨c, hl, hr⟩ => ⟨r.column t c, r.mem_columns.mpr hl, r.mem_columns.mpr hr⟩
  rw [meets_iff, meets_iff]
  simp only [r.all_mem_columns, hshared, ne_eq, columns_eq_empty]

lemma columns_mergeColumns (t : String) (existing cs : Finset String) :
    r.columns t (mergeColumns existing cs) =
      mergeColumns (r.columns t existing) (r.columns t cs) := by
  unfold mergeColumns
  simp only [columns_eq_empty, r.all_mem_columns]
  split_ifs
  · rfl
  · exact r.columns_allColumns t
  · exact Finset.image_union _ _

structure Maps (m m' : ColumnMap) : Prop where
  columns : ∀ t, m'.columns (r.table t) = r.columns t (m.columns t)
  mem : ∀ t', t' ∈ m' ↔ ∃ t ∈ m, r.table t = t'

lemma maps_empty : r.Maps ∅ ∅ where
  columns := fun t => by simp [Respelling.columns]
  mem := fun t' => by simp only [Finmap.notMem_empty, false_and, exists_const]

lemma Maps.mem_table {r : Respelling} {m m' : ColumnMap} (h : r.Maps m m') (t : String) :
    r.table t ∈ m' ↔ t ∈ m := by
  rw [h.mem]
  constructor
  · rintro ⟨u, hu, ht⟩
    rwa [← r.table_injective ht]
  · exact fun ht => ⟨t, ht, rfl⟩

lemma maps_insert (t : String) (cs : Finset String) :
    r.Maps ((∅ : ColumnMap).insert t cs) ((∅ : ColumnMap).insert (r.table t) (r.columns t cs)) where
  columns := by
    intro u
    by_cases hu : u = t
    · subst hu
      simp
    · have hne : r.table u ≠ r.table t := fun h => hu (r.table_injective h)
      simp [columns_insert_ne _ _ hu, columns_insert_ne _ _ hne, Respelling.columns]
  mem := by
    intro t'
    simp only [Finmap.mem_insert, Finmap.notMem_empty, or_false]
    exact ⟨fun h => ⟨t, rfl, h.symm⟩, fun ⟨u, hu, h⟩ => by rw [← h, hu]⟩

lemma Maps.addColumns {r : Respelling} {m m' : ColumnMap} (h : r.Maps m m') (t : String)
    (cs : Finset String) :
    r.Maps (addColumnsToColumnMap m t cs)
      (addColumnsToColumnMap m' (r.table t) (r.columns t cs)) where
  columns := by
    intro u
    rw [columns_addColumns, columns_addColumns, h.columns]
    by_cases hu : u = t
    · subst hu
      simp [r.columns_mergeColumns]
    · have hne : r.table u ≠ r.table t := fun h => hu (r.table_injective h)
      simp [hu, hne]
  mem := by
    intro t'
    simp only [mem_addColumns, h.mem, ne_eq, columns_eq_empty]
    constructor
    · rintro (⟨u, hu, rfl⟩ | ⟨rfl, hc⟩)
      · exact ⟨u, .inl hu, rfl⟩
      · exact ⟨t, .inr ⟨rfl, hc⟩, rfl⟩
    · rintro ⟨u, hu | ⟨rfl, hc⟩, rfl⟩
      · exact .inl ⟨u, hu, rfl⟩
      · exact .inr ⟨rfl, hc⟩

lemma Maps.addColumnsByTable {r : Respelling} {m m' extra extra' : ColumnMap} (h : r.Maps m m')
    (he : r.Maps extra extra') :
    r.Maps (addColumnsByTable m extra) (addColumnsByTable m' extra') where
  columns := by
    intro t
    rw [columns_addColumnsByTable, columns_addColumnsByTable, h.columns, he.columns,
      r.columns_mergeColumns]
  mem := by
    intro t'
    simp only [mem_addColumnsByTable, h.mem]
    constructor
    · rintro (⟨t, ht, rfl⟩ | hc)
      · exact ⟨t, .inl ht, rfl⟩
      · have hmem : t' ∈ extra' := by
          by_contra hn
          exact hc (columns_of_notMem hn)
        obtain ⟨t, -, rfl⟩ := (he.mem t').mp hmem
        refine ⟨t, .inr ?_, rfl⟩
        rwa [he.columns, ne_eq, columns_eq_empty] at hc
    · rintro ⟨t, ht | hc, rfl⟩
      · exact .inl ⟨t, ht, rfl⟩
      · refine .inr ?_
        rwa [he.columns, ne_eq, columns_eq_empty]

lemma Maps.unionColumnMaps {r : Respelling} {m m' extra extra' : ColumnMap} (h : r.Maps m m')
    (he : r.Maps extra extra') :
    r.Maps (unionColumnMaps m extra) (unionColumnMaps m' extra') where
  columns := by
    intro t
    rw [columns_unionColumnMaps, columns_unionColumnMaps, h.columns, he.columns]
    exact (Finset.image_union _ _).symm
  mem := by
    intro t'
    simp only [mem_unionColumnMaps, h.mem, he.mem, or_and_right, exists_or]

lemma columnsByTableOverlap_maps {r : Respelling} {left left' right right' : ColumnMap}
    (hl : r.Maps left left') (hr : r.Maps right right') :
    columnsByTableOverlap left' right' = columnsByTableOverlap left right := by
  have h : (∃ t' ∈ left'.keys, t' ∈ right' ∧ Meets (left'.columns t') (right'.columns t')) ↔
      ∃ t ∈ left.keys, t ∈ right ∧ Meets (left.columns t) (right.columns t) := by
    simp only [Finmap.mem_keys]
    constructor
    · rintro ⟨t', hm, hm', hmeets⟩
      obtain ⟨t, ht, rfl⟩ := (hl.mem t').mp hm
      rw [hl.columns, hr.columns, r.meets_columns] at hmeets
      exact ⟨t, ht, (hr.mem_table t).mp hm', hmeets⟩
    · rintro ⟨t, ht, ht', hmeets⟩
      refine ⟨r.table t, (hl.mem_table t).mpr ht, (hr.mem_table t).mpr ht', ?_⟩
      rwa [hl.columns, hr.columns, r.meets_columns]
  unfold columnsByTableOverlap
  exact decide_eq_decide.mpr h

/-- The respelling leaves the spellings of the schema alone, and the schema lookup of a
table that is not cached finds the same key column under both spellings of the table. -/
structure FixesSchema (context : ConflictCheckContext) : Prop where
  tables : ∀ entry ∈ context.tableColumns, r.table entry.1 = entry.1
  keyTables : ∀ entry ∈ context.keyColumnSets, r.table entry.1 = entry.1
  keySets : ∀ entry ∈ context.keyColumnSets, ∀ keySet ∈ entry.2,
    r.columns entry.1 keySet = keySet
  integerKeyTables : ∀ entry ∈ context.schemaCache.integerPrimaryKeyColumns,
    r.table entry.1 = entry.1
  integerKeys : ∀ entry ∈ context.schemaCache.integerPrimaryKeyColumns,
    ∀ key, entry.2 = some key → r.column entry.1 key = key
  childTables : ∀ edge ∈ context.schemaCache.foreignKeyEdges,
    r.table edge.childTable = edge.childTable
  childColumns : ∀ edge ∈ context.schemaCache.foreignKeyEdges,
    r.columns edge.childTable edge.childColumns.toFinset = edge.childColumns.toFinset
  parentTables : ∀ edge ∈ context.schemaCache.foreignKeyEdges,
    r.table edge.parentTable = edge.parentTable
  parentColumns : ∀ edge ∈ context.schemaCache.foreignKeyEdges,
    r.columns edge.parentTable edge.parentColumns.toFinset = edge.parentColumns.toFinset
  pragma : ∀ t, context.pragmaIntegerPrimaryKey (r.table t) = context.pragmaIntegerPrimaryKey t
  pragmaKey : ∀ t key, context.pragmaIntegerPrimaryKey t = some key → r.column t key = key

variable {r} {context : ConflictCheckContext}

lemma table_eq_iff {t u : String} (hu : r.table u = u) : r.table t = u ↔ t = u := by
  constructor
  · intro h
    exact r.table_injective (h.trans hu.symm)
  · intro h
    rw [h, hu]

lemma lookup_table {β : Type} (entries : List (String × β))
    (h : ∀ entry ∈ entries, r.table entry.1 = entry.1) (t : String) :
    entries.lookup (r.table t) = entries.lookup t := by
  induction entries with
  | nil => rfl
  | cons entry entries ih =>
    have hhead := h entry (by simp)
    have htail := ih fun e he => h e (by simp [he])
    rw [List.lookup_cons, List.lookup_cons, htail]
    have hbeq : (r.table t == entry.1) = (t == entry.1) := by
      have hiff := table_eq_iff (t := t) hhead
      by_cases ht : t = entry.1
      · simp [ht, hhead]
      · simp [ht, mt hiff.mp ht]
    rw [hbeq]

lemma FixesSchema.keySets_table (h : r.FixesSchema context) (t : String) :
    context.keySets (r.table t) = context.keySets t := by
  simp only [ConflictCheckContext.keySets, lookup_table _ h.keyTables]

lemma FixesSchema.keySet_columns (h : r.FixesSchema context) {t : String} {keySet : Finset String}
    (hk : keySet ∈ context.keySets t) : r.columns t keySet = keySet := by
  unfold ConflictCheckContext.keySets at hk
  cases hl : context.keyColumnSets.lookup t with
  | none => simp [hl] at hk
  | some keySets =>
    rw [hl] at hk
    exact h.keySets _ (Loops.mem_of_lookup hl) keySet hk

lemma FixesSchema.integerPrimaryKeyColumn_table (h : r.FixesSchema context) (t : String) :
    integerPrimaryKeyColumn context (r.table t) = integerPrimaryKeyColumn context t := by
  unfold integerPrimaryKeyColumn
  rw [lookup_table _ h.integerKeyTables, h.pragma]

lemma FixesSchema.integerPrimaryKeyColumn_column (h : r.FixesSchema context) {t key : String}
    (hk : integerPrimaryKeyColumn context t = some key) : r.column t key = key := by
  unfold integerPrimaryKeyColumn at hk
  cases hl : context.schemaCache.integerPrimaryKeyColumns.lookup t with
  | none =>
    rw [hl] at hk
    exact h.pragmaKey t key hk
  | some keyColumn =>
    rw [hl] at hk
    exact h.integerKeys _ (Loops.mem_of_lookup hl) key hk

lemma FixesSchema.edgesByParent (h : r.FixesSchema context) (t : String) :
    foreignKeyEdgesByParent context (r.table t) = foreignKeyEdgesByParent context t := by
  unfold foreignKeyEdgesByParent
  refine List.filter_congr fun edge he => ?_
  have hiff := table_eq_iff (t := t) (h.parentTables edge he)
  exact decide_eq_decide.mpr ⟨fun ht => (hiff.mp ht.symm).symm, fun ht => (hiff.mpr ht.symm).symm⟩

lemma FixesSchema.edgesByChild (h : r.FixesSchema context) (t : String) :
    foreignKeyEdgesByChild context (r.table t) = foreignKeyEdgesByChild context t := by
  unfold foreignKeyEdgesByChild
  refine List.filter_congr fun edge he => ?_
  have hiff := table_eq_iff (t := t) (h.childTables edge he)
  exact decide_eq_decide.mpr ⟨fun ht => (hiff.mp ht.symm).symm, fun ht => (hiff.mpr ht.symm).symm⟩

def event (r : Respelling) (e : CascadeWriteEvent) : CascadeWriteEvent :=
  ⟨r.table e.table, r.columns e.table e.columns, e.kind⟩

lemma event_injective (r : Respelling) : Function.Injective r.event := by
  rintro ⟨t, cs, k⟩ ⟨t', cs', k'⟩ h
  simp only [event, CascadeWriteEvent.mk.injEq] at h
  obtain ⟨ht, hcs, hk⟩ := h
  obtain rfl := r.table_injective ht
  have hcs' : cs = cs' := Finset.image_injective (r.column_injective t) hcs
  rw [hcs', hk]

/-- The events, tables and columns of cascade effects are spelled as in the schema. -/
structure FixesEffects (r : Respelling) (effects : CascadeEffects) : Prop where
  updated : r.Maps effects.tablesUpdatedToColumnsUpdated effects.tablesUpdatedToColumnsUpdated
  referenced : r.Maps effects.tablesReferencedToColumnsReferenced
    effects.tablesReferencedToColumnsReferenced
  events : ∀ e ∈ effects.writeEvents, r.event e = e

lemma FixesEffects.addReference {effects : CascadeEffects} (h : r.FixesEffects effects)
    {t : String} {cs : Finset String} (ht : r.table t = t) (hcs : r.columns t cs = cs) :
    r.FixesEffects (addReference effects t cs) where
  updated := h.updated
  referenced := by
    have hadd := h.referenced.addColumns t cs
    rwa [ht, hcs] at hadd
  events := h.events

lemma FixesEffects.addWriteEvent {effects : CascadeEffects} (h : r.FixesEffects effects)
    {e : CascadeWriteEvent} (he : r.event e = e) :
    r.FixesEffects (addWriteEvent effects e) where
  updated := by
    have hadd := h.updated.addColumns e.table e.columns
    have ht : r.table e.table = e.table := congrArg CascadeWriteEvent.table he
    have hcs : r.columns e.table e.columns = e.columns := congrArg CascadeWriteEvent.columns he
    rwa [ht, hcs] at hadd
  referenced := h.referenced
  events := by
    intro e' he'
    rcases List.mem_append.mp he' with he' | he'
    · exact h.events e' he'
    · rw [List.mem_singleton.mp he']
      exact he

lemma FixesSchema.childEvent (h : r.FixesSchema context) {edge : ForeignKeyEdge}
    (hedge : edge ∈ context.schemaCache.foreignKeyEdges) {action : ForeignKeyAction}
    {kind : CascadeEventKind} {e : CascadeWriteEvent}
    (he : cascadeChildEvent edge action kind = some e) : r.event e = e := by
  unfold cascadeChildEvent at he
  split_ifs at he
  · rw [← Option.some.inj he]
    simp [event, h.childTables edge hedge, r.columns_allColumns]
  · rw [← Option.some.inj he]
    simp [event, h.childTables edge hedge, h.childColumns edge hedge]

theorem FixesSchema.cascadeEffects (h : r.FixesSchema context) (kind : CascadeEventKind)
    (table : String) (columns : Finset String) :
    r.FixesEffects (cascadeEffectsForParsedStatement context kind table columns) := by
  refine cascadeEffects_inv context r.FixesEffects ?_ ?_ ?_ kind table columns ?_
  · intro effects edge hedge hfixed
    exact hfixed.addReference (h.childTables edge hedge) (h.childColumns edge hedge)
  · intro effects edge hedge action eventKind e he hfixed
    exact hfixed.addWriteEvent (h.childEvent hedge he)
  · intro effects entry hentry hfixed
    have htable := h.tables entry hentry
    refine (hfixed.addWriteEvent ?_).addReference htable (r.columns_allColumns entry.1)
    simp [event, htable, r.columns_allColumns]
  · exact ⟨r.maps_empty, r.maps_empty, fun e he => by cases he⟩

def queueEntry (r : Respelling) (entry : CascadeWriteEvent × ℕ) : CascadeWriteEvent × ℕ :=
  (r.event entry.1, entry.2)

lemma FixesSchema.actionForParentEvent (h : r.FixesSchema context) {edge : ForeignKeyEdge}
    {e : CascadeWriteEvent} (hedge : edge ∈ foreignKeyEdgesByParent context e.table) :
    actionForParentEvent edge (r.event e) = actionForParentEvent edge e := by
  obtain ⟨hmem, hparent⟩ := List.mem_filter.mp hedge
  have hparent' : edge.parentTable = e.table := of_decide_eq_true hparent
  have hcolumns := h.parentColumns edge hmem
  rw [hparent'] at hcolumns
  have hmeets : Meets (r.columns e.table e.columns) edge.parentColumns.toFinset ↔
      Meets e.columns edge.parentColumns.toFinset := by
    have h := @meets_columns r e.table e.columns edge.parentColumns.toFinset
    rwa [hcolumns] at h
  unfold CascadeMetadata.actionForParentEvent
  cases hk : e.kind with
  | delete => simp [event, hk]
  | update => simp [event, hk, hmeets]

/-- One edge adds the same effects and the same child for both spellings of an event. -/
lemma FixesSchema.expandEdge (h : r.FixesSchema context) {edge : ForeignKeyEdge}
    {e : CascadeWriteEvent} (hedge : edge ∈ foreignKeyEdgesByParent context e.table)
    (depth : ℕ) (effects : CascadeEffects) (queue : List (CascadeWriteEvent × ℕ)) :
    expandEdge (r.event e) depth (effects, queue.map r.queueEntry) edge =
      ((expandEdge e depth (effects, queue) edge).1,
        (expandEdge e depth (effects, queue) edge).2.map r.queueEntry) := by
  obtain ⟨hmem, -⟩ := List.mem_filter.mp hedge
  unfold CascadeMetadata.expandEdge
  rw [h.actionForParentEvent hedge]
  cases CascadeMetadata.actionForParentEvent edge e with
  | none => rfl
  | some action =>
    have hkind : (r.event e).kind = e.kind := rfl
    cases hc : cascadeChildEvent edge action e.kind with
    | none => simp [hkind, hc]
    | some child => simp [hkind, hc, queueEntry, h.childEvent hmem hc]

lemma FixesSchema.expandEdges (h : r.FixesSchema context) {e : CascadeWriteEvent} (depth : ℕ)
    (edges : List ForeignKeyEdge) (hedges : edges ⊆ foreignKeyEdgesByParent context e.table)
    (effects : CascadeEffects) (queue : List (CascadeWriteEvent × ℕ)) :
    edges.foldl (CascadeMetadata.expandEdge (r.event e) depth)
        (effects, queue.map r.queueEntry) =
      ((edges.foldl (CascadeMetadata.expandEdge e depth) (effects, queue)).1,
        (edges.foldl (CascadeMetadata.expandEdge e depth) (effects, queue)).2.map
          r.queueEntry) := by
  induction edges generalizing effects queue with
  | nil => rfl
  | cons edge edges ih =>
    obtain ⟨hedge, hrest⟩ := List.cons_subset.mp hedges
    rw [List.foldl_cons, List.foldl_cons, h.expandEdge hedge, ih hrest]

theorem FixesSchema.cascadeLoop (h : r.FixesSchema context) (fuel : ℕ)
    (queue : List (CascadeWriteEvent × ℕ)) (visited : List CascadeWriteEvent)
    (effects : CascadeEffects) :
    cascadeLoop context fuel (queue.map r.queueEntry) (visited.map r.event) effects =
      cascadeLoop context fuel queue visited effects := by
  induction fuel generalizing queue visited effects with
  | zero => rfl
  | succ fuel ih =>
    cases queue with
    | nil => rfl
    | cons head queue =>
      obtain ⟨e, depth⟩ := head
      have hvisited : r.event e ∈ visited.map r.event ↔ e ∈ visited :=
        List.mem_map_of_injective r.event_injective
      have hedges : foreignKeyEdgesByParent context (r.event e).table =
          foreignKeyEdgesByParent context e.table := h.edgesByParent e.table
      rw [List.map_cons]
      change CascadeMetadata.cascadeLoop context (fuel + 1)
        ((r.event e, depth) :: queue.map r.queueEntry) _ _ = _
      rw [CascadeMetadata.cascadeLoop, CascadeMetadata.cascadeLoop]
      simp only [hvisited, hedges, h.expandEdges depth _ (List.Subset.refl _)]
      split_ifs
      · rfl
      · exact ih queue visited effects
      · exact ih _ (e :: visited) _

theorem FixesSchema.cascadeEffects_table (h : r.FixesSchema context) (kind : CascadeEventKind)
    (t : String) (cs : Finset String) :
    cascadeEffectsForParsedStatement context kind (r.table t) (r.columns t cs) =
      cascadeEffectsForParsedStatement context kind t cs := by
  cases kind with
  | delete =>
    have hloop := h.cascadeLoop (cascadeFuel context) [(⟨t, {allColumns}, .delete⟩, 0)] [] .none
    simp only [List.map_cons, List.map_nil, queueEntry, event, r.columns_allColumns] at hloop
    exact hloop
  | update =>
    exact h.cascadeLoop (cascadeFuel context) [(⟨t, cs, .update⟩, 0)] [] .none

/-- What the metadata reads off one statement is what it reads off the other one, respelled. -/
structure Statements (r : Respelling) (p p' : ParsedStatement) : Prop where
  statementKind : p'.statementKind = p.statementKind
  target : p'.target = p.target.map r.table
  assignments : p'.assignments = p.assignments.map (renameAssignment (r.column (p.target.getD "")))
  insertTarget : p'.insertTarget = p.insertTarget.map (List.map (r.column (p.target.getD "")))
  references : r.Maps p.references p'.references

/-- What the verdicts read of the metadata of the two spellings of a statement. -/
structure Metadata (r : Respelling) (context : ConflictCheckContext)
    (m m' : StatementMetadata) : Prop where
  statementKind : m'.statementKind = m.statementKind
  parsedKind : m'.parsedSqlText.statementKind = m.parsedSqlText.statementKind
  tableUpdated : m'.tableUpdated = m.tableUpdated.map r.table
  columnsUpdated : m'.columnsUpdated = r.columns (requiredUpdatedTable m) m.columnsUpdated
  updated : r.Maps m.tablesUpdatedToColumnsUpdated m'.tablesUpdatedToColumnsUpdated
  referenced : r.Maps m.tablesReferencedToColumnsReferenced m'.tablesReferencedToColumnsReferenced
  events : m'.cascadeWriteEvents = m.cascadeWriteEvents
  fixedEvents : ∀ e ∈ m.cascadeWriteEvents, r.event e = e
  hasCascadeEffects : m'.hasCascadeEffects = m.hasCascadeEffects
  omittedKey : omittedIntegerPrimaryKeyColumn context m' = omittedIntegerPrimaryKeyColumn context m
  omittedKeyColumn : ∀ key, omittedIntegerPrimaryKeyColumn context m = some key →
    r.column (requiredUpdatedTable m) key = key

/-- A statement is spelled anew as the respelling of its tables says: its target, the columns it writes,
those it reads; an unqualified column is cached for a table of its scopes under both spellings or under
neither. -/
structure Spells (r : Respelling) (tableColumns : List (String × Finset String)) (s : Spelling)
    (statement : Statement) : Prop where
  target : ∀ table, statement.targetTableName = some table → s.source table = r.table table
  written : ∀ table, statement.targetTableName = some table →
    ∀ name ∈ statement.writtenNames, s.column name = r.column table name
  read : ∀ table column, statement.Reads tableColumns table column →
    s.source table = r.table table ∧ s.column column = r.column table column
  bare : ∀ frame name, statement.Stands frame (.column "" name) → ∀ table, Visible frame table →
    KeepsColumn s tableColumns name table

/-- One statement is the other one with its identifiers respelled. -/
def Respelled (r : Respelling) (context : ConflictCheckContext) (statement statement' : Statement) :
    Prop :=
  ∃ s : Spelling, r.Spells context.tableColumns s statement ∧
    statement' = statement.rename s.source s.column

lemma Maps.addReference {r : Respelling} {m m' : ColumnMap} (h : r.Maps m m')
    (read : String × String) :
    r.Maps (StatementSyntax.addReference m read)
      (StatementSyntax.addReference m' (r.table read.1, r.column read.1 read.2)) := by
  obtain ⟨t, c⟩ := read
  have hall : r.column t c = allColumns ↔ c = allColumns := by
    constructor
    · intro hc
      exact r.column_injective t (hc.trans (r.column_all t).symm)
    · rintro rfl
      exact r.column_all t
  have hmem : allColumns ∈ m'.columns (r.table t) ↔ allColumns ∈ m.columns t := by
    rw [h.columns, r.all_mem_columns]
  have hinsert : ∀ cs : Finset String,
      r.Maps (m.insert t cs) (m'.insert (r.table t) (r.columns t cs)) := by
    intro cs
    constructor
    · intro u
      by_cases hu : u = t
      · subst hu
        simp
      · have hne : r.table u ≠ r.table t := fun heq => hu (r.table_injective heq)
        rw [columns_insert_ne _ _ hu, columns_insert_ne _ _ hne, h.columns]
    · intro t'
      simp only [Finmap.mem_insert, h.mem]
      constructor
      · rintro (rfl | ⟨u, hu, rfl⟩)
        · exact ⟨t, .inl rfl, rfl⟩
        · exact ⟨u, .inr hu, rfl⟩
      · rintro ⟨u, rfl | hu, rfl⟩
        · exact .inl rfl
        · exact .inr ⟨u, hu, rfl⟩
  unfold StatementSyntax.addReference
  simp only [hall, hmem]
  split_ifs
  · have hstar := hinsert {allColumns}
    rwa [r.columns_allColumns] at hstar
  · exact h
  · have hcolumns : r.columns t (insert c (m.columns t)) =
        insert (r.column t c) (m'.columns (r.table t)) := by
      rw [h.columns]
      exact Finset.image_insert ..
    rw [← hcolumns]
    exact hinsert _

/-- The collector finds the respelled columns. -/
lemma Spells.references {r : Respelling} {tableColumns : List (String × Finset String)}
    {s : Spelling} {statement : Statement} (h : r.Spells tableColumns s statement) :
    r.Maps (referencedTablesToColumns tableColumns statement)
      (referencedTablesToColumns tableColumns (statement.rename s.source s.column)) := by
  have hreads : (statement.rename s.source s.column).reads tableColumns =
      (statement.reads tableColumns).map fun read =>
        (r.table read.1, r.column read.1 read.2) := by
    rw [Statement.reads_eq, Statement.reads_eq, occurrences_rename, List.flatMap_map,
      List.map_flatMap]
    apply List.flatMap_congr
    rintro ⟨frame, leaf⟩ hmem
    have hstands := Statement.mem_occurrences.mp hmem
    have hbare : ∀ name, leaf = .column "" name → ∀ table, Visible frame table →
        KeepsColumn s tableColumns name table := by
      rintro name rfl table hvisible
      exact h.bare frame name hstands table hvisible
    have hleaf := readsOfLeaf_rename s hbare
    simp only [occurrenceReads, renameOccurrence, hleaf]
    apply List.map_congr_left
    rintro ⟨table, column⟩ hread
    have hspelled := h.read table column ⟨frame, leaf, hstands, mem_readsOfLeaf.mp hread⟩
    exact Prod.ext hspelled.1 hspelled.2
  unfold referencedTablesToColumns
  rw [hreads]
  have hfold : ∀ (reads : List (String × String)) (m m' : ColumnMap), r.Maps m m' →
      r.Maps (reads.foldl StatementSyntax.addReference m)
        ((reads.map fun read => (r.table read.1, r.column read.1 read.2)).foldl
          StatementSyntax.addReference m') := by
    intro reads
    induction reads with
    | nil => exact fun _ _ hm => hm
    | cons read rest ih => exact fun m m' hm => ih _ _ (hm.addReference read)
  exact hfold _ ∅ ∅ r.maps_empty

theorem Spells.statements {r : Respelling} {tableColumns : List (String × Finset String)}
    {s : Spelling} {statement : Statement} (h : r.Spells tableColumns s statement) :
    r.Statements (statement.parsed tableColumns)
      ((statement.rename s.source s.column).parsed tableColumns) where
  statementKind := by cases statement <;> rfl
  target := by
    have htarget : (statement.rename s.source s.column).targetTableName =
        statement.targetTableName.map s.source := by cases statement <;> rfl
    refine htarget.trans (Option.map_congr fun table htable => h.target table htable)
  assignments := by
    have hassignments : (statement.rename s.source s.column).assignments =
        statement.assignments.map (renameAssignment s.column) := by
      cases statement with
      | update ctes table assignments fromClause condition =>
        simp [Statement.rename, Statement.assignments, Function.comp_def]
      | _ => rfl
    refine hassignments.trans (List.map_congr_left fun assignment hassignment => ?_)
    obtain ⟨table, htable⟩ : ∃ table, statement.targetTableName = some table := by
      cases statement with
      | update ctes table assignments fromClause condition => exact ⟨_, rfl⟩
      | _ => cases hassignment
    have hnames : ∀ name ∈ targets assignment, s.column name = r.column table name :=
      fun name hname => h.written table htable name
        (List.mem_append_left _ (List.mem_flatMap.mpr ⟨assignment, hassignment, hname⟩))
    have htarget : (statement.parsed tableColumns).target.getD "" = table := by
      change statement.targetTableName.getD "" = table
      rw [htable, Option.getD_some]
    rw [htarget]
    cases assignment with
    | column name => exact congrArg Assignment.column (hnames name (List.mem_singleton.mpr rfl))
    | row names => exact congrArg Assignment.row (List.map_congr_left hnames)
    | comparison name =>
      exact congrArg Assignment.comparison (hnames name (List.mem_singleton.mpr rfl))
  insertTarget := by
    have hinsert : (statement.rename s.source s.column).insertTarget =
        statement.insertTarget.map (List.map s.column) := by
      cases statement with
      | insert ctes table source => cases source <;> rfl
      | _ => rfl
    refine hinsert.trans (Option.map_congr fun names hnames => ?_)
    obtain ⟨table, htable⟩ : ∃ table, statement.targetTableName = some table := by
      cases statement with
      | insert ctes table source => exact ⟨_, rfl⟩
      | _ => cases hnames
    have htarget : (statement.parsed tableColumns).target.getD "" = table := by
      change statement.targetTableName.getD "" = table
      rw [htable, Option.getD_some]
    rw [htarget]
    refine List.map_congr_left fun name hname => h.written table htable name ?_
    refine List.mem_append_right _ ?_
    rw [hnames]
    exact hname
  references := h.references

lemma getD_table (r : Respelling) (t : Option String) :
    (t.map r.table).getD "" = r.table (t.getD "") := by
  cases t with
  | none => exact r.table_empty.symm
  | some t => rfl

lemma Statements.updatedColumns {p p' : ParsedStatement} (h : r.Statements p p') :
    updatedColumns p' = r.columns (p.target.getD "") (updatedColumns p) := by
  unfold SqlMetadata.updatedColumns
  rw [h.statementKind, h.assignments]
  split_ifs
  · exact (r.columns_allColumns _).symm
  · rw [List.filterMap_map]
    ext c
    simp only [columns, Finset.mem_image, List.mem_toFinset, List.mem_filterMap]
    constructor
    · rintro ⟨a, ha, hc⟩
      cases a with
      | column name =>
        simp only [Function.comp, renameAssignment, Option.some.injEq] at hc
        exact ⟨name, ⟨.column name, ha, rfl⟩, hc⟩
      | row names => simp [renameAssignment] at hc
      | comparison name => simp [renameAssignment] at hc
    · rintro ⟨name, ⟨a, ha, hn⟩, rfl⟩
      cases a with
      | column name' =>
        simp only [Option.some.injEq] at hn
        exact ⟨.column name', ha, by simp [renameAssignment, hn]⟩
      | row names => simp at hn
      | comparison name => simp at hn

lemma Statements.writtenTables {p p' : ParsedStatement} (h : r.Statements p p') :
    r.Maps (writtenTablesToColumns p.statementKind p.target (SqlMetadata.updatedColumns p))
      (writtenTablesToColumns p'.statementKind p'.target (SqlMetadata.updatedColumns p')) := by
  rw [h.updatedColumns, h.statementKind, h.target]
  cases htarget : p.target with
  | none =>
    have hkind : p.statementKind = .other := by
      have hs := p.target_isSome
      by_contra hk
      simp [htarget, hk] at hs
    simpa [writtenTablesToColumns, hkind] using r.maps_empty
  | some t =>
    cases p.statementKind with
    | other => exact r.maps_empty
    | _ => exact r.maps_insert t _

lemma Statements.cascadeEffects (hschema : r.FixesSchema context) {p p' : ParsedStatement}
    (h : r.Statements p p') :
    cascadeEffectsForMetadata (some context) p'.statementKind p'.target
        (SqlMetadata.updatedColumns p') =
      cascadeEffectsForMetadata (some context) p.statementKind p.target
        (SqlMetadata.updatedColumns p) := by
  unfold cascadeEffectsForMetadata
  rw [h.statementKind, h.updatedColumns, h.target]
  cases p.statementKind with
  | delete => simp only [getD_table, hschema.cascadeEffects_table]
  | update => simp only [getD_table, hschema.cascadeEffects_table]
  | insert => rfl
  | other => rfl

lemma fixesEffects_forMetadata (hschema : r.FixesSchema context) (kind : StatementKind)
    (t : Option String) (cs : Finset String) :
    r.FixesEffects (cascadeEffectsForMetadata (some context) kind t cs) := by
  unfold cascadeEffectsForMetadata
  cases kind with
  | delete => exact hschema.cascadeEffects _ _ _
  | update => exact hschema.cascadeEffects _ _ _
  | insert => exact ⟨r.maps_empty, r.maps_empty, fun e he => by cases he⟩
  | other => exact ⟨r.maps_empty, r.maps_empty, fun e he => by cases he⟩

lemma Statements.explicitColumns {p p' : ParsedStatement} (h : r.Statements p p')
    (compatible compatible' : CompatibleSQL) :
    insertExplicitColumns (parseStatementMetadataForContext context compatible' p') =
      r.columns (p.target.getD "")
        (insertExplicitColumns (parseStatementMetadataForContext context compatible p)) := by
  have hkind : (parseStatementMetadataForContext context compatible' p').statementKind =
      (parseStatementMetadataForContext context compatible p).statementKind := h.statementKind
  have htarget : (parseStatementMetadataForContext context compatible' p').parsedSqlText.insertTarget
      = p.insertTarget.map (List.map (r.column (p.target.getD ""))) := h.insertTarget
  have htarget' : (parseStatementMetadataForContext context compatible p).parsedSqlText.insertTarget
      = p.insertTarget := rfl
  unfold insertExplicitColumns
  rw [htarget, htarget']
  cases p.insertTarget with
  | none =>
    simp only [Option.map_none, hkind]
    split_ifs
    · exact (r.columns_allColumns _).symm
    · rfl
  | some names =>
    simp only [Option.map_some]
    have hempty : ∀ name, r.column (p.target.getD "") name = "" ↔ name = "" := by
      intro name
      constructor
      · intro hn
        exact r.column_injective _ (hn.trans (r.column_empty _).symm)
      · intro hn
        rw [hn, r.column_empty]
    ext c
    simp only [columns, Finset.mem_image, List.mem_toFinset, List.mem_filter, List.mem_map,
      decide_eq_true_eq]
    constructor
    · rintro ⟨⟨name, hname, rfl⟩, hne⟩
      exact ⟨name, ⟨hname, fun hn => hne ((hempty name).mpr hn)⟩, rfl⟩
    · rintro ⟨name, ⟨hname, hne⟩, rfl⟩
      exact ⟨⟨name, hname, rfl⟩, fun hn => hne ((hempty name).mp hn)⟩

/-- The metadata of two spellings of a statement agree up to the respelling. -/
theorem Statements.metadata (hschema : r.FixesSchema context) {p p' : ParsedStatement}
    (h : r.Statements p p') (compatible compatible' : CompatibleSQL) :
    r.Metadata context (parseStatementMetadataForContext context compatible p)
      (parseStatementMetadataForContext context compatible' p') := by
  have hcascade := h.cascadeEffects hschema
  have hfixed := fixesEffects_forMetadata hschema p.statementKind p.target
    (SqlMetadata.updatedColumns p)
  have htable : requiredUpdatedTable (parseStatementMetadataForContext context compatible' p') =
      r.table (p.target.getD "") := by
    change p'.target.getD "" = _
    rw [h.target, getD_table]
  have hkey : ∀ key, integerPrimaryKeyColumn context (p.target.getD "") = some key →
      (allColumns ∈ insertExplicitColumns
          (parseStatementMetadataForContext context compatible' p') ∨
        key ∈ insertExplicitColumns
          (parseStatementMetadataForContext context compatible' p') ↔
      allColumns ∈ insertExplicitColumns
          (parseStatementMetadataForContext context compatible p) ∨
        key ∈ insertExplicitColumns
          (parseStatementMetadataForContext context compatible p)) := by
    intro key hk
    rw [h.explicitColumns compatible compatible', r.all_mem_columns]
    have hmem := @mem_columns r (p.target.getD "") key
      (insertExplicitColumns (parseStatementMetadataForContext context compatible p))
    rw [hschema.integerPrimaryKeyColumn_column hk] at hmem
    rw [hmem]
  have htarget : requiredUpdatedTable (parseStatementMetadataForContext context compatible p) =
      p.target.getD "" := rfl
  have hinsert : isInsertStatement (parseStatementMetadataForContext context compatible' p') =
      isInsertStatement (parseStatementMetadataForContext context compatible p) := by
    change decide (p'.statementKind = .insert) = decide (p.statementKind = .insert)
    rw [h.statementKind]
  refine ⟨h.statementKind, h.statementKind, h.target, h.updatedColumns, ?_, ?_, ?_, ?_, ?_, ?_, ?_⟩
  · simp only [parseStatementMetadataForContext, parseStatementMetadata, hcascade]
    split_ifs
    · exact h.writtenTables.addColumnsByTable hfixed.updated
    · exact h.writtenTables
  · simp only [parseStatementMetadataForContext, parseStatementMetadata, hcascade]
    split_ifs
    · exact h.references.addColumnsByTable hfixed.referenced
    · exact h.references
  · simp only [parseStatementMetadataForContext, parseStatementMetadata, hcascade]
  · exact hfixed.events
  · simp only [parseStatementMetadataForContext, parseStatementMetadata, hcascade]
  · unfold omittedIntegerPrimaryKeyColumn
    rw [hinsert, htable, hschema.integerPrimaryKeyColumn_table, htarget]
    cases hk : integerPrimaryKeyColumn context (p.target.getD "") with
    | none => rfl
    | some key => simp only [hkey key hk]
  · intro key hk
    unfold omittedIntegerPrimaryKeyColumn at hk
    split_ifs at hk
    rw [htarget] at hk
    cases hlookup : integerPrimaryKeyColumn context (p.target.getD "") with
    | none => simp [hlookup] at hk
    | some keyColumn =>
      simp only [hlookup] at hk
      split_ifs at hk
      rw [← Option.some.inj hk]
      exact hschema.integerPrimaryKeyColumn_column hlookup

end Respelling

end SqliteReconcile.IdentifierCase
