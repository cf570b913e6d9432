import SqliteReconcile.Models

/-! Hidden reads and writes caused by foreign-key actions, found by a breadth-first
search over the foreign-key edges of the schema. -/
namespace SqliteReconcile.CascadeMetadata
open Utils Models

def maxCascadeMetadataDepth : ℕ := 64

def cascadeConflictDetail : String × String := ("metadata_source", "cascade")

/-- `foreign_key_edges_by_parent(context).get(table, ())`. -/
def foreignKeyEdgesByParent (context : ConflictCheckContext) (table : String) :
    List ForeignKeyEdge :=
  context.schemaCache.foreignKeyEdges.filter (·.parentTable = table)

/-- `foreign_key_edges_by_child(context).get(table, ())`. -/
def foreignKeyEdgesByChild (context : ConflictCheckContext) (table : String) :
    List ForeignKeyEdge :=
  context.schemaCache.foreignKeyEdges.filter (·.childTable = table)

structure ForeignKeyRow where
  id : ℕ
  seq : ℕ
  table : String
  fromColumn : String
  toColumn : Option String
  onUpdate : String
  onDelete : String
  deriving DecidableEq, Repr

def foreignKeyAction (action : String) : ForeignKeyAction :=
  match action.toUpper with
  | "RESTRICT" => .restrict
  | "CASCADE" => .cascade
  | "SET NULL" => .setNull
  | "SET DEFAULT" => .setDefault
  | _ => .noAction

/-- The rows of each foreign key of a table, ordered by `seq`. -/
def foreignKeyGroups (rows : List ForeignKeyRow) : List (List ForeignKeyRow) :=
  (rows.map (·.id)).eraseDups.map fun id =>
    (rows.filter (·.id = id)).mergeSort fun left right => left.seq ≤ right.seq

/-- The edge of one foreign key. `REFERENCES parent` without columns means the primary key,
which is skipped when the column counts differ. -/
def foreignKeyEdge (primaryKeyColumns : List (String × List String)) (childTable : String)
    (rows : List ForeignKeyRow) : Option ForeignKeyEdge :=
  match rows with
  | [] => none
  | first :: _ =>
    let parentPkColumns := (primaryKeyColumns.lookup first.table).getD []
    if rows.any (·.toColumn = none) ∧ rows.length ≠ parentPkColumns.length then none
    else some
      { childTable := childTable
        childColumns := rows.map (·.fromColumn)
        parentTable := first.table
        parentColumns := rows.zipIdx.map fun row =>
          row.1.toColumn.getD (parentPkColumns.getD row.2 "")
        onUpdate := foreignKeyAction first.onUpdate
        onDelete := foreignKeyAction first.onDelete }

/-- Child/parent columns and actions of each foreign-key edge of the listed tables. -/
def loadForeignKeyEdges (foreignKeyList : String → List ForeignKeyRow)
    (tableColumns : List (String × Finset String))
    (primaryKeyColumns : List (String × List String)) : List ForeignKeyEdge :=
  tableColumns.flatMap fun child =>
    (foreignKeyGroups (foreignKeyList child.1)).filterMap
      (foreignKeyEdge primaryKeyColumns child.1)

theorem childTable_loadForeignKeyEdges {foreignKeyList : String → List ForeignKeyRow}
    {tableColumns : List (String × Finset String)}
    {primaryKeyColumns : List (String × List String)} {edge : ForeignKeyEdge}
    (h : edge ∈ loadForeignKeyEdges foreignKeyList tableColumns primaryKeyColumns) :
    edge.childTable ∈ tableColumns.map Prod.fst := by
  obtain ⟨child, hchild, hedge⟩ := List.mem_flatMap.mp h
  obtain ⟨rows, -, hrows⟩ := List.mem_filterMap.mp hedge
  refine List.mem_map.mpr ⟨child, hchild, ?_⟩
  cases rows with
  | nil => cases hrows
  | cons first rest =>
    simp only [foreignKeyEdge, Option.ite_none_left_eq_some, Option.some.injEq] at hrows
    rw [← hrows.2]

structure CascadeEffects where
  tablesUpdatedToColumnsUpdated : ColumnMap
  tablesReferencedToColumnsReferenced : ColumnMap
  writeEvents : List CascadeWriteEvent

namespace CascadeEffects

def none : CascadeEffects := ⟨∅, ∅, []⟩

def hasEffects (effects : CascadeEffects) : Bool :=
  effects.tablesUpdatedToColumnsUpdated ≠ ∅ ∨
    effects.tablesReferencedToColumnsReferenced ≠ ∅

end CascadeEffects

/-- The action of an edge that a parent delete/update event triggers. -/
def actionForParentEvent (edge : ForeignKeyEdge) (event : CascadeWriteEvent) :
    Option ForeignKeyAction :=
  match event.kind with
  | .delete => some edge.onDelete
  | .update =>
    if Meets event.columns edge.parentColumns.toFinset then some edge.onUpdate else .none

/-- The hidden child write caused by one action. -/
def cascadeChildEvent (edge : ForeignKeyEdge) (action : ForeignKeyAction)
    (parentEventKind : CascadeEventKind) : Option CascadeWriteEvent :=
  if action = .cascade ∧ parentEventKind = .delete then
    some ⟨edge.childTable, {allColumns}, .delete⟩
  else if action = .cascade ∨ action = .setNull ∨ action = .setDefault then
    some ⟨edge.childTable, edge.childColumns.toFinset, .update⟩
  else .none

def addWriteEvent (effects : CascadeEffects) (event : CascadeWriteEvent) : CascadeEffects where
  tablesUpdatedToColumnsUpdated :=
    addColumnsToColumnMap effects.tablesUpdatedToColumnsUpdated event.table event.columns
  tablesReferencedToColumnsReferenced := effects.tablesReferencedToColumnsReferenced
  writeEvents := effects.writeEvents ++ [event]

def addReference (effects : CascadeEffects) (table : String) (columns : Finset String) :
    CascadeEffects :=
  { effects with
    tablesReferencedToColumnsReferenced :=
      addColumnsToColumnMap effects.tablesReferencedToColumnsReferenced table columns }

def expandEdge (event : CascadeWriteEvent) (depth : ℕ)
    (state : CascadeEffects × List (CascadeWriteEvent × ℕ)) (edge : ForeignKeyEdge) :
    CascadeEffects × List (CascadeWriteEvent × ℕ) :=
  match actionForParentEvent edge event with
  | .none => state
  | some action =>
    let effects := addReference state.1 edge.childTable edge.childColumns.toFinset
    match cascadeChildEvent edge action event.kind with
    | .none => (effects, state.2)
    | some child => (addWriteEvent effects child, state.2 ++ [(child, depth + 1)])

/-- Conservatively mark all tables when the recursion is too deep. -/
def markUnknownCascadeEffects (context : ConflictCheckContext) (effects : CascadeEffects) :
    CascadeEffects :=
  context.tableColumns.foldl
    (fun effects table =>
      addReference (addWriteEvent effects ⟨table.1, {allColumns}, .update⟩) table.1 {allColumns})
    effects

/-- The worklist loop. `fuel` bounds the number of iterations; `cascadeFuel` is enough. -/
def cascadeLoop (context : ConflictCheckContext) :
    ℕ → List (CascadeWriteEvent × ℕ) → List CascadeWriteEvent → CascadeEffects → CascadeEffects
  | 0, _, _, effects => effects
  | _ + 1, [], _, effects => effects
  | fuel + 1, (event, depth) :: queue, visited, effects =>
    if depth > maxCascadeMetadataDepth then markUnknownCascadeEffects context effects
    else if event ∈ visited then cascadeLoop context fuel queue visited effects
    else
      let state := (foreignKeyEdgesByParent context event.table).foldl
        (expandEdge event depth) (effects, queue)
      cascadeLoop context fuel state.2 (event :: visited) state.1

/-- Every event the search can meet: the initial one and two for each edge. -/
def cascadeUniverse (context : ConflictCheckContext) (initial : CascadeWriteEvent) :
    List CascadeWriteEvent :=
  initial :: context.schemaCache.foreignKeyEdges.flatMap fun edge =>
    [⟨edge.childTable, {allColumns}, .delete⟩,
      ⟨edge.childTable, edge.childColumns.toFinset, .update⟩]

def cascadeFuel (context : ConflictCheckContext) : ℕ :=
  let edges := context.schemaCache.foreignKeyEdges.length
  2 + edges * (1 + 2 * edges)

def cascadeEffectsForEvent (context : ConflictCheckContext) (initial : CascadeWriteEvent) :
    CascadeEffects :=
  cascadeLoop context (cascadeFuel context) [(initial, 0)] [] .none

def cascadeEffectsForParsedStatement (context : ConflictCheckContext)
    (statementKind : CascadeEventKind) (tableUpdated : String)
    (columnsUpdated : Finset String) : CascadeEffects :=
  match statementKind with
  | .delete => cascadeEffectsForEvent context ⟨tableUpdated, {allColumns}, .delete⟩
  | .update => cascadeEffectsForEvent context ⟨tableUpdated, columnsUpdated, .update⟩

def cascadeEventMayCreateOrChangeKey (event : CascadeWriteEvent) (table : String)
    (keyColumns : Finset String) : Bool :=
  event.kind = .update ∧ event.table = table ∧ Meets event.columns keyColumns

def cascadeEventMayRemoveOrChangeKey (event : CascadeWriteEvent) (table : String)
    (keyColumns : Finset String) : Bool :=
  event.table = table ∧ (event.kind = .delete ∨ Meets event.columns keyColumns)

/-! What holds of no effects, and is kept by a reference and by each write the search records,
holds of the effects it returns. -/

section Invariant
variable (context : ConflictCheckContext) (P : CascadeEffects → Prop)
  (hreference : ∀ effects, ∀ edge ∈ context.schemaCache.foreignKeyEdges, P effects →
    P (addReference effects edge.childTable edge.childColumns.toFinset))
  (hwrite : ∀ effects, ∀ edge ∈ context.schemaCache.foreignKeyEdges, ∀ action kind event,
    cascadeChildEvent edge action kind = some event → P effects → P (addWriteEvent effects event))
  (hunknown : ∀ effects, ∀ table ∈ context.tableColumns, P effects →
    P (addReference (addWriteEvent effects ⟨table.1, {allColumns}, .update⟩) table.1
      {allColumns}))
include hreference hwrite

lemma expandEdges_inv {event : CascadeWriteEvent} {depth : ℕ} (edges : List ForeignKeyEdge)
    (hedges : edges ⊆ context.schemaCache.foreignKeyEdges)
    {state : CascadeEffects × List (CascadeWriteEvent × ℕ)} (h : P state.1) :
    P (edges.foldl (expandEdge event depth) state).1 := by
  induction edges generalizing state with
  | nil => exact h
  | cons edge edges ih =>
    obtain ⟨hedge, hrest⟩ := List.cons_subset.mp hedges
    refine ih hrest ?_
    unfold expandEdge
    cases actionForParentEvent edge event with
    | none => exact h
    | some action =>
      have href := hreference state.1 edge hedge h
      cases hc : cascadeChildEvent edge action event.kind with
      | none => simpa only [hc] using href
      | some child => simpa only [hc] using hwrite _ edge hedge _ _ child hc href

include hunknown

omit hreference hwrite in
lemma markUnknown_inv {effects : CascadeEffects} (h : P effects) :
    P (markUnknownCascadeEffects context effects) := by
  unfold markUnknownCascadeEffects
  generalize hs : context.tableColumns = tables
  have hsub : tables ⊆ context.tableColumns := hs ▸ List.Subset.refl _
  clear hs
  induction tables generalizing effects with
  | nil => exact h
  | cons table tables ih =>
    obtain ⟨htable, hrest⟩ := List.cons_subset.mp hsub
    exact ih (hunknown effects table htable h) hrest

theorem cascadeLoop_inv (fuel : ℕ) {queue : List (CascadeWriteEvent × ℕ)}
    {visited : List CascadeWriteEvent} {effects : CascadeEffects} (h : P effects) :
    P (cascadeLoop context fuel queue visited effects) := by
  induction fuel generalizing queue visited effects with
  | zero => exact h
  | succ fuel ih =>
    cases queue with
    | nil => exact h
    | cons head queue =>
      unfold cascadeLoop
      split_ifs
      · exact markUnknown_inv context P hunknown h
      · exact ih h
      · exact ih (expandEdges_inv context P hreference hwrite _ List.filter_sublist.subset h)

theorem cascadeEffects_inv (kind : CascadeEventKind) (table : String)
    (columns : Finset String) (h : P .none) :
    P (cascadeEffectsForParsedStatement context kind table columns) := by
  cases kind <;> exact cascadeLoop_inv context P hreference hwrite hunknown _ h

end Invariant

/-- The updated map overlaps exactly what some recorded event overlaps. -/
def Coherent (effects : CascadeEffects) : Prop :=
  ∀ table right, Meets (effects.tablesUpdatedToColumnsUpdated.columns table) right ↔
    ∃ event ∈ effects.writeEvents, event.table = table ∧ Meets event.columns right

lemma coherent_none : Coherent .none := by
  intro table right
  simp [CascadeEffects.none]

lemma coherent_addWriteEvent {effects : CascadeEffects} (h : Coherent effects)
    (event : CascadeWriteEvent) : Coherent (addWriteEvent effects event) := by
  intro table right
  rw [addWriteEvent, addColumns_meets, h table right]
  simp only [List.mem_append, List.mem_singleton]
  constructor
  · rintro (⟨e, he, ht, hm⟩ | ⟨rfl, hm⟩)
    · exact ⟨e, .inl he, ht, hm⟩
    · exact ⟨event, .inr rfl, rfl, hm⟩
  · rintro ⟨e, he | rfl, ht, hm⟩
    · exact .inl ⟨e, he, ht, hm⟩
    · exact .inr ⟨ht.symm, hm⟩

/-- Every hidden write is recorded both in the map and as an event. -/
theorem coherent_cascadeEffects (context : ConflictCheckContext) (kind : CascadeEventKind)
    (table : String) (columns : Finset String) :
    Coherent (cascadeEffectsForParsedStatement context kind table columns) :=
  cascadeEffects_inv context Coherent (fun _ _ _ h => h)
    (fun _ _ _ _ _ event _ h => coherent_addWriteEvent h event)
    (fun _ _ _ h => coherent_addWriteEvent h _) kind table columns coherent_none

/-- A hidden row deletion writes all columns. -/
def DeletesAllColumns (event : CascadeWriteEvent) : Prop :=
  event.kind = .delete → event.columns = {allColumns}

lemma cascadeChildEvent_deletes {edge : ForeignKeyEdge} {action : ForeignKeyAction}
    {kind : CascadeEventKind} {event : CascadeWriteEvent}
    (h : cascadeChildEvent edge action kind = some event) : DeletesAllColumns event := by
  unfold cascadeChildEvent at h
  intro hk
  split_ifs at h
  · rw [← Option.some.inj h]
  · rw [← Option.some.inj h] at hk
    cases hk

theorem cascadeEffects_deletes (context : ConflictCheckContext) (kind : CascadeEventKind)
    (table : String) (columns : Finset String) :
    ∀ event ∈ (cascadeEffectsForParsedStatement context kind table columns).writeEvents,
      DeletesAllColumns event := by
  have hadd : ∀ (effects : CascadeEffects) (event : CascadeWriteEvent),
      DeletesAllColumns event → (∀ e ∈ effects.writeEvents, DeletesAllColumns e) →
      ∀ e ∈ (addWriteEvent effects event).writeEvents, DeletesAllColumns e := by
    intro effects event hevent h e he
    rcases List.mem_append.mp he with he | he
    · exact h e he
    · rw [List.mem_singleton.mp he]
      exact hevent
  refine cascadeEffects_inv context (fun effects => ∀ event ∈ effects.writeEvents,
    DeletesAllColumns event) (fun _ _ _ h => h) ?_ ?_ kind table columns ?_
  · intro effects edge _ action kind event hc h
    exact hadd effects event (cascadeChildEvent_deletes hc) h
  · intro effects table _ h
    refine hadd effects _ ?_ h
    intro hk
    cases hk
  · intro e he
    cases he

end SqliteReconcile.CascadeMetadata
