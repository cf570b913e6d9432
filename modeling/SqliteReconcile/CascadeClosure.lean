import SqliteReconcile.CascadeMetadata
import SqliteReconcile.Identifiers
import SqliteReconcile.Search

/-!
# The closure of cascade events

The worklist of the cascade metadata is a breadth-first search over the child events of an
event. Within the depth limit it records the least set of events that the initial one triggers;
beyond it every table is marked. In both cases the recorded effects cover every cell that the
foreign-key actions of a run change, as long as each action is one that the events announce.
-/
namespace SqliteReconcile.CascadeClosure
open Utils Models CascadeMetadata Identifiers Search

def Touches (event : CascadeWriteEvent) (edge : ForeignKeyEdge) : Prop :=
  edge.parentTable = event.table ∧
    (event.kind = .delete ∨ Meets event.columns edge.parentColumns.toFinset)

def actionOf (edge : ForeignKeyEdge) : CascadeEventKind → ForeignKeyAction
  | .delete => edge.onDelete
  | .update => edge.onUpdate

/-- An event triggers the child event of the action of each edge that it touches. -/
def Triggers (context : ConflictCheckContext) (event child : CascadeWriteEvent) : Prop :=
  ∃ edge ∈ context.schemaCache.foreignKeyEdges, Touches event edge ∧
    cascadeChildEvent edge (actionOf edge event.kind) event.kind = some child

/-- A set of events that holds what the initial event and its own events trigger. -/
def ClosedUnder (context : ConflictCheckContext) (initial : CascadeWriteEvent)
    (events : Set CascadeWriteEvent) : Prop :=
  ∀ event, event = initial ∨ event ∈ events → ∀ child, Triggers context event child →
    child ∈ events

/-- The events that the initial event triggers, directly or not. -/
inductive Triggered (context : ConflictCheckContext) (initial : CascadeWriteEvent) :
    CascadeWriteEvent → Prop
  | first {child : CascadeWriteEvent} : Triggers context initial child →
      Triggered context initial child
  | next {event child : CascadeWriteEvent} : Triggered context initial event →
      Triggers context event child → Triggered context initial child

def childEvents (context : ConflictCheckContext) (event : CascadeWriteEvent) :
    List CascadeWriteEvent :=
  (foreignKeyEdgesByParent context event.table).filterMap fun edge =>
    (actionForParentEvent edge event).bind fun action =>
      cascadeChildEvent edge action event.kind

lemma actionForParentEvent_eq_some {edge : ForeignKeyEdge} {event : CascadeWriteEvent}
    {action : ForeignKeyAction} (htable : edge.parentTable = event.table) :
    actionForParentEvent edge event = some action ↔
      Touches event edge ∧ actionOf edge event.kind = action := by
  obtain ⟨table, columns, kind⟩ := event
  cases kind with
  | delete => simp [actionForParentEvent, actionOf, Touches, htable]
  | update => simp [actionForParentEvent, actionOf, Touches, htable]

lemma mem_childEvents {context : ConflictCheckContext} {event child : CascadeWriteEvent} :
    child ∈ childEvents context event ↔ Triggers context event child := by
  simp only [childEvents, List.mem_filterMap, foreignKeyEdgesByParent, List.mem_filter,
    decide_eq_true_eq, Option.bind_eq_some_iff]
  constructor
  · rintro ⟨edge, ⟨hedge, htable⟩, action, haction, hchild⟩
    obtain ⟨htouches, rfl⟩ := (actionForParentEvent_eq_some htable).mp haction
    exact ⟨edge, hedge, htouches, hchild⟩
  · rintro ⟨edge, hedge, htouches, hchild⟩
    exact ⟨edge, ⟨hedge, htouches.1⟩, _,
      (actionForParentEvent_eq_some htouches.1).mpr ⟨htouches, rfl⟩, hchild⟩

def recordEvent (context : ConflictCheckContext) (effects : CascadeEffects)
    (event : CascadeWriteEvent) : CascadeEffects :=
  (foreignKeyEdgesByParent context event.table).foldl
    (fun effects edge => (expandEdge event 0 (effects, []) edge).1) effects

/-- The effects of a search: what its expansions record, and every table when it gave up. -/
def effectsOf (context : ConflictCheckContext) (effects : CascadeEffects)
    (result : List CascadeWriteEvent × Bool) : CascadeEffects :=
  let recorded := result.1.foldl (recordEvent context) effects
  if result.2 then markUnknownCascadeEffects context recorded else recorded

lemma expandEdge_eq (event : CascadeWriteEvent) (depth : ℕ) (effects : CascadeEffects)
    (queue : List (CascadeWriteEvent × ℕ)) (edge : ForeignKeyEdge) :
    expandEdge event depth (effects, queue) edge =
      ((expandEdge event 0 (effects, []) edge).1,
        queue ++ (((actionForParentEvent edge event).bind fun action =>
          cascadeChildEvent edge action event.kind).toList.map (·, depth + 1))) := by
  unfold expandEdge
  cases haction : actionForParentEvent edge event with
  | none => simp
  | some action => cases hchild : cascadeChildEvent edge action event.kind <;> simp [hchild]

lemma expandEdges_eq (event : CascadeWriteEvent) (depth : ℕ) (edges : List ForeignKeyEdge)
    (effects : CascadeEffects) (queue : List (CascadeWriteEvent × ℕ)) :
    edges.foldl (expandEdge event depth) (effects, queue) =
      (edges.foldl (fun effects edge => (expandEdge event 0 (effects, []) edge).1) effects,
        queue ++ (edges.filterMap fun edge => (actionForParentEvent edge event).bind fun action =>
          cascadeChildEvent edge action event.kind).map (·, depth + 1)) := by
  induction edges generalizing effects queue with
  | nil => simp
  | cons edge edges ih =>
    rw [List.foldl_cons, List.foldl_cons, expandEdge_eq, ih]
    congr 1
    cases hchild : (actionForParentEvent edge event).bind fun action =>
        cascadeChildEvent edge action event.kind <;> simp [hchild]

lemma cascadeLoop_eq (context : ConflictCheckContext) (fuel : ℕ)
    (queue : List (CascadeWriteEvent × ℕ)) (visited : List CascadeWriteEvent)
    (effects : CascadeEffects) :
    cascadeLoop context fuel queue visited effects =
      effectsOf context effects
        (explore (childEvents context) maxCascadeMetadataDepth fuel queue visited) := by
  induction fuel generalizing queue visited effects with
  | zero => rfl
  | succ fuel ih =>
    cases queue with
    | nil => rfl
    | cons head queue =>
      obtain ⟨event, depth⟩ := head
      rw [cascadeLoop, explore]
      split_ifs with hdepth hvisited
      · rfl
      · exact ih _ _ _
      · rw [expandEdges_eq]
        exact ih _ _ _

lemma childEvents_length (context : ConflictCheckContext) (event : CascadeWriteEvent) :
    (childEvents context event).length ≤ context.schemaCache.foreignKeyEdges.length :=
  (List.length_filterMap_le _ _).trans (List.length_filter_le _ _)

lemma cascadeChildEvent_mem {edge : ForeignKeyEdge} {action : ForeignKeyAction}
    {kind : CascadeEventKind} {child : CascadeWriteEvent}
    (h : cascadeChildEvent edge action kind = some child) :
    child = ⟨edge.childTable, {allColumns}, .delete⟩ ∨
      child = ⟨edge.childTable, edge.childColumns.toFinset, .update⟩ := by
  unfold cascadeChildEvent at h
  split_ifs at h
  · exact .inl (Option.some.inj h).symm
  · exact .inr (Option.some.inj h).symm

lemma childEvents_universe (context : ConflictCheckContext) (initial : CascadeWriteEvent) :
    ∀ event ∈ cascadeUniverse context initial, ∀ child ∈ childEvents context event,
      child ∈ cascadeUniverse context initial := by
  intro event _ child hchild
  obtain ⟨edge, hedge, -, hmem⟩ := mem_childEvents.mp hchild
  refine List.mem_cons_of_mem _ (List.mem_flatMap.mpr ⟨edge, hedge, ?_⟩)
  rcases cascadeChildEvent_mem hmem with rfl | rfl <;> simp

lemma workLeft_initial (context : ConflictCheckContext) (initial : CascadeWriteEvent) :
    workLeft (cascadeUniverse context initial) context.schemaCache.foreignKeyEdges.length
      [(initial, 0)] [] < cascadeFuel context := by
  have hlength : (cascadeUniverse context initial).length =
      1 + 2 * context.schemaCache.foreignKeyEdges.length := by
    simp [cascadeUniverse, List.length_flatMap, Nat.mul_comm, Nat.add_comm]
  have hunvisited : unvisited (cascadeUniverse context initial) [] ≤
      1 + 2 * context.schemaCache.foreignKeyEdges.length :=
    (List.length_filter_le _ _).trans_eq hlength
  have hwork := Nat.mul_le_mul_left context.schemaCache.foreignKeyEdges.length hunvisited
  simp only [workLeft, cascadeFuel, List.length_cons, List.length_nil]
  omega

/-- The loop without a bound on its iterations. -/
inductive Runs (context : ConflictCheckContext) : List (CascadeWriteEvent × ℕ) →
    List CascadeWriteEvent → CascadeEffects → CascadeEffects → Prop
  | done {visited effects} : Runs context [] visited effects effects
  | deep {event depth queue visited effects} : maxCascadeMetadataDepth < depth →
      Runs context ((event, depth) :: queue) visited effects
        (markUnknownCascadeEffects context effects)
  | seen {event depth queue visited effects result} : depth ≤ maxCascadeMetadataDepth →
      event ∈ visited → Runs context queue visited effects result →
      Runs context ((event, depth) :: queue) visited effects result
  | expand {event depth queue visited effects result} : depth ≤ maxCascadeMetadataDepth →
      event ∉ visited →
      Runs context ((foreignKeyEdgesByParent context event.table).foldl
          (expandEdge event depth) (effects, queue)).2 (event :: visited)
        ((foreignKeyEdgesByParent context event.table).foldl
          (expandEdge event depth) (effects, queue)).1 result →
      Runs context ((event, depth) :: queue) visited effects result

/-- The loop ends, with the effects that the bounded one returns. -/
theorem runs_cascadeLoop (context : ConflictCheckContext) (initial : CascadeWriteEvent)
    {fuel : ℕ} (hfuel : cascadeFuel context ≤ fuel) :
    Runs context [(initial, 0)] [] .none (cascadeLoop context fuel [(initial, 0)] [] .none) := by
  refine worklist_induction (childEvents context) maxCascadeMetadataDepth
    (motive := fun fuel queue visited => ∀ effects, Runs context queue visited effects
      (cascadeLoop context fuel queue visited effects))
    (childEvents_universe context initial) (childEvents_length context) ?_ ?_ ?_ ?_
    fuel (by simp [cascadeUniverse]) ((workLeft_initial context initial).trans_le hfuel) .none
  · intro fuel visited effects
    exact .done
  · intro fuel event depth queue visited hdepth effects
    rw [cascadeLoop, if_pos hdepth]
    exact .deep hdepth
  · intro fuel event depth queue visited hdepth hvisited ih effects
    rw [cascadeLoop, if_neg (by omega), if_pos hvisited]
    exact .seen hdepth hvisited (ih effects)
  · intro fuel event depth queue visited hdepth hvisited ih effects
    rw [cascadeLoop, if_neg (by omega), if_neg hvisited]
    refine .expand hdepth hvisited ?_
    rw [expandEdges_eq]
    exact ih _

/-- A map holds, for each table, the columns of a family, or `*` alone when it is among them. -/
structure NormalizedUnion (map : ColumnMap) (columns : String → Set String) : Prop where
  mem_iff : ∀ table, table ∈ map ↔ (columns table).Nonempty
  all : ∀ table, allColumns ∈ columns table → map.columns table = {allColumns}
  exact : ∀ table, allColumns ∉ columns table →
    ∀ column, column ∈ map.columns table ↔ column ∈ columns table

lemma normalizedUnion_empty : NormalizedUnion ∅ fun _ => ∅ where
  mem_iff table := by simp [Finmap.notMem_empty]
  all := by simp
  exact := by simp

lemma NormalizedUnion.congr {map : ColumnMap} {columns columns' : String → Set String}
    (h : NormalizedUnion map columns)
    (heq : ∀ table column, column ∈ columns' table ↔ column ∈ columns table) :
    NormalizedUnion map columns' := by
  have hcolumns : columns' = columns := by
    funext table
    exact Set.ext (heq table)
  rwa [hcolumns]

lemma NormalizedUnion.add {map : ColumnMap} {columns : String → Set String}
    (h : NormalizedUnion map columns) (table : String) (added : Finset String) :
    NormalizedUnion (addColumnsToColumnMap map table added)
      fun other => {column | column ∈ columns other ∨ table = other ∧ column ∈ added} where
  mem_iff other := by
    rw [mem_addColumns, h.mem_iff]
    constructor
    · rintro (⟨column, hcolumn⟩ | ⟨htable, hadded⟩)
      · exact ⟨column, .inl hcolumn⟩
      · obtain ⟨column, hcolumn⟩ := Finset.nonempty_iff_ne_empty.mpr hadded
        exact ⟨column, .inr ⟨htable.symm, hcolumn⟩⟩
    · rintro ⟨column, hcolumn | ⟨htable, hcolumn⟩⟩
      · exact .inl ⟨column, hcolumn⟩
      · exact .inr ⟨htable.symm, Finset.ne_empty_of_mem hcolumn⟩
  all other hall := by
    rw [columns_addColumns]
    by_cases hold : allColumns ∈ columns other
    · have hentry := h.all other hold
      split_ifs
      · simp [mergeColumns, hentry]
      · exact hentry
    · obtain ⟨rfl, hadded⟩ := hall.resolve_left hold
      have hentry : allColumns ∉ map.columns table := fun hmem =>
        hold ((h.exact table hold _).mp hmem)
      simp [mergeColumns, hentry, hadded, Finset.ne_empty_of_mem hadded]
  exact other hall column := by
    have hold : allColumns ∉ columns other := fun hmem => hall (.inl hmem)
    have hentry : allColumns ∉ map.columns other := fun hmem =>
      hold ((h.exact other hold _).mp hmem)
    rw [columns_addColumns]
    split_ifs with htable
    · subst htable
      have hadded : allColumns ∉ added := fun hmem => hall (.inr ⟨rfl, hmem⟩)
      unfold mergeColumns
      split_ifs with hempty
      · obtain rfl := hempty.resolve_right hentry
        simp [h.exact other hold]
      · simp [h.exact other hold]
    · simp [h.exact other hold, Ne.symm htable]

def writtenColumns (events : List CascadeWriteEvent) (table : String) : Set String :=
  {column | ∃ event ∈ events, event.table = table ∧ column ∈ event.columns}

def touchedColumns (edges : List ForeignKeyEdge) (events : CascadeWriteEvent → Prop)
    (table : String) : Set String :=
  {column | ∃ event, events event ∧ ∃ edge ∈ edges, Touches event edge ∧
    edge.childTable = table ∧ column ∈ edge.childColumns}

structure Records (context : ConflictCheckContext) (effects : CascadeEffects)
    (expanded : List CascadeWriteEvent) : Prop where
  writes : effects.writeEvents = expanded.flatMap (childEvents context)
  updated : NormalizedUnion effects.tablesUpdatedToColumnsUpdated
    (writtenColumns effects.writeEvents)
  referenced : NormalizedUnion effects.tablesReferencedToColumnsReferenced
    (touchedColumns context.schemaCache.foreignKeyEdges (· ∈ expanded))

lemma recordEdges (event : CascadeWriteEvent) (edges : List ForeignKeyEdge)
    (htable : ∀ edge ∈ edges, edge.parentTable = event.table) (effects : CascadeEffects)
    {referenced : String → Set String}
    (hupdated : NormalizedUnion effects.tablesUpdatedToColumnsUpdated
      (writtenColumns effects.writeEvents))
    (hreferenced : NormalizedUnion effects.tablesReferencedToColumnsReferenced referenced) :
    let result := edges.foldl (fun effects edge => (expandEdge event 0 (effects, []) edge).1)
      effects
    result.writeEvents = effects.writeEvents ++ (edges.filterMap fun edge =>
        (actionForParentEvent edge event).bind fun action =>
          cascadeChildEvent edge action event.kind) ∧
      NormalizedUnion result.tablesUpdatedToColumnsUpdated
        (writtenColumns result.writeEvents) ∧
      NormalizedUnion result.tablesReferencedToColumnsReferenced fun table =>
        {column | column ∈ referenced table ∨
          column ∈ touchedColumns edges (· = event) table} := by
  induction edges generalizing effects referenced with
  | nil =>
    refine ⟨by simp, hupdated, hreferenced.congr ?_⟩
    simp [touchedColumns]
  | cons edge edges ih =>
    obtain ⟨hedge, hrest⟩ := List.forall_mem_cons.mp htable
    rw [List.foldl_cons]
    have hmem : ∀ table column, column ∈ touchedColumns (edge :: edges) (· = event) table ↔
        (Touches event edge ∧ edge.childTable = table ∧ column ∈ edge.childColumns) ∨
          column ∈ touchedColumns edges (· = event) table := by
      intro table column
      simp [touchedColumns]
    cases haction : actionForParentEvent edge event with
    | none =>
      have hnot : ¬ Touches event edge := fun htouches => by
        simp [(actionForParentEvent_eq_some hedge).mpr ⟨htouches, rfl⟩] at haction
      have hskip : (expandEdge event 0 (effects, []) edge).1 = effects := by
        simp [expandEdge, haction]
      rw [hskip]
      obtain ⟨hwrites, hup, href⟩ := ih hrest effects hupdated hreferenced
      refine ⟨?_, hup, href.congr fun table column => ?_⟩
      · rw [hwrites]
        simp [haction]
      · simp [hmem, hnot]
    | some action =>
      have htouches := ((actionForParentEvent_eq_some hedge).mp haction).1
      have hadded := hreferenced.add edge.childTable edge.childColumns.toFinset
      cases hchild : cascadeChildEvent edge action event.kind with
      | none =>
        have hstep : (expandEdge event 0 (effects, []) edge).1 =
            addReference effects edge.childTable edge.childColumns.toFinset := by
          simp [expandEdge, haction, hchild]
        rw [hstep]
        obtain ⟨hwrites, hup, href⟩ := ih hrest
          (addReference effects edge.childTable edge.childColumns.toFinset) hupdated hadded
        refine ⟨?_, hup, href.congr fun table column => ?_⟩
        · rw [hwrites]
          simp [haction, hchild, addReference]
        · simp only [Set.mem_ofPred_eq, hmem, htouches, true_and, List.mem_toFinset, or_assoc]
      | some child =>
        have hstep : (expandEdge event 0 (effects, []) edge).1 =
            addWriteEvent (addReference effects edge.childTable edge.childColumns.toFinset)
              child := by
          simp [expandEdge, haction, hchild]
        rw [hstep]
        have hwritten : NormalizedUnion
            (addColumnsToColumnMap effects.tablesUpdatedToColumnsUpdated child.table child.columns)
            (writtenColumns (effects.writeEvents ++ [child])) := by
          refine (hupdated.add child.table child.columns).congr fun table column => ?_
          simp only [writtenColumns, List.mem_append, List.mem_singleton, Set.mem_ofPred_eq,
            or_and_right, exists_or, exists_eq_left]
        obtain ⟨hwrites, hup, href⟩ := ih hrest
          (addWriteEvent (addReference effects edge.childTable edge.childColumns.toFinset) child)
          hwritten hadded
        refine ⟨?_, hup, href.congr fun table column => ?_⟩
        · rw [hwrites]
          simp [haction, hchild, addWriteEvent, addReference]
        · simp only [Set.mem_ofPred_eq, hmem, htouches, true_and, List.mem_toFinset, or_assoc]

lemma Records.expand {context : ConflictCheckContext} {effects : CascadeEffects}
    {expanded : List CascadeWriteEvent} (h : Records context effects expanded)
    (event : CascadeWriteEvent) :
    Records context (recordEvent context effects event) (expanded ++ [event]) := by
  obtain ⟨hwrites, hupdated, hreferenced⟩ := recordEdges event
    (foreignKeyEdgesByParent context event.table)
    (fun edge hedge => by simpa using (List.mem_filter.mp hedge).2) effects h.updated
    h.referenced
  refine ⟨?_, hupdated, hreferenced.congr fun table column => ?_⟩
  · rw [List.flatMap_append, ← h.writes, List.flatMap_singleton]
    exact hwrites
  · have hparent : column ∈ touchedColumns (foreignKeyEdgesByParent context event.table)
        (· = event) table ↔
        column ∈ touchedColumns context.schemaCache.foreignKeyEdges (· = event) table := by
      simp only [touchedColumns, foreignKeyEdgesByParent, List.mem_filter, decide_eq_true_eq,
        Set.mem_ofPred_eq, exists_eq_left, Touches]
      constructor
      · rintro ⟨edge, ⟨hedge, -⟩, htouches⟩
        exact ⟨edge, hedge, htouches⟩
      · rintro ⟨edge, hedge, htouches⟩
        exact ⟨edge, ⟨hedge, htouches.1.1⟩, htouches⟩
    simp only [Set.mem_ofPred_eq, hparent]
    simp only [touchedColumns, List.mem_append, List.mem_singleton, Set.mem_ofPred_eq,
      or_and_right, exists_or, exists_eq_left]

lemma records_foldl {context : ConflictCheckContext} (events : List CascadeWriteEvent)
    {effects : CascadeEffects} {expanded : List CascadeWriteEvent}
    (h : Records context effects expanded) :
    Records context (events.foldl (recordEvent context) effects) (expanded ++ events) := by
  induction events generalizing effects expanded with
  | nil => simpa using h
  | cons event events ih => simpa using ih (h.expand event)

lemma records_none (context : ConflictCheckContext) : Records context .none [] where
  writes := rfl
  updated := normalizedUnion_empty.congr (by simp [writtenColumns, CascadeEffects.none])
  referenced := normalizedUnion_empty.congr (by simp [touchedColumns])

section

variable {context : ConflictCheckContext} {initial : CascadeWriteEvent}

/-- Some event is reached beyond the depth limit: an event that 64 steps reach and no fewer
triggers another. -/
def ExceedsDepth (context : ConflictCheckContext) (initial : CascadeWriteEvent) : Prop :=
  Exceeds (childEvents context) maxCascadeMetadataDepth initial

/-- What the initial event leads to is itself and what it triggers. -/
lemma chain_iff_triggered {event : CascadeWriteEvent} :
    (∃ n, Chain (childEvents context) initial n event) ↔
      event = initial ∨ Triggered context initial event := by
  constructor
  · rintro ⟨n, hchain⟩
    induction hchain with
    | start => exact .inl rfl
    | step _ hchild ih =>
      rcases ih with rfl | htriggered
      · exact .inr (.first (mem_childEvents.mp hchild))
      · exact .inr (.next htriggered (mem_childEvents.mp hchild))
  · rintro (rfl | htriggered)
    · exact ⟨0, .start⟩
    · induction htriggered with
      | first hchild => exact ⟨1, .step .start (mem_childEvents.mpr hchild)⟩
      | next _ hchild ih =>
        obtain ⟨n, hchain⟩ := ih
        exact ⟨n + 1, .step hchain (mem_childEvents.mpr hchild)⟩

lemma triggered_of_triggers {event child : CascadeWriteEvent}
    (hevent : event = initial ∨ Triggered context initial event)
    (hchild : Triggers context event child) : Triggered context initial child := by
  rcases hevent with rfl | htriggered
  · exact .first hchild
  · exact .next htriggered hchild

lemma triggered_iff {child : CascadeWriteEvent} :
    Triggered context initial child ↔
      ∃ event, (event = initial ∨ Triggered context initial event) ∧
        Triggers context event child := by
  constructor
  · intro h
    cases h with
    | first hchild => exact ⟨initial, .inl rfl, hchild⟩
    | next htriggered hchild => exact ⟨_, .inr htriggered, hchild⟩
  · rintro ⟨event, hevent, hchild⟩
    exact triggered_of_triggers hevent hchild

/-- The triggered events are the least set that holds what its own events trigger. -/
lemma triggered_isLeast :
    IsLeast {events | ClosedUnder context initial events}
      {event | Triggered context initial event} := by
  constructor
  · intro event hevent child hchild
    exact triggered_of_triggers hevent hchild
  · intro events hclosed event htriggered
    induction htriggered with
    | first hchild => exact hclosed initial (.inl rfl) _ hchild
    | next _ hchild ih => exact hclosed _ (.inr ih) _ hchild

variable (context initial) in
lemma cascadeEffectsForEvent_search :
    ∃ expanded exceeded,
      Found (childEvents context) maxCascadeMetadataDepth initial expanded exceeded ∧
      cascadeEffectsForEvent context initial =
        effectsOf context .none (expanded, exceeded) ∧
      Records context (expanded.foldl (recordEvent context) .none) expanded := by
  refine ⟨_, _, explore_start List.mem_cons_self (childEvents_universe context initial)
    (childEvents_length context) (cascadeFuel context) (workLeft_initial context initial),
    cascadeLoop_eq _ _ _ _ _, ?_⟩
  simpa using records_foldl _ (records_none context)

/-- Within the depth limit the recorded effects are those of the triggered events. -/
structure ExactEffects (context : ConflictCheckContext) (initial : CascadeWriteEvent)
    (effects : CascadeEffects) : Prop where
  writeEvents : IsLeast {events | ClosedUnder context initial events}
    {event | event ∈ effects.writeEvents}
  updated : NormalizedUnion effects.tablesUpdatedToColumnsUpdated
    (writtenColumns effects.writeEvents)
  referenced : NormalizedUnion effects.tablesReferencedToColumnsReferenced
    (touchedColumns context.schemaCache.foreignKeyEdges
      fun event => event = initial ∨ event ∈ effects.writeEvents)

lemma mem_writeEvents_iff (hdepth : ¬ ExceedsDepth context initial) {event : CascadeWriteEvent} :
    event ∈ (cascadeEffectsForEvent context initial).writeEvents ↔
      Triggered context initial event := by
  obtain ⟨expanded, exceeded, hfound, heffects, hrecords⟩ :=
    cascadeEffectsForEvent_search context initial
  obtain rfl : exceeded = false := by
    rw [Bool.eq_false_iff]
    exact fun h => hdepth (hfound.exceeds.mp h)
  rw [heffects, triggered_iff]
  simp only [effectsOf, Bool.false_eq_true, if_false, hrecords.writes, List.mem_flatMap,
    mem_childEvents, hfound.mem_iff, chain_iff_triggered]

theorem exactEffects (hdepth : ¬ ExceedsDepth context initial) :
    ExactEffects context initial (cascadeEffectsForEvent context initial) := by
  have hevents : {event | event ∈ (cascadeEffectsForEvent context initial).writeEvents} =
      {event | Triggered context initial event} :=
    Set.ext fun event => mem_writeEvents_iff hdepth
  obtain ⟨expanded, exceeded, hfound, heffects, hrecords⟩ :=
    cascadeEffectsForEvent_search context initial
  obtain rfl : exceeded = false := by
    rw [Bool.eq_false_iff]
    exact fun h => hdepth (hfound.exceeds.mp h)
  have hrecorded : cascadeEffectsForEvent context initial =
      expanded.foldl (recordEvent context) .none := heffects
  refine ⟨?_, ?_, ?_⟩
  · rw [hevents]
    exact triggered_isLeast
  · rw [hrecorded]
    exact hrecords.updated
  · have hmem : (fun event => event = initial ∨
        event ∈ (cascadeEffectsForEvent context initial).writeEvents) = (· ∈ expanded) := by
      funext event
      rw [mem_writeEvents_iff hdepth, hfound.mem_iff, chain_iff_triggered]
    rw [hmem, hrecorded]
    exact hrecords.referenced

/-- The column is in the set, or `*` stands for it. -/
def Covers (columns : Finset String) (column : String) : Prop :=
  column ∈ columns ∨ allColumns ∈ columns

/-- The loader lists the child table of every edge. -/
def EdgesListed (context : ConflictCheckContext) : Prop :=
  ∀ edge ∈ context.schemaCache.foreignKeyEdges,
    edge.childTable ∈ context.tableColumns.map Prod.fst

lemma edgesListed_of_load {foreignKeyList : String → List ForeignKeyRow}
    (h : context.schemaCache.foreignKeyEdges =
      loadForeignKeyEdges foreignKeyList context.tableColumns context.primaryKeyColumns) :
    EdgesListed context := by
  intro edge hedge
  rw [h] at hedge
  exact childTable_loadForeignKeyEdges hedge

lemma Triggered.listed (hlisted : EdgesListed context) {event : CascadeWriteEvent}
    (h : Triggered context initial event) : event.table ∈ context.tableColumns.map Prod.fst := by
  obtain ⟨_, _, edge, hedge, _, hchild⟩ := triggered_iff.mp h
  rcases cascadeChildEvent_mem hchild with rfl | rfl <;> exact hlisted edge hedge

structure Marked (effects : CascadeEffects) (table : String) : Prop where
  updated : allColumns ∈ effects.tablesUpdatedToColumnsUpdated.columns table
  referenced : allColumns ∈ effects.tablesReferencedToColumnsReferenced.columns table
  writeEvents : ⟨table, {allColumns}, .update⟩ ∈ effects.writeEvents

lemma allColumns_mem_addColumns {map : ColumnMap} {table other : String}
    {columns : Finset String} (h : allColumns ∈ map.columns other) :
    allColumns ∈ (addColumnsToColumnMap map table columns).columns other := by
  rw [columns_addColumns]
  split_ifs
  · simp [mergeColumns, h]
  · exact h

lemma allColumns_mem_addAll (map : ColumnMap) (table : String) :
    allColumns ∈ (addColumnsToColumnMap map table {allColumns}).columns table := by
  rw [columns_addColumns, if_pos rfl, mergeColumns]
  split_ifs with h
  · exact h.resolve_left (by simp)
  · exact Finset.mem_singleton_self _
  · simp_all

def markTable (effects : CascadeEffects) (table : String × Finset String) : CascadeEffects :=
  addReference (addWriteEvent effects ⟨table.1, {allColumns}, .update⟩) table.1 {allColumns}

lemma Marked.markTable {effects : CascadeEffects} {table : String}
    (h : Marked effects table) (other : String × Finset String) :
    Marked (markTable effects other) table where
  updated := allColumns_mem_addColumns h.updated
  referenced := allColumns_mem_addColumns h.referenced
  writeEvents := List.mem_append_left _ h.writeEvents

lemma marked_markTable (effects : CascadeEffects) (table : String × Finset String) :
    Marked (markTable effects table) table.1 where
  updated := allColumns_mem_addAll _ _
  referenced := allColumns_mem_addAll _ _
  writeEvents := List.mem_append_right _ (List.mem_singleton.mpr rfl)

lemma marked_markUnknown {effects : CascadeEffects} {table : String}
    (h : table ∈ context.tableColumns.map Prod.fst ∨ Marked effects table) :
    Marked (markUnknownCascadeEffects context effects) table := by
  change Marked (context.tableColumns.foldl markTable effects) table
  generalize context.tableColumns = tables at h
  induction tables generalizing effects with
  | nil => exact h.resolve_left (by simp)
  | cons head tables ih =>
    refine ih ?_
    rcases h with hmem | hmarked
    · rcases List.mem_cons.mp hmem with rfl | hmem
      · exact .inr (marked_markTable effects head)
      · exact .inl hmem
    · exact .inr (hmarked.markTable head)

lemma marked_of_exceeds (hlisted : EdgesListed context) (hdepth : ExceedsDepth context initial)
    {event : CascadeWriteEvent} (h : Triggered context initial event) :
    Marked (cascadeEffectsForEvent context initial) event.table := by
  obtain ⟨expanded, exceeded, hfound, heffects, -⟩ :=
    cascadeEffectsForEvent_search context initial
  obtain rfl : exceeded = true := hfound.exceeds.mpr hdepth
  rw [heffects]
  exact marked_markUnknown (.inl (h.listed hlisted))

/-- A recorded event stands for another in every check that looks at events. -/
structure Dominates (recorded event : CascadeWriteEvent) : Prop where
  table : recorded.table = event.table
  columns : ∀ column ∈ event.columns, Covers recorded.columns column
  createOrChange : ∀ table keyColumns, cascadeEventMayCreateOrChangeKey event table keyColumns →
    cascadeEventMayCreateOrChangeKey recorded table keyColumns
  removeOrChange : ∀ table keyColumns, keyColumns ≠ ∅ →
    cascadeEventMayRemoveOrChangeKey event table keyColumns →
    cascadeEventMayRemoveOrChangeKey recorded table keyColumns

lemma dominates_self (event : CascadeWriteEvent) : Dominates event event where
  table := rfl
  columns _ hcolumn := .inl hcolumn
  createOrChange _ _ h := h
  removeOrChange _ _ _ h := h

lemma dominates_mark (event : CascadeWriteEvent) :
    Dominates ⟨event.table, {allColumns}, .update⟩ event where
  table := rfl
  columns _ _ := .inr (Finset.mem_singleton_self _)
  createOrChange table keyColumns h := by
    simp only [cascadeEventMayCreateOrChangeKey, decide_eq_true_eq] at h ⊢
    exact ⟨trivial, h.2.1, allColumns_meets.mpr (meets_iff.mp h.2.2).2.1⟩
  removeOrChange table keyColumns hne h := by
    simp only [cascadeEventMayRemoveOrChangeKey, decide_eq_true_eq] at h ⊢
    exact ⟨h.1, .inr (allColumns_meets.mpr hne)⟩

lemma NormalizedUnion.covers {map : ColumnMap} {columns : String → Set String}
    (h : NormalizedUnion map columns) {table column : String} (hcolumn : column ∈ columns table) :
    Covers (map.columns table) column := by
  by_cases hall : allColumns ∈ columns table
  · rw [h.all table hall]
    exact .inr (Finset.mem_singleton_self _)
  · exact .inl ((h.exact table hall column).mpr hcolumn)

structure CoversEvent (context : ConflictCheckContext) (effects : CascadeEffects)
    (event : CascadeWriteEvent) : Prop where
  writeEvents : ∃ recorded ∈ effects.writeEvents, Dominates recorded event
  updated : ∀ column ∈ event.columns,
    Covers (effects.tablesUpdatedToColumnsUpdated.columns event.table) column

theorem coversEvent (hlisted : EdgesListed context) {event : CascadeWriteEvent}
    (h : Triggered context initial event) :
    CoversEvent context (cascadeEffectsForEvent context initial) event := by
  by_cases hdepth : ExceedsDepth context initial
  · have hmarked := marked_of_exceeds hlisted hdepth h
    exact ⟨⟨_, hmarked.writeEvents, dominates_mark event⟩, fun _ _ => .inr hmarked.updated⟩
  · have hmem := (mem_writeEvents_iff hdepth).mpr h
    refine ⟨⟨event, hmem, dominates_self event⟩, fun column hcolumn => ?_⟩
    exact (exactEffects hdepth).updated.covers ⟨event, hmem, rfl, hcolumn⟩

theorem coversEdge (hlisted : EdgesListed context) {event : CascadeWriteEvent}
    (h : event = initial ∨ Triggered context initial event) {edge : ForeignKeyEdge}
    (hedge : edge ∈ context.schemaCache.foreignKeyEdges) (htouches : Touches event edge) :
    ∀ column ∈ edge.childColumns, Covers ((cascadeEffectsForEvent context
      initial).tablesReferencedToColumnsReferenced.columns edge.childTable) column := by
  intro column hcolumn
  obtain ⟨expanded, exceeded, hfound, heffects, -⟩ :=
    cascadeEffectsForEvent_search context initial
  cases exceeded with
  | true =>
    rw [heffects]
    exact .inr (marked_markUnknown (.inl (hlisted edge hedge))).referenced
  | false =>
    have hdepth : ¬ ExceedsDepth context initial := fun hdepth => by
      simpa using hfound.exceeds.mpr hdepth
    refine (exactEffects hdepth).referenced.covers
      ⟨event, ?_, edge, hedge, htouches, rfl, hcolumn⟩
    exact h.imp_right (mem_writeEvents_iff hdepth).mpr

end

/-! The rows of a database, and the changes that a statement and the foreign-key actions after it
make to them. What the statement changes is left open, and so are the comparison of keys and the
order of the actions. -/

abbrev Row (Value : Type) := String → Value

abbrev Database (Value : Type) := String → ℕ → Option (Row Value)

structure Change (Value : Type) where
  table : String
  row : ℕ
  before : Row Value
  after : Option (Row Value)

/-- The foreign keys of a database, its tables and columns as they are declared, and the row that a
table holds once some row is written to it: generated columns are computed. -/
structure ForeignKeys (Value : Type) where
  edges : List ForeignKeyEdge
  tables : List String
  columns : String → List String
  stored : String → Row Value → Row Value
  null : Value
  default : String → String → Value
  sameKey : Value → Value → Prop

/-- The declared name that SQLite finds for a written one, whatever its case. -/
def resolve (declared : List String) (name : String) : String :=
  (declared.find? fun known => foldCase known = foldCase name).getD name

section

variable {Value : Type}

def ForeignKeys.parent (foreignKeys : ForeignKeys Value) (edge : ForeignKeyEdge) : String :=
  resolve foreignKeys.tables edge.parentTable

def ForeignKeys.parentColumns (foreignKeys : ForeignKeys Value) (edge : ForeignKeyEdge) :
    List String :=
  edge.parentColumns.map (resolve (foreignKeys.columns (foreignKeys.parent edge)))

def Change.kind (change : Change Value) : CascadeEventKind :=
  if change.after.isNone then .delete else .update

/-- A cell that the change removes or gives another value. -/
def Change.Changes (change : Change Value) (column : String) : Prop :=
  match change.after with
  | none => True
  | some after => change.before column ≠ after column

def Change.apply (change : Change Value) (database : Database Value) : Database Value :=
  fun table row => if table = change.table ∧ row = change.row then change.after
    else database table row

def assign (row : Row Value) (values : List (String × Value)) : Row Value :=
  fun column => (values.lookup column).getD (row column)

/-- What an action makes of a child row, if it writes it. -/
def childAfter (foreignKeys : ForeignKeys Value) (edge : ForeignKeyEdge)
    (action : ForeignKeyAction) (parentAfter : Option (Row Value)) (child : Row Value) :
    Option (Option (Row Value)) :=
  match action with
  | .cascade => some (parentAfter.map fun parent => foreignKeys.stored edge.childTable
      (assign child (edge.childColumns.zip ((foreignKeys.parentColumns edge).map parent))))
  | .setNull => some (some (foreignKeys.stored edge.childTable (assign child
      (edge.childColumns.map fun column => (column, foreignKeys.null)))))
  | .setDefault => some (some (foreignKeys.stored edge.childTable (assign child
      (edge.childColumns.map fun column =>
        (column, foreignKeys.default edge.childTable column)))))
  | .noAction | .restrict => none

/-- The action of an edge changes a child row because of a change of its parent row. -/
structure Fires (foreignKeys : ForeignKeys Value) (edge : ForeignKeyEdge)
    (parent child : Change Value) : Prop where
  edge_mem : edge ∈ foreignKeys.edges
  parentTable : parent.table = foreignKeys.parent edge
  childTable : child.table = edge.childTable
  key_changed : ∃ column ∈ foreignKeys.parentColumns edge, parent.Changes column
  refers : List.Forall₂ (fun childColumn parentColumn =>
    foreignKeys.sameKey (child.before childColumn) (parent.before parentColumn))
    edge.childColumns (foreignKeys.parentColumns edge)
  written : childAfter foreignKeys edge (actionOf edge parent.kind) parent.after child.before =
    some child.after

/-- A change of the statement, or one of an action and the step whose change fires it. -/
inductive Step (Value : Type)
  | write (change : Change Value)
  | act (parent : Step Value) (edge : ForeignKeyEdge) (change : Change Value)

def Step.change : Step Value → Change Value
  | .write change | .act _ _ change => change

/-- A run of a statement: whatever rows it changes itself, and the actions that earlier changes
fire, in any order. -/
inductive Run (foreignKeys : ForeignKeys Value) (database : Database Value) :
    List (Step Value) → Database Value → Prop
  | start : Run foreignKeys database [] database
  | write {trace : List (Step Value)} {current : Database Value} {change : Change Value} :
      Run foreignKeys database trace current →
      current change.table change.row = some change.before →
      Run foreignKeys database (trace ++ [.write change]) (change.apply current)
  | act {trace : List (Step Value)} {current : Database Value} {parent : Step Value}
      {edge : ForeignKeyEdge} {change : Change Value} :
      Run foreignKeys database trace current → parent ∈ trace →
      Fires foreignKeys edge parent.change change →
      current change.table change.row = some change.before →
      Run foreignKeys database (trace ++ [.act parent edge change]) (change.apply current)

/-- What is known of a change without looking at rows: the statement's event for its own changes,
and the child columns for those of an action. -/
def Step.event (statement : CascadeWriteEvent) : Step Value → CascadeWriteEvent
  | .write _ => statement
  | .act _ edge change =>
    match change.kind with
    | .delete => ⟨edge.childTable, {allColumns}, .delete⟩
    | .update => ⟨edge.childTable, edge.childColumns.toFinset, .update⟩

/-- An action is announced: its foreign key is loaded, what is known of the parent's change touches
it as it is spelled and says whether rows are deleted, and only child columns change. -/
structure AnnouncedBy (context : ConflictCheckContext) (event : CascadeWriteEvent)
    (parent : Change Value) (edge : ForeignKeyEdge) (change : Change Value) : Prop where
  loaded : edge ∈ context.schemaCache.foreignKeyEdges
  kind : event.kind = parent.kind
  touches : Touches event edge
  columns : change.kind = .update → ∀ column, change.Changes column → column ∈ edge.childColumns

def Step.Announced (context : ConflictCheckContext) (statement : CascadeWriteEvent) :
    Step Value → Prop
  | .write _ => True
  | .act parent edge change =>
    AnnouncedBy context (parent.event statement) parent.change edge change

variable {context : ConflictCheckContext} {initial : CascadeWriteEvent}
  {foreignKeys : ForeignKeys Value}

/-- The child event of an edge is what is known of the change that its action makes. -/
lemma childEvent_of_fires {edge : ForeignKeyEdge} {parent : Step Value} {child : Change Value}
    (h : Fires foreignKeys edge parent.change child) :
    cascadeChildEvent edge (actionOf edge parent.change.kind) parent.change.kind =
      some ((Step.act parent edge child).event initial) := by
  have hwritten := h.written
  have hupdate : ∀ row : Row Value, child.after = some row →
      (Step.act parent edge child).event initial =
        ⟨edge.childTable, edge.childColumns.toFinset, .update⟩ := by
    intro row hafter
    have hkind : child.kind = .update := by simp [Change.kind, hafter]
    simp only [Step.event, hkind]
  cases haction : actionOf edge parent.change.kind with
  | noAction => simp [haction, childAfter] at hwritten
  | restrict => simp [haction, childAfter] at hwritten
  | setNull =>
    simp only [haction, childAfter, Option.some.injEq] at hwritten
    rw [hupdate _ hwritten.symm]
    simp [cascadeChildEvent]
  | setDefault =>
    simp only [haction, childAfter, Option.some.injEq] at hwritten
    rw [hupdate _ hwritten.symm]
    simp [cascadeChildEvent]
  | cascade =>
    simp only [haction, childAfter, Option.some.injEq] at hwritten
    cases hafter : parent.change.after with
    | none =>
      have hparent : parent.change.kind = .delete := by simp [Change.kind, hafter]
      have hdeleted : child.after = none := by simpa [hafter] using hwritten.symm
      have hkind : child.kind = .delete := by simp [Change.kind, hdeleted]
      simp [cascadeChildEvent, hparent, Step.event, hkind]
    | some after =>
      have hparent : parent.change.kind = .update := by simp [Change.kind, hafter]
      rw [hafter, Option.map_some] at hwritten
      rw [hupdate _ hwritten.symm]
      simp [cascadeChildEvent, hparent]

/-- In a run whose actions are announced, each of them makes the change of a triggered event. -/
theorem Run.triggered {database final : Database Value} {trace : List (Step Value)}
    (h : Run foreignKeys database trace final)
    (hannounced : ∀ step ∈ trace, step.Announced context initial) :
    ∀ step ∈ trace, Triggered context initial (step.event initial) ∨
      ∃ change, step = .write change := by
  induction h with
  | start => simp
  | write _ _ ih =>
    intro step hstep
    rcases List.mem_append.mp hstep with hstep | hstep
    · exact ih (fun step hin => hannounced step (List.mem_append_left _ hin)) step hstep
    · exact .inr ⟨_, List.mem_singleton.mp hstep⟩
  | @act trace current parent edge change hrun hparent hfires _ ih =>
    have hearlier := ih fun step hin => hannounced step (List.mem_append_left _ hin)
    intro step hstep
    rcases List.mem_append.mp hstep with hstep | hstep
    · exact hearlier step hstep
    · have hact : AnnouncedBy context (parent.event initial) parent.change edge change :=
        hannounced (.act parent edge change) (by simp)
      rw [List.mem_singleton.mp hstep]
      refine .inl (triggered_of_triggers ?_ ⟨edge, hact.loaded, hact.touches, ?_⟩)
      · rcases hearlier parent hparent with htriggered | ⟨written, rfl⟩
        · exact .inr htriggered
        · exact .inl rfl
      · rw [hact.kind]
        exact childEvent_of_fires hfires

/-- Every cell that an announced action changes in a run is covered by the updated map. -/
theorem Run.covered (hlisted : EdgesListed context) {database final : Database Value}
    {trace : List (Step Value)} (h : Run foreignKeys database trace final)
    (hannounced : ∀ step ∈ trace, step.Announced context initial) {parent : Step Value}
    {edge : ForeignKeyEdge} {change : Change Value} (hact : .act parent edge change ∈ trace)
    {column : String} (hcolumn : change.Changes column) :
    Covers ((cascadeEffectsForEvent context initial).tablesUpdatedToColumnsUpdated.columns
      edge.childTable) column := by
  have htriggered : Triggered context initial ((Step.act parent edge change).event initial) := by
    simpa using h.triggered hannounced _ hact
  have hcovers := (coversEvent hlisted htriggered).updated
  cases hkind : change.kind with
  | delete =>
    simp only [Step.event, hkind] at hcovers
    exact .inr (or_self_iff.mp (hcovers allColumns (Finset.mem_singleton_self _)))
  | update =>
    simp only [Step.event, hkind] at hcovers
    have hchild : column ∈ edge.childColumns := (hannounced _ hact).columns hkind column hcolumn
    exact hcovers column (List.mem_toFinset.mpr hchild)

lemma Run.childTable {database final : Database Value} {trace : List (Step Value)}
    (h : Run foreignKeys database trace final) {parent : Step Value} {edge : ForeignKeyEdge}
    {change : Change Value} (hact : .act parent edge change ∈ trace) :
    change.table = edge.childTable := by
  induction h with
  | start => cases hact
  | write _ _ ih =>
    rcases List.mem_append.mp hact with hact | hact
    · exact ih hact
    · simp at hact
  | act _ _ hfires _ ih =>
    rcases List.mem_append.mp hact with hact | hact
    · exact ih hact
    · cases List.mem_singleton.mp hact
      exact hfires.childTable

/-! What a schema needs for its actions to be announced. -/

lemma assign_ne {row : Row Value} {values : List (String × Value)} {column : String}
    (h : row column ≠ assign row values column) : column ∈ values.map Prod.fst := by
  by_contra hnot
  refine h ?_
  have hlookup : values.lookup column = none := by
    rw [List.lookup_eq_none_iff]
    intro item hitem
    rw [bne_iff_ne]
    rintro rfl
    exact hnot (List.mem_map.mpr ⟨item, hitem, rfl⟩)
  simp [assign, hlookup]

/-- The loaded foreign keys name their parents as they are declared, and no column is generated. -/
structure Declared (context : ConflictCheckContext) (foreignKeys : ForeignKeys Value) : Prop where
  loaded : foreignKeys.edges = context.schemaCache.foreignKeyEdges
  parent : ∀ edge ∈ foreignKeys.edges, foreignKeys.parent edge = edge.parentTable
  parentColumns : ∀ edge ∈ foreignKeys.edges, foreignKeys.parentColumns edge = edge.parentColumns
  stored : ∀ table row, foreignKeys.stored table row = row

/-- A change that an event announces: a deletion, or an update of its columns. -/
structure Announces (event : CascadeWriteEvent) (change : Change Value) : Prop where
  table : change.table = event.table
  kind : change.kind = event.kind
  columns : event.kind = .update → ∀ column, change.Changes column →
    Covers event.columns column

lemma touches_of_fires (hdeclared : Declared context foreignKeys) {edge : ForeignKeyEdge}
    {parent child : Change Value} {event : CascadeWriteEvent}
    (h : Fires foreignKeys edge parent child) (hevent : Announces event parent) :
    Touches event edge := by
  refine ⟨?_, ?_⟩
  · rw [← hdeclared.parent edge h.edge_mem, ← h.parentTable, hevent.table]
  · cases hkind : event.kind with
    | delete => exact .inl rfl
    | update =>
      obtain ⟨column, hcolumn, hchanges⟩ := h.key_changed
      rw [hdeclared.parentColumns edge h.edge_mem] at hcolumn
      have hmem : column ∈ edge.parentColumns.toFinset := List.mem_toFinset.mpr hcolumn
      refine .inr (meets_iff.mpr ⟨?_, Finset.ne_empty_of_mem hmem, ?_⟩)
      · rcases hevent.columns hkind column hchanges with hc | hc <;>
          exact Finset.ne_empty_of_mem hc
      · rcases hevent.columns hkind column hchanges with hc | hc
        · exact .inr (.inr ⟨column, hc, hmem⟩)
        · exact .inl hc

lemma columns_of_fires (hdeclared : Declared context foreignKeys) {edge : ForeignKeyEdge}
    {parent child : Change Value} (h : Fires foreignKeys edge parent child)
    (hkind : child.kind = .update) {column : String} (hchanges : child.Changes column) :
    column ∈ edge.childColumns := by
  have hwritten := h.written
  have hassigned : ∀ values : List (String × Value), child.after = some (assign child.before values) →
      values.map Prod.fst ⊆ edge.childColumns → column ∈ edge.childColumns := by
    intro values hafter hsub
    simp only [Change.Changes, hafter] at hchanges
    exact hsub (assign_ne hchanges)
  cases haction : actionOf edge parent.kind with
  | noAction => simp [haction, childAfter] at hwritten
  | restrict => simp [haction, childAfter] at hwritten
  | setNull =>
    simp only [haction, childAfter, hdeclared.stored, Option.some.injEq] at hwritten
    exact hassigned _ hwritten.symm (by simp [Function.comp_def])
  | setDefault =>
    simp only [haction, childAfter, hdeclared.stored, Option.some.injEq] at hwritten
    exact hassigned _ hwritten.symm (by simp [Function.comp_def])
  | cascade =>
    simp only [haction, childAfter, hdeclared.stored, Option.some.injEq] at hwritten
    cases hafter : parent.after with
    | none => simp [Change.kind, ← hwritten, hafter] at hkind
    | some after =>
      rw [hafter, Option.map_some] at hwritten
      refine hassigned _ hwritten.symm fun name hname => ?_
      obtain ⟨item, hitem, rfl⟩ := List.mem_map.mp hname
      exact (List.of_mem_zip hitem).1

/-- Where foreign keys name their parents as declared and nothing is generated, all actions are
announced in each run whose own changes the statement announces. -/
theorem Run.announced (hdeclared : Declared context foreignKeys)
    {database final : Database Value} {trace : List (Step Value)}
    (h : Run foreignKeys database trace final)
    (hstatement : ∀ change, .write change ∈ trace → Announces initial change) :
    ∀ step ∈ trace, step.Announced context initial ∧
      Announces (step.event initial) step.change := by
  induction h with
  | start => simp
  | @write trace current change _ _ ih =>
    intro step hstep
    rcases List.mem_append.mp hstep with hin | hlast
    · exact ih (fun change hin => hstatement change (List.mem_append_left _ hin)) step hin
    · cases List.mem_singleton.mp hlast
      exact ⟨trivial, hstatement change hstep⟩
  | @act trace current parent edge change _ hparent hfires _ ih =>
    have hearlier := ih fun change hin => hstatement change (List.mem_append_left _ hin)
    intro step hstep
    rcases List.mem_append.mp hstep with hin | hlast
    · exact hearlier step hin
    · cases List.mem_singleton.mp hlast
      have hevent := (hearlier parent hparent).2
      refine ⟨⟨hdeclared.loaded ▸ hfires.edge_mem, hevent.kind.symm,
        touches_of_fires hdeclared hfires hevent,
        fun hkind column => columns_of_fires hdeclared hfires hkind⟩, ?_⟩
      cases hkind : change.kind with
      | delete =>
        simp only [Step.event, hkind]
        exact ⟨hfires.childTable, hkind, fun hupdate => by cases hupdate⟩
      | update =>
        simp only [Step.event, hkind]
        exact ⟨hfires.childTable, hkind, fun _ column hchanges =>
          .inl (List.mem_toFinset.mpr (columns_of_fires hdeclared hfires hkind hchanges))⟩

end

/-- The effects of an event are its transitive closure. -/
structure TransitiveClosure (context : ConflictCheckContext) (initial : CascadeWriteEvent)
    (effects : CascadeEffects) : Prop where
  /-- The worklist loop ends with these effects. -/
  terminates : Runs context [(initial, 0)] [] .none effects
  /-- Within the depth limit they are exactly those of the least closed set of events. -/
  exact : ¬ ExceedsDepth context initial → ExactEffects context initial effects
  /-- Beyond it every triggered table is marked in both maps. -/
  unknown : ExceedsDepth context initial → ∀ event, Triggered context initial event →
    allColumns ∈ effects.tablesUpdatedToColumnsUpdated.columns event.table ∧
      allColumns ∈ effects.tablesReferencedToColumnsReferenced.columns event.table
  /-- In both cases the triggered events and the touched edges are covered. -/
  events : ∀ event, Triggered context initial event → CoversEvent context effects event
  edges : ∀ event, event = initial ∨ Triggered context initial event →
    ∀ edge ∈ context.schemaCache.foreignKeyEdges, Touches event edge →
      ∀ column ∈ edge.childColumns,
        Covers (effects.tablesReferencedToColumnsReferenced.columns edge.childTable) column
  /-- And so is every cell that the foreign-key actions of a run change, where they are announced. -/
  cells : ∀ (Value : Type) (foreignKeys : ForeignKeys Value) (database : Database Value) trace final,
    Run foreignKeys database trace final → (∀ step ∈ trace, step.Announced context initial) →
      ∀ parent edge change, .act parent edge change ∈ trace → ∀ column, change.Changes column →
        Covers (effects.tablesUpdatedToColumnsUpdated.columns change.table) column
  /-- They are where the statement changes what its event says, in a schema that names parents as
  declared and generates no columns. -/
  declaredCells : ∀ (Value : Type) (foreignKeys : ForeignKeys Value) (database : Database Value) trace
    final, Declared context foreignKeys → Run foreignKeys database trace final →
      (∀ change, .write change ∈ trace → Announces initial change) →
      ∀ parent edge change, .act parent edge change ∈ trace → ∀ column, change.Changes column →
        Covers (effects.tablesUpdatedToColumnsUpdated.columns change.table) column

/-- The cascade effects of any event, in any schema whose edges the loader listed, are its
transitive closure, and cover what SQLite's actions change in every run whose actions are
announced. -/
theorem transitiveClosure {context : ConflictCheckContext} (hlisted : EdgesListed context)
    (initial : CascadeWriteEvent) :
    TransitiveClosure context initial (cascadeEffectsForEvent context initial) where
  terminates := runs_cascadeLoop context initial le_rfl
  exact := exactEffects
  unknown hdepth _ htriggered :=
    have hmarked := marked_of_exceeds hlisted hdepth htriggered
    ⟨hmarked.updated, hmarked.referenced⟩
  events _ htriggered := coversEvent hlisted htriggered
  edges _ hevent _ hedge htouches := coversEdge hlisted hevent hedge htouches
  cells _ _ _ _ _ hrun hannounced _ _ _ hact _ hcolumn := by
    rw [hrun.childTable hact]
    exact hrun.covered hlisted hannounced hact hcolumn
  declaredCells _ _ _ _ _ hdeclared hrun hstatement _ _ _ hact _ hcolumn := by
    rw [hrun.childTable hact]
    have hannounced := hrun.announced hdeclared hstatement
    exact hrun.covered hlisted (fun step hin => (hannounced step hin).1) hact hcolumn

/-- `teams(id PRIMARY KEY, lead REFERENCES users)`, `users(id PRIMARY KEY, team REFERENCES teams(id))`. -/
def mutualKeys : String → List ForeignKeyRow
  | "teams" => [⟨0, 0, "users", "lead", none, "CASCADE", "SET NULL"⟩]
  | "users" => [⟨0, 0, "teams", "team", some "id", "CASCADE", "CASCADE"⟩]
  | _ => []

def mutualContext : ConflictCheckContext where
  schemaCache :=
    { tableColumns := [("teams", {"id", "lead"}), ("users", {"id", "team"})]
      primaryKeyColumns := [("teams", ["id"]), ("users", ["id"])]
      keyColumnSets := [("teams", [{"id"}]), ("users", [{"id"}])]
      integerPrimaryKeyColumns := [("teams", some "id"), ("users", some "id")]
      foreignKeyEdges := loadForeignKeyEdges mutualKeys
        [("teams", {"id", "lead"}), ("users", {"id", "team"})]
        [("teams", ["id"]), ("users", ["id"])] }
  pragmaIntegerPrimaryKey := fun _ => none

/-- Deleting a team deletes its users, and the teams that they lead lose their lead. -/
theorem transitiveClosure_mutual :
    TransitiveClosure mutualContext ⟨"teams", {allColumns}, .delete⟩
        (cascadeEffectsForEvent mutualContext ⟨"teams", {allColumns}, .delete⟩) ∧
      (cascadeEffectsForEvent mutualContext ⟨"teams", {allColumns}, .delete⟩).writeEvents =
        [⟨"users", {allColumns}, .delete⟩, ⟨"teams", {"lead"}, .update⟩] :=
  ⟨transitiveClosure (edgesListed_of_load rfl) _, by decide +kernel⟩

/-! A parent in another case: `orders(id PRIMARY KEY, buyer REFERENCES Users(id) ON DELETE CASCADE)`
and `users(id PRIMARY KEY)`. -/

def ordersKeys : String → List ForeignKeyRow
  | "orders" => [⟨0, 0, "Users", "buyer", some "id", "NO ACTION", "CASCADE"⟩]
  | _ => []

def ordersContext : ConflictCheckContext where
  schemaCache :=
    { tableColumns := [("orders", {"id", "buyer"}), ("users", {"id"})]
      primaryKeyColumns := [("orders", ["id"]), ("users", ["id"])]
      keyColumnSets := [("orders", [{"id"}]), ("users", [{"id"}])]
      integerPrimaryKeyColumns := [("orders", none), ("users", none)]
      foreignKeyEdges := loadForeignKeyEdges ordersKeys
        [("orders", {"id", "buyer"}), ("users", {"id"})] [("orders", ["id"]), ("users", ["id"])] }
  pragmaIntegerPrimaryKey := fun _ => none

def buyerEdge : ForeignKeyEdge := ⟨"orders", ["buyer"], "Users", ["id"], .noAction, .cascade⟩

def ordersForeignKeys : ForeignKeys ℕ where
  edges := ordersContext.schemaCache.foreignKeyEdges
  tables := ["orders", "users"]
  columns := fun
    | "orders" => ["id", "buyer"]
    | _ => ["id"]
  stored _ row := row
  null := 0
  default _ _ := 0
  sameKey child parent := child = parent ∧ parent ≠ 0

/-- User 7, who is the buyer of order 1. -/
def ordersRows : Database ℕ
  | "users", 1 => some fun _ => 7
  | "orders", 1 => some fun column => if column = "id" then 1 else 7
  | _, _ => none

def userDeleted : Change ℕ := ⟨"users", 1, fun _ => 7, none⟩

def orderDeleted : Change ℕ := ⟨"orders", 1, fun column => if column = "id" then 1 else 7, none⟩

lemma fires_buyerEdge : Fires ordersForeignKeys buyerEdge userDeleted orderDeleted where
  edge_mem := by decide +kernel
  parentTable := by decide +kernel
  childTable := rfl
  key_changed := ⟨"id", by decide +kernel, trivial⟩
  refers := .cons ⟨rfl, by decide⟩ .nil
  written := rfl

/-- `DELETE FROM users` deletes the order with its buyer, and the map knows nothing of orders. -/
theorem otherCase_not_covered :
    EdgesListed ordersContext ∧ Announces ⟨"users", {allColumns}, .delete⟩ userDeleted ∧
      (∃ final, Run ordersForeignKeys ordersRows
        [.write userDeleted, .act (.write userDeleted) buyerEdge orderDeleted] final) ∧
      ∀ column, orderDeleted.Changes column ∧
        ¬ Covers ((cascadeEffectsForEvent ordersContext
          ⟨"users", {allColumns}, .delete⟩).tablesUpdatedToColumnsUpdated.columns
            orderDeleted.table) column := by
  have hnothing : (cascadeEffectsForEvent ordersContext
      ⟨"users", {allColumns}, .delete⟩).tablesUpdatedToColumnsUpdated.columns
        orderDeleted.table = ∅ := by decide +kernel
  have hwrite : Run ordersForeignKeys ordersRows [.write userDeleted]
      (userDeleted.apply ordersRows) := Run.start.write rfl
  refine ⟨edgesListed_of_load rfl, ⟨rfl, rfl, fun hupdate => by cases hupdate⟩,
    ⟨orderDeleted.apply (userDeleted.apply ordersRows), ?_⟩, fun column => ⟨trivial, ?_⟩⟩
  · exact hwrite.act (List.mem_singleton.mpr rfl) fires_buyerEdge rfl
  · rw [hnothing]
    simp [Covers]

end SqliteReconcile.CascadeClosure
