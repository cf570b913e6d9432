import SqliteReconcile.IdentifierCase

/-! Conflict verdicts on two spellings of the same transactions. -/
namespace SqliteReconcile.IdentifierCase
open Identifiers Utils Models CascadeMetadata SqlMetadata StaticAnalysis RemainingMetadata
  StatementSyntax

namespace Respelling

variable {r : Respelling} {context : ConflictCheckContext}
  {m m' o o' : StatementMetadata}

lemma Metadata.requiredUpdatedTable (h : r.Metadata context m m') :
    requiredUpdatedTable m' = r.table (requiredUpdatedTable m) := by
  unfold Models.requiredUpdatedTable
  rw [h.tableUpdated, getD_table]

lemma Metadata.isInsert (h : r.Metadata context m m') :
    isInsertStatement m' = isInsertStatement m := by
  simp only [isInsertStatement, h.parsedKind]

lemma Metadata.isUpdate (h : r.Metadata context m m') :
    isUpdateStatement m' = isUpdateStatement m := by
  simp only [isUpdateStatement, h.parsedKind]

lemma Metadata.isDelete (h : r.Metadata context m m') :
    isDeleteStatement m' = isDeleteStatement m := by
  simp only [isDeleteStatement, h.parsedKind]

lemma Metadata.tableUpdated_iff (h : r.Metadata context m m') (t : String) :
    m'.tableUpdated = some (r.table t) ↔ m.tableUpdated = some t := by
  rw [h.tableUpdated]
  cases m.tableUpdated with
  | none => simp
  | some u => simp [r.table_injective.eq_iff]

lemma metadataWriteOverlap_iff (t : String) (cs : Finset String) :
    metadataWriteOverlap m t cs ≠ ∅ ↔ m.tableUpdated = some t ∧ Meets m.columnsUpdated cs := by
  unfold metadataWriteOverlap
  by_cases ht : m.tableUpdated = some t <;> simp [ht, Meets]

lemma Metadata.meets_columnsUpdated (h : r.Metadata context m m') {t : String}
    (ht : m.tableUpdated = some t) (cs : Finset String) :
    Meets m'.columnsUpdated (r.columns t cs) ↔ Meets m.columnsUpdated cs := by
  have hreq : Models.requiredUpdatedTable m = t := by simp [Models.requiredUpdatedTable, ht]
  rw [h.columnsUpdated, hreq, r.meets_columns]

lemma Metadata.writeOverlap (h : r.Metadata context m m') (t : String) (cs : Finset String) :
    metadataWriteOverlap m' (r.table t) (r.columns t cs) ≠ ∅ ↔
      metadataWriteOverlap m t cs ≠ ∅ := by
  rw [metadataWriteOverlap_iff, metadataWriteOverlap_iff, h.tableUpdated_iff]
  exact and_congr_right fun ht => h.meets_columnsUpdated ht cs

lemma Metadata.sameWrittenTable (hm : r.Metadata context m m') (ho : r.Metadata context o o') :
    sameWrittenTable m' o' = sameWrittenTable m o := by
  unfold StaticAnalysis.sameWrittenTable
  rw [hm.tableUpdated, ho.tableUpdated]
  cases m.tableUpdated with
  | none => simp
  | some t =>
    cases o.tableUpdated with
    | none => simp
    | some u => simp [r.table_injective.eq_iff]

lemma Metadata.directWriteWriteOverlap (hm : r.Metadata context m m')
    (ho : r.Metadata context o o') :
    directWriteWriteOverlap m' o' = directWriteWriteOverlap m o := by
  unfold StaticAnalysis.directWriteWriteOverlap
  simp only [hm.sameWrittenTable ho, hm.isDelete, ho.isDelete, hm.isInsert, ho.isInsert,
    hm.requiredUpdatedTable, hm.columnsUpdated, ho.writeOverlap]

lemma Metadata.writeWriteOverlap (hm : r.Metadata context m m') (ho : r.Metadata context o o') :
    metadataWriteWriteOverlap m' o' = metadataWriteWriteOverlap m o := by
  unfold metadataWriteWriteOverlap
  simp only [hm.directWriteWriteOverlap ho, hm.hasCascadeEffects, ho.hasCascadeEffects,
    columnsByTableOverlap_maps hm.updated ho.updated]

def ImplicitKeyConflict (context : ConflictCheckContext) (insert other : StatementMetadata) :
    Prop :=
  ∃ key, omittedIntegerPrimaryKeyColumn context insert = some key ∧
    StaticAnalysis.sameWrittenTable insert other ∧
    ((omittedIntegerPrimaryKeyColumn context other).isSome ∨
      (isUpdateStatement other ∧
        metadataWriteOverlap other (Models.requiredUpdatedTable insert) {key} ≠ ∅))

lemma implicitInsertKeyConflictsFrom_iff (insertLabel otherLabel : String) :
    ((implicitInsertKeyConflictsFrom context insertLabel m otherLabel o).1 ≠ [] ↔
      ImplicitKeyConflict context m o) ∧
    ((implicitInsertKeyConflictsFrom context insertLabel m otherLabel o).2 →
      ImplicitKeyConflict context m o) := by
  unfold implicitInsertKeyConflictsFrom ImplicitKeyConflict
  cases hkey : omittedIntegerPrimaryKeyColumn context m with
  | none => simp
  | some key =>
    by_cases hsame : StaticAnalysis.sameWrittenTable m o
    · cases hother : omittedIntegerPrimaryKeyColumn context o with
      | some k => simp [hsame]
      | none =>
        by_cases hupdate : isUpdateStatement o
        · simp only [implicitInsertKeyUpdateConflict, hsame, hupdate]
          by_cases hoverlap :
              metadataWriteOverlap o (Models.requiredUpdatedTable m) {key} = ∅ <;>
            simp [hoverlap]
        · simp [implicitInsertKeyUpdateConflict, hsame, hupdate]
    · simp [hsame]

lemma implicitInsertKeyConflicts_iff :
    implicitInsertKeyConflicts context m o ≠ [] ↔
      ImplicitKeyConflict context m o ∨ ImplicitKeyConflict context o m := by
  have hours := @implicitInsertKeyConflictsFrom_iff context m o "ours" "theirs"
  have htheirs := @implicitInsertKeyConflictsFrom_iff context o m "theirs" "ours"
  unfold implicitInsertKeyConflicts
  dsimp only
  split_ifs with hstop
  · rw [hours.1]
    exact ⟨.inl, fun _ => hours.2 hstop⟩
  · rw [ne_eq, List.append_eq_nil_iff, not_and_or]
    exact or_congr hours.1 htheirs.1

lemma Metadata.implicitKeyConflict (hm : r.Metadata context m m')
    (ho : r.Metadata context o o') :
    ImplicitKeyConflict context m' o' ↔ ImplicitKeyConflict context m o := by
  unfold ImplicitKeyConflict
  rw [hm.omittedKey, ho.omittedKey, hm.sameWrittenTable ho, ho.isUpdate,
    hm.requiredUpdatedTable]
  refine exists_congr fun key => and_congr_right fun hkey => ?_
  have hfixed : r.columns (Models.requiredUpdatedTable m) {key} = {key} := by
    simp [columns, hm.omittedKeyColumn key hkey]
  have hoverlap := ho.writeOverlap (Models.requiredUpdatedTable m) {key}
  rw [hfixed] at hoverlap
  rw [hoverlap]

structure Transactions (r : Respelling) (context : ConflictCheckContext)
    (t t' : LoggedTransaction) : Prop where
  statements : List.Forall₂ (fun s s' => r.Metadata context s.metadata s'.metadata)
    t.statements t'.statements
  metadata : t.metadata = transactionMetadata (t.statements.map (·.metadata))
  metadata' : t'.metadata = transactionMetadata (t'.statements.map (·.metadata))

variable {t t' u u' : LoggedTransaction}

lemma exists_forall₂ {α : Type} {R : α → α → Prop} {P P' : α → Prop} {xs xs' : List α}
    (h : List.Forall₂ R xs xs') (hP : ∀ x x', R x x' → (P' x' ↔ P x)) :
    (∃ x ∈ xs', P' x) ↔ ∃ x ∈ xs, P x := by
  induction h with
  | nil => simp
  | cons hx _ ih => simp only [List.mem_cons, exists_eq_or_imp, hP _ _ hx, ih]

lemma foldl_maps {R : StatementMetadata → StatementMetadata → Prop}
    (field : StatementMetadata → ColumnMap)
    (hfield : ∀ s s', R s s' → r.Maps (field s) (field s'))
    {ss ss' : List StatementMetadata} (h : List.Forall₂ R ss ss') {acc acc' : ColumnMap}
    (hacc : r.Maps acc acc') :
    r.Maps (ss.foldl (fun a s => unionColumnMaps a (field s)) acc)
      (ss'.foldl (fun a s => unionColumnMaps a (field s)) acc') := by
  induction h generalizing acc acc' with
  | nil => exact hacc
  | cons hs _ ih => exact ih (hacc.unionColumnMaps (hfield _ _ hs))

lemma Transactions.statementMetadata (h : r.Transactions context t t') :
    List.Forall₂ (r.Metadata context) (t.statements.map (·.metadata))
      (t'.statements.map (·.metadata)) := by
  rw [List.forall₂_map_left_iff, List.forall₂_map_right_iff]
  exact h.statements

lemma Transactions.updated (h : r.Transactions context t t') :
    r.Maps t.metadata.tablesUpdatedToColumnsUpdated t'.metadata.tablesUpdatedToColumnsUpdated := by
  rw [h.metadata, h.metadata']
  exact foldl_maps (·.tablesUpdatedToColumnsUpdated) (fun _ _ hs => hs.updated)
    h.statementMetadata r.maps_empty

lemma Transactions.referenced (h : r.Transactions context t t') :
    r.Maps t.metadata.tablesReferencedToColumnsReferenced
      t'.metadata.tablesReferencedToColumnsReferenced := by
  rw [h.metadata, h.metadata']
  exact foldl_maps (·.tablesReferencedToColumnsReferenced) (fun _ _ hs => hs.referenced)
    h.statementMetadata r.maps_empty

lemma Transactions.writeWriteOverlap (h : r.Transactions context t t')
    (hu : r.Transactions context u u') :
    transactionWriteWriteOverlap t'.metadata u'.metadata ↔
      transactionWriteWriteOverlap t.metadata u.metadata := by
  simp only [transactionWriteWriteOverlap, h.metadata, h.metadata', hu.metadata, hu.metadata',
    transactionMetadata, List.any_eq_true]
  refine exists_forall₂ h.statementMetadata fun s s' hs => ?_
  refine exists_forall₂ hu.statementMetadata fun o o' ho => ?_
  rw [hs.writeWriteOverlap ho]

lemma Transactions.writeReadOverlap (h : r.Transactions context t t')
    (hu : r.Transactions context u u') :
    transactionWriteReadOverlap t'.metadata u'.metadata =
      transactionWriteReadOverlap t.metadata u.metadata :=
  columnsByTableOverlap_maps h.updated hu.referenced

lemma flatMap_ne_nil {α β : Type} {xs : List α} {f : α → List β} :
    xs.flatMap f ≠ [] ↔ ∃ x ∈ xs, f x ≠ [] := by
  simp [List.flatMap_eq_nil_iff]

lemma Transactions.implicitConflicts (h : r.Transactions context t t')
    (hu : r.Transactions context u u') :
    transactionImplicitInsertKeyConflicts context t'.metadata u'.metadata ≠ [] ↔
      transactionImplicitInsertKeyConflicts context t.metadata u.metadata ≠ [] := by
  simp only [transactionImplicitInsertKeyConflicts, flatMap_ne_nil, h.metadata, h.metadata',
    hu.metadata, hu.metadata', transactionMetadata, implicitInsertKeyConflicts_iff]
  refine exists_forall₂ h.statementMetadata fun s s' hs => ?_
  refine exists_forall₂ hu.statementMetadata fun o o' ho => ?_
  rw [hs.implicitKeyConflict ho, ho.implicitKeyConflict hs]

theorem Transactions.staticAnalysis (h : r.Transactions context t t')
    (hu : r.Transactions context u u') (enabledKinds : Option (Finset ConflictKind))
    (currentBranch : Option BranchName) (oursLabel theirsLabel : Option String)
    (kind : ConflictKind) :
    (staticAnalysisMatching context t'.metadata u'.metadata enabledKinds currentBranch oursLabel
      theirsLabel).hasKind kind ↔
    (staticAnalysisMatching context t.metadata u.metadata enabledKinds currentBranch oursLabel
      theirsLabel).hasKind kind := by
  rw [staticAnalysisMatching_hasKind, staticAnalysisMatching_hasKind, h.writeWriteOverlap hu,
    h.implicitConflicts hu, h.writeReadOverlap hu, hu.writeReadOverlap h]

lemma fixed_table {e : CascadeWriteEvent} (h : r.event e = e) : r.table e.table = e.table :=
  congrArg CascadeWriteEvent.table h

lemma fixed_columns {e : CascadeWriteEvent} (h : r.event e = e) :
    r.columns e.table e.columns = e.columns :=
  congrArg CascadeWriteEvent.columns h

lemma meets_fixed {t : String} {left right : Finset String} (h : r.columns t left = left) :
    Meets left (r.columns t right) ↔ Meets left right := by
  have hmeets := @meets_columns r t left right
  rwa [h] at hmeets

lemma Metadata.statementOverlaps (h : r.Metadata context m m') (field : CounterField)
    (t : String) (cs : Finset String) :
    statementOverlaps context field (r.table t) (r.columns t cs) m' ↔
      statementOverlaps context field t cs m := by
  unfold RemainingMetadata.statementOverlaps
  rw [h.statementKind, h.requiredUpdatedTable, h.columnsUpdated, h.events, h.omittedKey,
    h.referenced.columns, r.meets_columns, r.table_injective.eq_iff]
  refine or_congr ?_ (or_congr Iff.rfl (or_congr ?_ ?_))
  · refine and_congr_right fun _ => and_congr_right fun ht => ?_
    rw [ht, r.meets_columns]
  · refine exists_congr fun e => and_congr_right fun he => and_congr_right fun _ => ?_
    have hfixed := h.fixedEvents e he
    rw [table_eq_iff (fixed_table hfixed)]
    refine and_congr_right fun ht => ?_
    subst ht
    exact meets_fixed (fixed_columns hfixed)
  · refine and_congr_right fun _ => and_congr_right fun _ => and_congr_right fun ht => ?_
    refine exists_congr fun key => and_congr_right fun hkey => ?_
    have hfixed : r.columns t {key} = {key} := by
      simp [columns, ht, h.omittedKeyColumn key hkey]
    exact meets_fixed hfixed

structure Indexes (r : Respelling) (i i' : RemainingMetadataIndex) : Prop where
  isEmpty : i'.isEmpty = i.isEmpty
  overlap : ∀ field t cs, columnCounterOverlap (i'.counts field) (r.table t) (r.columns t cs) =
    columnCounterOverlap (i.counts field) t cs

lemma indexes_fromTransactions {ts ts' : List LoggedTransaction}
    (h : List.Forall₂ (r.Transactions context) ts ts') :
    r.Indexes (RemainingMetadataIndex.fromTransactions context ts)
      (RemainingMetadataIndex.fromTransactions context ts') where
  isEmpty := by
    have hnil : ts' = [] ↔ ts = [] := by cases h <;> simp
    rw [Bool.eq_iff_iff, isEmpty_fromTransactions, isEmpty_fromTransactions, hnil]
  overlap := by
    intro field t cs
    rw [Bool.eq_iff_iff, columnCounterOverlap_fromTransactions,
      columnCounterOverlap_fromTransactions]
    refine exists_forall₂ h fun u u' hu => ?_
    exact exists_forall₂ hu.statements fun s s' hs => hs.statementOverlaps field t cs

variable {i i' : RemainingMetadataIndex}

lemma Indexes.overlap_event (h : r.Indexes i i') (field : CounterField) {e : CascadeWriteEvent}
    (he : r.event e = e) :
    columnCounterOverlap (i'.counts field) e.table e.columns =
      columnCounterOverlap (i.counts field) e.table e.columns := by
  have hoverlap := h.overlap field e.table e.columns
  rwa [fixed_table he, fixed_columns he] at hoverlap

lemma Indexes.overlap_all (h : r.Indexes i i') (field : CounterField) (t : String) :
    columnCounterOverlap (i'.counts field) (r.table t) {allColumns} =
      columnCounterOverlap (i.counts field) t {allColumns} := by
  have hoverlap := h.overlap field t {allColumns}
  rwa [r.columns_allColumns] at hoverlap

lemma Indexes.eventWriteWrite (h : r.Indexes i i') {e : CascadeWriteEvent} (he : r.event e = e) :
    eventWriteWriteConflictPossible i' e = eventWriteWriteConflictPossible i e := by
  unfold eventWriteWriteConflictPossible
  have hall := h.overlap_all .update e.table
  rw [fixed_table he] at hall
  cases e.kind with
  | update => exact h.overlap_event .writeWrite he
  | delete => exact hall

lemma Indexes.statementWriteWrite (h : r.Indexes i i') (hm : r.Metadata context m m') :
    statementWriteWriteConflictPossible i' m' = statementWriteWriteConflictPossible i m := by
  unfold statementWriteWriteConflictPossible
  have hevents : m'.cascadeWriteEvents.any (eventWriteWriteConflictPossible i') =
      m.cascadeWriteEvents.any (eventWriteWriteConflictPossible i) := by
    rw [hm.events, Bool.eq_iff_iff, List.any_eq_true, List.any_eq_true]
    refine exists_congr fun e => and_congr_right fun he => ?_
    rw [h.eventWriteWrite (hm.fixedEvents e he)]
  have hww := h.overlap .writeWrite (Models.requiredUpdatedTable m) m.columnsUpdated
  have hdelete := h.overlap_all .update (Models.requiredUpdatedTable m)
  rw [hevents, hm.statementKind, hm.requiredUpdatedTable, hm.columnsUpdated]
  cases m.statementKind with
  | update => exact congrArg (· || _) hww
  | delete => exact congrArg (· || _) hdelete
  | insert => rfl
  | other => rfl

lemma Transactions.writeWritePossible (h : r.Transactions context t t') (hi : r.Indexes i i') :
    writeWriteConflictPossible t' i' = writeWriteConflictPossible t i := by
  unfold writeWriteConflictPossible
  rw [Bool.eq_iff_iff, List.any_eq_true, List.any_eq_true]
  refine exists_forall₂ h.statements fun s s' hs => ?_
  rw [hi.statementWriteWrite hs]

lemma Maps.overlapCounter {ms ms' : ColumnMap} (h : r.Maps ms ms') (hi : r.Indexes i i')
    (field : CounterField) :
    columnSetsOverlapCounter ms' (i'.counts field) = columnSetsOverlapCounter ms (i.counts field) := by
  unfold columnSetsOverlapCounter
  refine decide_eq_decide.mpr ?_
  simp only [Finmap.mem_keys]
  constructor
  · rintro ⟨v, hv, hoverlap⟩
    obtain ⟨v, hmem, rfl⟩ := (h.mem v).mp hv
    rw [h.columns, hi.overlap] at hoverlap
    exact ⟨v, hmem, hoverlap⟩
  · rintro ⟨v, hv, hoverlap⟩
    refine ⟨r.table v, (h.mem_table v).mpr hv, ?_⟩
    rwa [h.columns, hi.overlap]

/-- A table without counted columns overlaps nothing, so looking the table up first changes
nothing. -/
lemma statementImplicitInsertKey_insert (hk : m.statementKind = .insert) :
    statementImplicitInsertKeyConflictPossible context i m ↔
      ∃ key, omittedIntegerPrimaryKeyColumn context m = some key ∧
        (columnCounterOverlap (i.counts .omittedIntegerPrimaryKey)
            (Models.requiredUpdatedTable m) {key} ∨
          columnCounterOverlap (i.counts .update) (Models.requiredUpdatedTable m) {key}) := by
  have habsent : ∀ (counts : ColumnCountMap) (cs : Finset String),
      Models.requiredUpdatedTable m ∉ counts →
        columnCounterOverlap counts (Models.requiredUpdatedTable m) cs = false := by
    intro counts cs hn
    have hrow : counts.row (Models.requiredUpdatedTable m) = ∅ := by
      by_contra hrow
      exact hn (Counters.CounterMap.mem_iff_row.mpr hrow)
    simp [columnCounterOverlap, hrow]
  unfold statementImplicitInsertKeyConflictPossible
  simp only [hk]
  split_ifs with hboth
  · have hfirst := fun cs => habsent i.omittedIntegerPrimaryKeyCounts cs hboth.1
    have hsecond := fun cs => habsent i.updateColumnCounts cs hboth.2
    simp [RemainingMetadataIndex.counts, hfirst, hsecond]
  · cases omittedIntegerPrimaryKeyColumn context m with
    | none => simp
    | some key => simp [RemainingMetadataIndex.counts]

lemma Indexes.statementImplicitInsertKey (h : r.Indexes i i') (hm : r.Metadata context m m') :
    statementImplicitInsertKeyConflictPossible context i' m' =
      statementImplicitInsertKeyConflictPossible context i m := by
  cases hk : m.statementKind with
  | insert =>
    rw [Bool.eq_iff_iff, statementImplicitInsertKey_insert (hm.statementKind.trans hk),
      statementImplicitInsertKey_insert hk, hm.omittedKey, hm.requiredUpdatedTable]
    refine exists_congr fun key => and_congr_right fun hkey => ?_
    have hfixed : r.columns (Models.requiredUpdatedTable m) {key} = {key} := by
      simp [columns, hm.omittedKeyColumn key hkey]
    have homitted := h.overlap .omittedIntegerPrimaryKey (Models.requiredUpdatedTable m) {key}
    have hupdate := h.overlap .update (Models.requiredUpdatedTable m) {key}
    rw [hfixed] at homitted hupdate
    rw [homitted, hupdate]
  | update =>
    have homitted := h.overlap .omittedIntegerPrimaryKey (Models.requiredUpdatedTable m)
      m.columnsUpdated
    rw [← hm.requiredUpdatedTable, ← hm.columnsUpdated] at homitted
    simpa [statementImplicitInsertKeyConflictPossible, hm.statementKind, hk,
      RemainingMetadataIndex.counts] using homitted
  | delete =>
    simp [statementImplicitInsertKeyConflictPossible, hm.statementKind, hk]
  | other =>
    simp [statementImplicitInsertKeyConflictPossible, hm.statementKind, hk]

lemma Transactions.implicitInsertKeyPossible (h : r.Transactions context t t')
    (hi : r.Indexes i i') :
    implicitInsertKeyConflictPossible context t' i' =
      implicitInsertKeyConflictPossible context t i := by
  unfold implicitInsertKeyConflictPossible
  rw [Bool.eq_iff_iff, List.any_eq_true, List.any_eq_true]
  refine exists_forall₂ h.statements fun s s' hs => ?_
  rw [hi.statementImplicitInsertKey hs]

lemma Metadata.createOrChangeKey (h : r.Metadata context m m') {v : String}
    {keys : Finset String} (hkeys : r.columns v keys = keys) :
    statementMayCreateOrChangeKey m' (r.table v) keys = statementMayCreateOrChangeKey m v keys := by
  have hoverlap := h.writeOverlap v keys
  rw [hkeys] at hoverlap
  unfold statementMayCreateOrChangeKey
  simp only [ne_eq, h.tableUpdated_iff, h.isInsert, h.isUpdate, hoverlap]

lemma flatMap_events {ss ss' : List StatementMetadata}
    (h : List.Forall₂ (r.Metadata context) ss ss') :
    ss'.flatMap (·.cascadeWriteEvents) = ss.flatMap (·.cascadeWriteEvents) ∧
      ∀ e ∈ ss.flatMap (·.cascadeWriteEvents), r.event e = e := by
  induction h with
  | nil => simp
  | cons hs _ ih =>
    obtain ⟨heq, hfixed⟩ := ih
    refine ⟨by rw [List.flatMap_cons, List.flatMap_cons, hs.events, heq], ?_⟩
    intro e he
    rcases List.mem_append.mp (List.flatMap_cons ▸ he) with he | he
    · exact hs.fixedEvents e he
    · exact hfixed e he

lemma Transactions.events (h : r.Transactions context t t') :
    t'.metadata.cascadeWriteEvents = t.metadata.cascadeWriteEvents ∧
      ∀ e ∈ t.metadata.cascadeWriteEvents, r.event e = e := by
  rw [h.metadata, h.metadata']
  exact flatMap_events h.statementMetadata

/-- The event of the transaction that touches a key of a table, under both spellings of
the table. -/
lemma Transactions.any_events (h : r.Transactions context t t')
    {P : CascadeWriteEvent → String → Bool}
    (hP : ∀ e v, P e v → e.table = v) (v : String) :
    t'.metadata.cascadeWriteEvents.any (P · (r.table v)) =
      t.metadata.cascadeWriteEvents.any (P · v) := by
  obtain ⟨heq, hfixed⟩ := h.events
  rw [heq, Bool.eq_iff_iff, List.any_eq_true, List.any_eq_true]
  refine exists_congr fun e => and_congr_right fun he => ?_
  have htable := fixed_table (hfixed e he)
  constructor
  · intro hp
    have hv : r.table e.table = r.table v := htable.trans (hP e _ hp)
    rw [← r.table_injective hv, htable] at hp
    rwa [← r.table_injective hv]
  · intro hp
    have hv := hP e _ hp
    rw [← hv, htable]
    rwa [← hv] at hp

lemma Transactions.any_statements (h : r.Transactions context t t')
    {P Q : StatementMetadata → Bool}
    (hP : ∀ s s', r.Metadata context s s' → Q s' = P s) :
    t'.metadata.statements.any Q = t.metadata.statements.any P := by
  rw [h.metadata, h.metadata', Bool.eq_iff_iff, List.any_eq_true, List.any_eq_true]
  exact exists_forall₂ h.statementMetadata fun s s' hs => by rw [hP s s' hs]

lemma Transactions.createOrChangeKey (h : r.Transactions context t t') {v : String}
    {keys : Finset String} (hkeys : r.columns v keys = keys) :
    transactionMetadataMayCreateOrChangeKey t'.metadata (r.table v) keys =
      transactionMetadataMayCreateOrChangeKey t.metadata v keys := by
  have hstatements := h.any_statements
    (P := (statementMayCreateOrChangeKey · v keys))
    (Q := (statementMayCreateOrChangeKey · (r.table v) keys))
    fun s s' hs => hs.createOrChangeKey hkeys
  have hevents := h.any_events (P := fun e v => cascadeEventMayCreateOrChangeKey e v keys)
    (fun e v hp => by
      simp only [cascadeEventMayCreateOrChangeKey, decide_eq_true_eq] at hp
      exact hp.2.1) v
  unfold transactionMetadataMayCreateOrChangeKey
  rw [hstatements, hevents]

lemma Transactions.removeOrChangeKey (h : r.Transactions context t t') {v : String}
    {keys : Finset String} (hkeys : r.columns v keys = keys) :
    transactionMetadataMayRemoveOrChangeKey t'.metadata (r.table v) keys =
      transactionMetadataMayRemoveOrChangeKey t.metadata v keys := by
  have hstatements := h.any_statements
    (P := fun s => decide (s.tableUpdated = some v) && (isDeleteStatement s ||
      (isUpdateStatement s && metadataWriteOverlap s v keys ≠ ∅)))
    (Q := fun s => decide (s.tableUpdated = some (r.table v)) && (isDeleteStatement s ||
      (isUpdateStatement s && metadataWriteOverlap s (r.table v) keys ≠ ∅)))
    (fun s s' hs => by
      have hoverlap := hs.writeOverlap v keys
      rw [hkeys] at hoverlap
      simp only [hs.tableUpdated_iff, hs.isDelete, hs.isUpdate, hoverlap])
  have hevents := h.any_events (P := fun e v => cascadeEventMayRemoveOrChangeKey e v keys)
    (fun e v hp => by
      simp only [cascadeEventMayRemoveOrChangeKey, decide_eq_true_eq] at hp
      exact hp.1) v
  unfold transactionMetadataMayRemoveOrChangeKey
  rw [hevents]
  exact congrArg (· || _) hstatements

lemma Maps.exists_table {ms ms' : ColumnMap} (h : r.Maps ms ms') {P P' : String → Prop}
    (hP : ∀ v, P' (r.table v) ↔ P v) : (∃ v ∈ ms'.keys, P' v) ↔ ∃ v ∈ ms.keys, P v := by
  simp only [Finmap.mem_keys]
  constructor
  · rintro ⟨v', hv, hp⟩
    obtain ⟨v, hmem, rfl⟩ := (h.mem v').mp hv
    exact ⟨v, hmem, (hP v).mp hp⟩
  · exact fun ⟨v, hv, hp⟩ => ⟨r.table v, (h.mem_table v).mpr hv, (hP v).mpr hp⟩

lemma Transactions.keyConstraint (hschema : r.FixesSchema context)
    (h : r.Transactions context t t') (hi : r.Indexes i i') :
    keyConstraintConflictPossibleWithIndex context t' i' =
      keyConstraintConflictPossibleWithIndex context t i := by
  unfold keyConstraintConflictPossibleWithIndex
  refine decide_eq_decide.mpr (h.updated.exists_table fun v => ?_)
  rw [hschema.keySets_table, List.any_eq_true, List.any_eq_true]
  refine exists_congr fun keys => and_congr_right fun hkeys => ?_
  have hfixed := hschema.keySet_columns hkeys
  have hoverlap := hi.overlap .createOrChangeKey v keys
  rw [hfixed] at hoverlap
  rw [h.createOrChangeKey hfixed]
  exact Iff.of_eq (congrArg (fun b => (_ && b) = true) hoverlap)

lemma Transactions.foreignKeyConstraint (hschema : r.FixesSchema context)
    (h : r.Transactions context t t') (hi : r.Indexes i i') :
    foreignKeyConstraintConflictPossibleWithIndex context t' i' =
      foreignKeyConstraintConflictPossibleWithIndex context t i := by
  unfold foreignKeyConstraintConflictPossibleWithIndex
  refine decide_eq_decide.mpr (h.updated.exists_table fun v => ?_)
  rw [hschema.edgesByParent, hschema.edgesByChild]
  have hedge : ∀ edge ∈ context.schemaCache.foreignKeyEdges,
      transactionMetadataMayRemoveOrChangeKey t'.metadata edge.parentTable
          edge.parentColumns.toFinset =
        transactionMetadataMayRemoveOrChangeKey t.metadata edge.parentTable
          edge.parentColumns.toFinset ∧
      transactionMetadataMayCreateOrChangeKey t'.metadata edge.childTable
          edge.childColumns.toFinset =
        transactionMetadataMayCreateOrChangeKey t.metadata edge.childTable
          edge.childColumns.toFinset ∧
      columnCounterOverlap i'.createOrChangeKeyColumnCounts edge.childTable
          edge.childColumns.toFinset =
        columnCounterOverlap i.createOrChangeKeyColumnCounts edge.childTable
          edge.childColumns.toFinset ∧
      columnCounterOverlap i'.removeOrChangeKeyColumnCounts edge.parentTable
          edge.parentColumns.toFinset =
        columnCounterOverlap i.removeOrChangeKeyColumnCounts edge.parentTable
          edge.parentColumns.toFinset := by
    intro edge hmem
    have hremove := h.removeOrChangeKey (hschema.parentColumns edge hmem)
    have hcreate := h.createOrChangeKey (hschema.childColumns edge hmem)
    have hchild := hi.overlap .createOrChangeKey edge.childTable edge.childColumns.toFinset
    have hparent := hi.overlap .removeOrChangeKey edge.parentTable edge.parentColumns.toFinset
    rw [hschema.parentTables edge hmem] at hremove hparent
    rw [hschema.childTables edge hmem] at hcreate hchild
    rw [hschema.parentColumns edge hmem] at hparent
    rw [hschema.childColumns edge hmem] at hchild
    exact ⟨hremove, hcreate, hchild, hparent⟩
  refine or_congr ?_ ?_
  · rw [List.any_eq_true, List.any_eq_true]
    refine exists_congr fun edge => and_congr_right fun hmem => ?_
    obtain ⟨hremove, -, hchild, -⟩ := hedge edge (List.filter_sublist.subset hmem)
    rw [hremove, hchild]
  · rw [List.any_eq_true, List.any_eq_true]
    refine exists_congr fun edge => and_congr_right fun hmem => ?_
    obtain ⟨-, hcreate, -, hparent⟩ := hedge edge (List.filter_sublist.subset hmem)
    rw [hcreate, hparent]

theorem Transactions.checkKinds (hschema : r.FixesSchema context)
    (h : r.Transactions context t t') (hi : r.Indexes i i') :
    remainingIndividualCheckKinds context t' i' = remainingIndividualCheckKinds context t i := by
  unfold remainingIndividualCheckKinds constraintConflictPossibleWithIndex
  have hreads := h.updated.overlapCounter hi .referenced
  simp only [RemainingMetadataIndex.counts] at hreads
  rw [hi.isEmpty, h.writeWritePossible hi, hreads, h.implicitInsertKeyPossible hi,
    h.keyConstraint hschema hi, h.foreignKeyConstraint hschema hi]

def lower (name : String) : String := String.ofList (foldCase name)

/-- Two statements differ at most in the letter case of their identifiers. -/
def EqualUpToCase (statement statement' : Statement) : Prop :=
  statement'.rename lower lower = statement.rename lower lower

/-- A consistent respelling only changes letter case. -/
theorem Respelled.equalUpToCase {statement statement' : Statement}
    (h : r.Respelled context statement statement') : EqualUpToCase statement statement' := by
  obtain ⟨s, -, rfl⟩ := h
  have hsource : lower ∘ s.source = lower :=
    funext fun name => congrArg String.ofList (s.source_fold name)
  have hcolumn : lower ∘ s.column = lower :=
    funext fun name => congrArg String.ofList (s.column_fold name)
  rw [EqualUpToCase, Statement.rename_rename, hsource, hcolumn]

def ParsedPair (context : ConflictCheckContext) (R : Statement → Statement → Prop)
    (s s' : LoggedStatement) : Prop :=
  ∃ p p', R p p' ∧ ReadFrom context s p ∧ ReadFrom context s' p'

structure TransactionPair (context : ConflictCheckContext)
    (R : Statement → Statement → Prop) (t t' : LoggedTransaction) : Prop where
  statements : List.Forall₂ (ParsedPair context R) t.statements t'.statements
  metadata : t.metadata = transactionMetadata (t.statements.map (·.metadata))
  metadata' : t'.metadata = transactionMetadata (t'.statements.map (·.metadata))

/-- The check kinds, and the kinds of the pairwise analysis against each remaining
transaction in either role, agree. -/
def SameVerdicts (context : ConflictCheckContext) (current current' : LoggedTransaction)
    (remaining remaining' : List LoggedTransaction) : Prop :=
  remainingIndividualCheckKinds context current'
      (RemainingMetadataIndex.fromTransactions context remaining') =
    remainingIndividualCheckKinds context current
      (RemainingMetadataIndex.fromTransactions context remaining) ∧
  List.Forall₂ (fun other other' => ∀ enabledKinds currentBranch oursLabel theirsLabel kind,
    ((staticAnalysisMatching context current'.metadata other'.metadata enabledKinds currentBranch
        oursLabel theirsLabel).hasKind kind ↔
      (staticAnalysisMatching context current.metadata other.metadata enabledKinds currentBranch
        oursLabel theirsLabel).hasKind kind) ∧
    ((staticAnalysisMatching context other'.metadata current'.metadata enabledKinds currentBranch
        oursLabel theirsLabel).hasKind kind ↔
      (staticAnalysisMatching context other.metadata current.metadata enabledKinds currentBranch
        oursLabel theirsLabel).hasKind kind)) remaining remaining'

lemma TransactionPair.transactions (hschema : r.FixesSchema context)
    (h : TransactionPair context (r.Respelled context) t t') : r.Transactions context t t' where
  statements := h.statements.imp fun s s' hs => by
    obtain ⟨p, _, ⟨spelling, hspells, rfl⟩, ⟨compatible, hm⟩, compatible', hm'⟩ := hs
    rw [hm, hm']
    exact hspells.statements.metadata hschema compatible compatible'
  metadata := h.metadata
  metadata' := h.metadata'

def usersContext : ConflictCheckContext where
  schemaCache :=
    { tableColumns := [("users", {"id", "name"})]
      primaryKeyColumns := [("users", ["id"])]
      keyColumnSets := [("users", [{"id"}])]
      integerPrimaryKeyColumns := [("users", some "id")]
      foreignKeyEdges := [] }
  pragmaIntegerPrimaryKey := fun _ => none

/-- `UPDATE users SET column = 'x' WHERE id = 1`. -/
def updateNameStatement (column : String) : Statement :=
  .update [] ⟨"users", "", none⟩ [(.column column, .literal "'x'")] none
    (some (.node "=" [.column "" "id", .literal "1"]))

def updateName (branch : BranchName) (column : String) : LoggedTransaction :=
  singleTransaction usersContext branch
    ⟨"UPDATE users SET " ++ column ++ " = 'x' WHERE id = 1", none, false⟩
    (updateNameStatement column)

lemma updateName_pair {R : Statement → Statement → Prop} {branch : BranchName}
    {column column' : String} (h : R (updateNameStatement column) (updateNameStatement column')) :
    TransactionPair usersContext R (updateName branch column) (updateName branch column') where
  statements := .cons ⟨_, _, h, ⟨_, rfl⟩, ⟨_, rfl⟩⟩ .nil
  metadata := rfl
  metadata' := rfl

lemma updateName_equalUpToCase {column column' : String} (h : foldCase column' = foldCase column) :
    EqualUpToCase (updateNameStatement column) (updateNameStatement column') := by
  simp [EqualUpToCase, updateNameStatement, Statement.rename, renameAssignment, lower, h]

/-- Exchange the spellings `name` and `Name` of a column everywhere. -/
def swapName : Respelling where
  table := id
  column := fun _ => Equiv.swap "name" "Name"
  table_injective := Function.injective_id
  column_injective := fun _ => (Equiv.swap "name" "Name").injective
  table_fold := fun _ => rfl
  column_fold := by
    intro _ c
    rw [Equiv.swap_apply_def]
    split_ifs with hlower hupper
    · rw [hlower]
      decide
    · rw [hupper]
      decide
    · rfl

lemma swapName_id : swapName.columns "users" {"id"} = {"id"} := by decide

lemma swapName_fixesSchema : swapName.FixesSchema usersContext where
  tables := fun _ _ => rfl
  keyTables := fun _ _ => rfl
  keySets := by
    intro entry hentry keySet hkeySet
    rw [List.mem_singleton.mp hentry] at hkeySet ⊢
    rw [List.mem_singleton.mp hkeySet]
    exact swapName_id
  integerKeyTables := fun _ _ => rfl
  integerKeys := by
    intro entry hentry key hkey
    rw [List.mem_singleton.mp hentry] at hkey
    rw [← Option.some.inj hkey]
    change Equiv.swap "name" "Name" "id" = "id"
    decide
  childTables := fun _ _ => rfl
  childColumns := fun _ hedge => by cases hedge
  parentTables := fun _ _ => rfl
  parentColumns := fun _ hedge => by cases hedge
  pragma := fun _ => rfl
  pragmaKey := fun _ _ hkey => by cases hkey

def swapSpelling : Spelling where
  source := id
  column := Equiv.swap "name" "Name"
  source_injective := Function.injective_id
  column_injective := (Equiv.swap "name" "Name").injective
  source_fold := fun _ => rfl
  column_fold := swapName.column_fold "users"

lemma updateName_occurrences (column : String) : (updateNameStatement column).occurrences =
    [([(updateNameStatement column).dmlOuterSources], .column "" "id")] := rfl

lemma swapSpelling_spells :
    swapName.Spells usersContext.tableColumns swapSpelling (updateNameStatement "name") where
  target := fun _ _ => rfl
  written := fun _ _ _ _ => rfl
  read := fun _ _ _ => ⟨rfl, rfl⟩
  bare := by
    intro frame name hstands table _
    have hmem := Statement.mem_occurrences.mpr hstands
    rw [updateName_occurrences, List.mem_singleton, Prod.mk.injEq, Leaf.column.injEq] at hmem
    obtain ⟨-, -, rfl⟩ := hmem
    have hid : swapSpelling.column "id" = "id" := by decide
    rw [KeepsColumn, hid]
    exact Iff.rfl

lemma swapName_respelled : swapName.Respelled usersContext (updateNameStatement "name")
    (updateNameStatement "Name") :=
  ⟨swapSpelling, swapSpelling_spells, by
    simp [updateNameStatement, Statement.rename, renameAssignment, renameExpr, renameExprs,
      TableName.rename, swapSpelling]
    decide⟩

end Respelling

end SqliteReconcile.IdentifierCase
