import SqliteReconcile.RemainingMetadata

/-!
# The aggregate write-write filter against the pairwise analysis

The pairwise analysis compares whole write maps once a cascade is involved; the filter
keeps counters per statement kind. Both are described here by the row writes of the
statements, direct and hidden, and compared through them.
-/
namespace SqliteReconcile.WriteWriteFilter
open Utils Models CascadeMetadata SqlMetadata StaticAnalysis RemainingMetadata

inductive RowWriteKind
  | insert
  | update
  | delete
  deriving DecidableEq

/-- One direct or hidden write of a statement. -/
structure RowWrite where
  table : String
  columns : Finset String
  kind : RowWriteKind

def RowWrite.Overlaps (left right : RowWrite) : Prop :=
  left.table = right.table ∧ Meets left.columns right.columns

/-- The pairs of writes the filter looks at: no insertion, and not two row deletions. -/
def RowWrite.Filtered (left right : RowWrite) : Prop :=
  left.kind ≠ .insert ∧ right.kind ≠ .insert ∧ ¬ (left.kind = .delete ∧ right.kind = .delete)

def directWriteKind : StatementKind → Option RowWriteKind
  | .insert => some .insert
  | .update => some .update
  | .delete => some .delete
  | .other => none

lemma directWriteKind_insert {kind : StatementKind} :
    directWriteKind kind = some .insert ↔ kind = .insert := by
  cases kind <;> simp [directWriteKind]

lemma directWriteKind_delete {kind : StatementKind} :
    directWriteKind kind = some .delete ↔ kind = .delete := by
  cases kind <;> simp [directWriteKind]

lemma exists_directWriteKind {kind : StatementKind} (h : kind ≠ .other) :
    ∃ k, directWriteKind kind = some k := by
  cases kind with
  | other => exact absurd rfl h
  | _ => exact ⟨_, rfl⟩

def directWrite (metadata : StatementMetadata) : Option RowWrite :=
  (directWriteKind metadata.statementKind).map
    (⟨requiredUpdatedTable metadata, metadata.columnsUpdated, ·⟩)

def hiddenWrite (event : CascadeWriteEvent) : RowWrite :=
  ⟨event.table, event.columns, match event.kind with | .delete => .delete | .update => .update⟩

def rowWrites (metadata : StatementMetadata) : List RowWrite :=
  (directWrite metadata).toList ++ metadata.cascadeWriteEvents.map hiddenWrite

/-- Two writes of two statements that overlap and satisfy `R`. -/
def SomeOverlap (R : RowWrite → RowWrite → Prop) (left right : StatementMetadata) : Prop :=
  ∃ l ∈ rowWrites left, ∃ r ∈ rowWrites right, l.Overlaps r ∧ R l r

lemma SomeOverlap.symm {R : RowWrite → RowWrite → Prop} (hR : ∀ l r, R l r → R r l)
    {left right : StatementMetadata} (h : SomeOverlap R left right) :
    SomeOverlap R right left := by
  obtain ⟨l, hl, r, hr, ho, hlr⟩ := h
  exact ⟨r, hr, l, hl, ⟨ho.1.symm, ho.2.symm⟩, hR l r hlr⟩

lemma filtered_symm (l r : RowWrite) (h : l.Filtered r) : r.Filtered l :=
  ⟨h.2.1, h.1, fun hd => h.2.2 ⟨hd.2, hd.1⟩⟩

section Parsed
variable {context : ConflictCheckContext} {left right metadata : StatementMetadata}

lemma updated_meets_iff (h : ParsedIn context metadata) (table : String)
    (columns : Finset String) :
    Meets (metadata.tablesUpdatedToColumnsUpdated.columns table) columns ↔
      ∃ w ∈ rowWrites metadata, w.table = table ∧ Meets w.columns columns := by
  rw [h.updated_meets]
  have hdirect : (metadata.tableUpdated = some table ∧ Meets metadata.columnsUpdated columns) ↔
      ∃ w ∈ (directWrite metadata).toList, w.table = table ∧ Meets w.columns columns := by
    have htable := h.table
    cases hk : metadata.statementKind with
    | other =>
      have hnone : metadata.tableUpdated = none := by simpa [hk] using htable
      simp [directWrite, directWriteKind, hk, hnone]
    | insert | update | delete =>
      have hsome := h.tableUpdated_eq (by simp [hk])
      simp [directWrite, directWriteKind, hk, hsome]
  rw [hdirect]
  simp only [rowWrites, List.mem_append, or_and_right, exists_or, List.mem_map]
  refine or_congr_right ?_
  constructor
  · rintro ⟨e, he, ht, hm⟩
    exact ⟨hiddenWrite e, ⟨e, he, rfl⟩, ht, hm⟩
  · rintro ⟨_, ⟨e, he, rfl⟩, ht, hm⟩
    exact ⟨e, he, ht, hm⟩

/-- The write maps of two statements overlap exactly when two of their writes do. -/
lemma columnsByTableOverlap_updated_iff (hl : ParsedIn context left)
    (hr : ParsedIn context right) :
    columnsByTableOverlap left.tablesUpdatedToColumnsUpdated
      right.tablesUpdatedToColumnsUpdated ↔ SomeOverlap (fun _ _ => True) left right := by
  have hmaps : columnsByTableOverlap left.tablesUpdatedToColumnsUpdated
      right.tablesUpdatedToColumnsUpdated ↔
      ∃ table, Meets (left.tablesUpdatedToColumnsUpdated.columns table)
        (right.tablesUpdatedToColumnsUpdated.columns table) := by
    simp only [columnsByTableOverlap, decide_eq_true_eq, Finmap.mem_keys]
    constructor
    · exact fun ⟨table, _, _, hm⟩ => ⟨table, hm⟩
    · rintro ⟨table, hm⟩
      refine ⟨table, ?_, ?_, hm⟩
      · by_contra hn
        simp [columns_of_notMem hn] at hm
      · by_contra hn
        simp [columns_of_notMem hn] at hm
  rw [hmaps]
  constructor
  · rintro ⟨table, hm⟩
    obtain ⟨l, hlw, hlt, hm⟩ := (updated_meets_iff hl _ _).mp hm
    obtain ⟨r, hrw, hrt, hm⟩ := (updated_meets_iff hr _ _).mp hm.symm
    exact ⟨l, hlw, r, hrw, ⟨hlt.trans hrt.symm, hm.symm⟩, trivial⟩
  · rintro ⟨l, hlw, r, hrw, ⟨ht, hm⟩, -⟩
    refine ⟨l.table, (updated_meets_iff hl _ _).mpr ⟨l, hlw, rfl, ?_⟩⟩
    exact ((updated_meets_iff hr _ _).mpr ⟨r, hrw, ht.symm, hm.symm⟩).symm

/-- A direct overlap is an overlap of two filtered writes. -/
lemma directWriteWriteOverlap_filtered (hl : ParsedIn context left)
    (hr : ParsedIn context right) (h : directWriteWriteOverlap left right) :
    SomeOverlap RowWrite.Filtered left right := by
  unfold directWriteWriteOverlap at h
  split_ifs at h with hsame hdelete hinsert
  simp only [Bool.not_eq_true, Bool.not_eq_false', sameWrittenTable, decide_eq_true_eq] at hsame
  obtain ⟨hsome, htable⟩ := hsame
  simp only [isDeleteStatement, Bool.and_eq_true, decide_eq_true_eq, hl.kind, hr.kind]
    at hdelete
  simp only [isInsertStatement, Bool.or_eq_true, decide_eq_true_eq, hl.kind, hr.kind]
    at hinsert
  have hlk : left.statementKind ≠ .other := hl.table.mp hsome
  have hrk : right.statementKind ≠ .other := hr.table.mp (htable ▸ hsome)
  have hlt := hl.tableUpdated_eq hlk
  have hrt := hr.tableUpdated_eq hrk
  have htables : requiredUpdatedTable left = requiredUpdatedTable right := by
    rw [hlt, hrt] at htable
    exact Option.some.inj htable
  have hmeets : Meets left.columnsUpdated right.columnsUpdated := by
    rw [metadataWriteOverlap, if_neg (by rw [hrt, htables]; simp)] at h
    exact Meets.symm (by simpa [Meets] using h)
  obtain ⟨lk, hlkind⟩ := exists_directWriteKind hlk
  obtain ⟨rk, hrkind⟩ := exists_directWriteKind hrk
  have hlw : directWrite left =
      some ⟨requiredUpdatedTable left, left.columnsUpdated, lk⟩ := by simp [directWrite, hlkind]
  have hrw : directWrite right =
      some ⟨requiredUpdatedTable right, right.columnsUpdated, rk⟩ := by simp [directWrite, hrkind]
  refine ⟨_, List.mem_append_left _ (Option.mem_toList.mpr hlw), _,
    List.mem_append_left _ (Option.mem_toList.mpr hrw), ⟨htables, hmeets⟩, ?_, ?_, ?_⟩
  · intro hk
    exact hinsert (.inl (directWriteKind_insert.mp (hlkind.trans (congrArg some hk))))
  · intro hk
    exact hinsert (.inr (directWriteKind_insert.mp (hrkind.trans (congrArg some hk))))
  · intro ⟨hk, hk'⟩
    exact hdelete ⟨directWriteKind_delete.mp (hlkind.trans (congrArg some hk)),
      directWriteKind_delete.mp (hrkind.trans (congrArg some hk'))⟩

/-- What the pairwise check reports: an overlap, of two filtered writes unless a cascade
is involved. -/
lemma metadataWriteWriteOverlap_imp (hl : ParsedIn context left) (hr : ParsedIn context right)
    (h : metadataWriteWriteOverlap left right) :
    SomeOverlap RowWrite.Filtered left right ∨
      ((left.hasCascadeEffects ∨ right.hasCascadeEffects) ∧
        SomeOverlap (fun _ _ => True) left right) := by
  unfold metadataWriteWriteOverlap at h
  split_ifs at h with hdirect hcascade
  · exact .inl (directWriteWriteOverlap_filtered hl hr hdirect)
  · refine .inr ⟨?_, (columnsByTableOverlap_updated_iff hl hr).mp h⟩
    by_contra hn
    exact hcascade (by simpa using hn)

lemma metadataWriteWriteOverlap_of_cascade (hl : ParsedIn context left)
    (hr : ParsedIn context right)
    (hcascade : left.hasCascadeEffects ∨ right.hasCascadeEffects)
    (h : SomeOverlap (fun _ _ => True) left right) : metadataWriteWriteOverlap left right := by
  unfold metadataWriteWriteOverlap
  have hmaps := (columnsByTableOverlap_updated_iff hl hr).mpr h
  rcases hcascade with hc | hc <;> simp [hc, hmaps]

def writeFields : RowWriteKind → List CounterField
  | .insert => [.createOrChangeKey]
  | .update => [.writeWrite, .createOrChangeKey, .removeOrChangeKey, .update]
  | .delete => [.writeWrite, .removeOrChangeKey]

lemma statementOverlaps_write {field : CounterField} (hread : field ≠ .referenced)
    (homitted : field ≠ .omittedIntegerPrimaryKey) (table : String) (columns : Finset String) :
    statementOverlaps context field table columns metadata ↔
      ∃ w ∈ rowWrites metadata, field ∈ writeFields w.kind ∧ table = w.table ∧
        Meets w.columns columns := by
  have hdirect : (field ∈ directFields metadata.statementKind ∧
      table = requiredUpdatedTable metadata ∧ Meets metadata.columnsUpdated columns) ↔
      ∃ w ∈ (directWrite metadata).toList, field ∈ writeFields w.kind ∧ table = w.table ∧
        Meets w.columns columns := by
    cases hk : metadata.statementKind <;>
      simp [directWrite, directWriteKind, directFields, writeFields, hk]
  have hevents : (∃ event ∈ metadata.cascadeWriteEvents, field ∈ eventFields event.kind ∧
      table = event.table ∧ Meets event.columns columns) ↔
      ∃ w ∈ metadata.cascadeWriteEvents.map hiddenWrite, field ∈ writeFields w.kind ∧
        table = w.table ∧ Meets w.columns columns := by
    have hfields : ∀ event : CascadeWriteEvent,
        eventFields event.kind = writeFields (hiddenWrite event).kind := by
      intro event
      cases hk : event.kind <;> simp [hiddenWrite, hk, eventFields, writeFields]
    constructor
    · rintro ⟨event, he, hf, ht, hm⟩
      exact ⟨hiddenWrite event, List.mem_map_of_mem he, hfields event ▸ hf, ht, hm⟩
    · rintro ⟨w, hw, hf, ht, hm⟩
      obtain ⟨event, he, rfl⟩ := List.mem_map.mp hw
      exact ⟨event, he, hfields event ▸ hf, ht, hm⟩
  simp only [statementOverlaps, hread, homitted, false_and, or_false, false_or, hdirect,
    hevents, rowWrites, List.mem_append, or_and_right, exists_or]

lemma rowWrites_delete (hp : ParsedIn context metadata) {w : RowWrite}
    (hw : w ∈ rowWrites metadata) (hk : w.kind = .delete) : w.columns = {allColumns} := by
  rcases List.mem_append.mp hw with hw | hw
  · have hdirect := Option.mem_toList.mp hw
    obtain ⟨kind, hkind, rfl⟩ := Option.map_eq_some_iff.mp hdirect
    have hdelete := directWriteKind_delete.mp (hkind.trans (congrArg some hk))
    exact hp.columnsUpdated_eq (by simp [hdelete])
  · obtain ⟨event, he, rfl⟩ := List.mem_map.mp hw
    refine hp.deletesAllColumns he ?_
    cases hek : event.kind with
    | delete => rfl
    | update => simp [hiddenWrite, hek] at hk

lemma statementWriteWriteConflictPossible_iff (index : RemainingMetadataIndex) :
    statementWriteWriteConflictPossible index metadata ↔
      ∃ w ∈ rowWrites metadata,
        (w.kind = .update ∧ columnCounterOverlap index.writeWriteColumnCounts w.table w.columns) ∨
        (w.kind = .delete ∧
          columnCounterOverlap index.updateColumnCounts w.table {allColumns}) := by
  have hevent : ∀ event, eventWriteWriteConflictPossible index event ↔
      ((hiddenWrite event).kind = .update ∧ columnCounterOverlap index.writeWriteColumnCounts
          (hiddenWrite event).table (hiddenWrite event).columns) ∨
        ((hiddenWrite event).kind = .delete ∧
          columnCounterOverlap index.updateColumnCounts (hiddenWrite event).table
            {allColumns}) := by
    intro event
    cases hk : event.kind <;> simp [eventWriteWriteConflictPossible, hiddenWrite, hk]
  simp only [rowWrites, List.mem_append, or_and_right, exists_or, List.mem_map,
    exists_exists_and_eq_and]
  rw [statementWriteWriteConflictPossible, Bool.or_eq_true]
  apply or_congr
  · cases hk : metadata.statementKind <;> simp [directWrite, directWriteKind, hk]
  · simp only [List.any_eq_true, hevent, and_or_left, exists_or]

end Parsed

/-- The filter asks for a write-write check exactly when some writes of the two sides
overlap that are no insertions and not both row deletions. -/
theorem writeWriteConflictPossible_iff {context : ConflictCheckContext}
    {current : LoggedTransaction} {remaining : List LoggedTransaction}
    (hcurrent : TransactionParsedIn context current) :
    writeWriteConflictPossible current
      (RemainingMetadataIndex.fromTransactions context remaining) ↔
      ∃ s ∈ current.statements, ∃ other ∈ remaining, ∃ o ∈ other.statements,
        SomeOverlap RowWrite.Filtered s.metadata o.metadata := by
  have hcounter := fun field table columns =>
    columnCounterOverlap_fromTransactions context remaining field table columns
  have hww := fun table columns => hcounter .writeWrite table columns
  have hupdate := fun table columns => hcounter .update table columns
  simp only [statementOverlaps_write (show CounterField.writeWrite ≠ .referenced by decide)
    (by decide)] at hww
  simp only [statementOverlaps_write (show CounterField.update ≠ .referenced by decide)
    (by decide)] at hupdate
  unfold writeWriteConflictPossible
  simp only [List.any_eq_true, statementWriteWriteConflictPossible_iff]
  constructor
  · rintro ⟨s, hs, w, hw, ⟨hk, h⟩ | ⟨hk, h⟩⟩
    · obtain ⟨other, hother, o, ho, r, hr, hf, ht, hm⟩ := (hww _ _).mp h
      refine ⟨s, hs, other, hother, o, ho, w, hw, r, hr, ⟨ht, hm.symm⟩, ?_⟩
      cases hrk : r.kind <;> simp_all [writeFields, RowWrite.Filtered]
    · obtain ⟨other, hother, o, ho, r, hr, hf, ht, hm⟩ := (hupdate _ _).mp h
      have hcolumns := rowWrites_delete (hcurrent.statements s hs) hw hk
      refine ⟨s, hs, other, hother, o, ho, w, hw, r, hr, ⟨ht, hcolumns ▸ hm.symm⟩, ?_⟩
      cases hrk : r.kind <;> simp_all [writeFields, RowWrite.Filtered]
  · rintro ⟨s, hs, other, hother, o, ho, w, hw, r, hr, ⟨ht, hm⟩, hfiltered⟩
    refine ⟨s, hs, w, hw, ?_⟩
    cases hk : w.kind with
    | insert => exact absurd hk hfiltered.1
    | update =>
      refine .inl ⟨rfl, (hww _ _).mpr ⟨other, hother, o, ho, r, hr, ?_, ht, hm.symm⟩⟩
      cases hrk : r.kind <;> simp_all [writeFields, RowWrite.Filtered]
    | delete =>
      have hcolumns := rowWrites_delete (hcurrent.statements s hs) hw hk
      refine .inr ⟨rfl, (hupdate _ _).mpr ⟨other, hother, o, ho, r, hr, ?_, ht,
        hcolumns ▸ hm.symm⟩⟩
      cases hrk : r.kind <;> simp_all [writeFields, RowWrite.Filtered]

/-- The pairwise analysis of the current transaction of `branch` against another one, with
all kinds enabled. -/
def pairAnalysis (context : ConflictCheckContext) (branch : BranchName)
    (orderedFrom : Option BranchName) (oursLabel theirsLabel : Option String)
    (current other : LoggedTransaction) : ConflictCheckResult :=
  match branch with
  | .ours => staticAnalysisMatching context current.metadata other.metadata none orderedFrom
      oursLabel theirsLabel
  | .theirs => staticAnalysisMatching context other.metadata current.metadata none orderedFrom
      oursLabel theirsLabel

/-- A write-write conflict of the pairwise analysis is never hidden by the filter. -/
def FilterCoversAnalysis (context : ConflictCheckContext) (branch : BranchName)
    (current : LoggedTransaction) (remaining : List LoggedTransaction) : Prop :=
  ∀ other ∈ remaining, ∀ orderedFrom oursLabel theirsLabel,
    (pairAnalysis context branch orderedFrom oursLabel theirsLabel current other).hasKind
      .writeWrite →
    .writeWrite ∈ remainingIndividualCheckKinds context current
      (RemainingMetadataIndex.fromTransactions context remaining)

/-- Where writes of two statements overlap and one of the statements has cascade effects,
some overlapping writes of the two sides are no insertions and not both row deletions. -/
def CascadeOverlapsFiltered (current : LoggedTransaction) (remaining : List LoggedTransaction) :
    Prop :=
  (∃ s ∈ current.statements, ∃ other ∈ remaining, ∃ o ∈ other.statements,
      (s.metadata.hasCascadeEffects ∨ o.metadata.hasCascadeEffects) ∧
      SomeOverlap (fun _ _ => True) s.metadata o.metadata) →
  ∃ s ∈ current.statements, ∃ other ∈ remaining, ∃ o ∈ other.statements,
    SomeOverlap RowWrite.Filtered s.metadata o.metadata

lemma transactionWriteWriteOverlap_iff {context : ConflictCheckContext}
    {ours theirs : LoggedTransaction} (ho : TransactionParsedIn context ours)
    (ht : TransactionParsedIn context theirs) :
    transactionWriteWriteOverlap ours.metadata theirs.metadata ↔
      ∃ o ∈ ours.statements, ∃ t ∈ theirs.statements,
        metadataWriteWriteOverlap o.metadata t.metadata := by
  simp [transactionWriteWriteOverlap, ho.metadata, ht.metadata, transactionMetadata]

lemma pairAnalysis_writeWrite {context : ConflictCheckContext} {branch : BranchName}
    {orderedFrom : Option BranchName} {oursLabel theirsLabel : Option String}
    {current other : LoggedTransaction} (hc : TransactionParsedIn context current)
    (ho : TransactionParsedIn context other) :
    (pairAnalysis context branch orderedFrom oursLabel theirsLabel current other).hasKind
      .writeWrite ↔
    ∃ s ∈ current.statements, ∃ o ∈ other.statements,
      match branch with
      | .ours => metadataWriteWriteOverlap s.metadata o.metadata
      | .theirs => metadataWriteWriteOverlap o.metadata s.metadata := by
  cases branch with
  | ours =>
    simp [pairAnalysis, staticAnalysisMatching_hasKind, kindEnabled,
      transactionWriteWriteOverlap_iff hc ho]
  | theirs =>
    simp only [pairAnalysis, staticAnalysisMatching_hasKind, kindEnabled,
      transactionWriteWriteOverlap_iff ho hc]
    simp only [reduceCtorEq, false_and, and_false, true_and, false_or, or_false]
    exact ⟨fun ⟨o, ho, s, hs, h⟩ => ⟨s, hs, o, ho, h⟩, fun ⟨s, hs, o, ho, h⟩ => ⟨o, ho, s, hs, h⟩⟩

/-- The filter covers the pairwise analysis exactly when every overlap that involves a
cascade comes with an overlap of filtered writes. -/
theorem filterCoversAnalysis_iff {context : ConflictCheckContext} {branch : BranchName}
    {current : LoggedTransaction} {remaining : List LoggedTransaction}
    (hcurrent : TransactionParsedIn context current)
    (hremaining : ∀ other ∈ remaining, TransactionParsedIn context other) :
    FilterCoversAnalysis context branch current remaining ↔
      CascadeOverlapsFiltered current remaining := by
  have hkinds : ∀ other ∈ remaining,
      (.writeWrite ∈ remainingIndividualCheckKinds context current
        (RemainingMetadataIndex.fromTransactions context remaining) ↔
      ∃ s ∈ current.statements, ∃ other ∈ remaining, ∃ o ∈ other.statements,
        SomeOverlap RowWrite.Filtered s.metadata o.metadata) := by
    intro other hother
    have hne : ¬ (RemainingMetadataIndex.fromTransactions context remaining).isEmpty := by
      rw [isEmpty_fromTransactions]
      exact List.ne_nil_of_mem hother
    rw [writeWrite_mem_kinds, writeWriteConflictPossible_iff hcurrent]
    exact and_iff_right hne
  constructor
  · rintro hcovers ⟨s, hs, other, hother, o, ho, hcascade, hoverlap⟩
    refine (hkinds other hother).mp (hcovers other hother none none none ?_)
    rw [pairAnalysis_writeWrite hcurrent (hremaining other hother)]
    have hps := hcurrent.statements s hs
    have hpo := (hremaining other hother).statements o ho
    refine ⟨s, hs, o, ho, ?_⟩
    cases branch with
    | ours => exact metadataWriteWriteOverlap_of_cascade hps hpo hcascade hoverlap
    | theirs =>
      exact metadataWriteWriteOverlap_of_cascade hpo hps hcascade.symm
        (hoverlap.symm fun _ _ _ => trivial)
  · intro hcondition other hother orderedFrom oursLabel theirsLabel hreported
    rw [hkinds other hother]
    rw [pairAnalysis_writeWrite hcurrent (hremaining other hother)] at hreported
    obtain ⟨s, hs, o, ho, hpair⟩ := hreported
    have hps := hcurrent.statements s hs
    have hpo := (hremaining other hother).statements o ho
    have hcases : SomeOverlap RowWrite.Filtered s.metadata o.metadata ∨
        ((s.metadata.hasCascadeEffects ∨ o.metadata.hasCascadeEffects) ∧
          SomeOverlap (fun _ _ => True) s.metadata o.metadata) := by
      cases branch with
      | ours => exact metadataWriteWriteOverlap_imp hps hpo hpair
      | theirs =>
        rcases metadataWriteWriteOverlap_imp hpo hps hpair with h | ⟨hc, h⟩
        · exact .inl (h.symm filtered_symm)
        · exact .inr ⟨hc.symm, h.symm fun _ _ _ => trivial⟩
    rcases hcases with h | ⟨hc, h⟩
    · exact ⟨s, hs, other, hother, o, ho, h⟩
    · exact hcondition ⟨s, hs, other, hother, o, ho, hc, h⟩

/-! A parent table and a child table whose foreign key restricts nothing by itself: two
deletions from the parent table. -/

def parentChildContext : ConflictCheckContext where
  schemaCache :=
    { tableColumns := [("parents", {"id"}), ("children", {"id", "parent_id"})]
      primaryKeyColumns := [("parents", ["id"]), ("children", ["id"])]
      keyColumnSets := [("parents", [{"id"}]), ("children", [{"id"}])]
      integerPrimaryKeyColumns := [("parents", some "id"), ("children", some "id")]
      foreignKeyEdges := [⟨"children", ["parent_id"], "parents", ["id"], .noAction, .noAction⟩] }
  pragmaIntegerPrimaryKey := fun _ => none

def deleteParents : ParsedStatement where
  statementKind := .delete
  target := some "parents"
  assignments := []
  insertTarget := none
  references := (∅ : ColumnMap).insert "parents" {"id"}
  target_isSome := by decide

def deleteParentsText : String := "DELETE FROM parents WHERE id = 1"

def deleteParentsTransaction (branch : BranchName) : LoggedTransaction :=
  let metadata := parseStatementMetadataForContext parentChildContext
    ⟨deleteParentsText, none, false⟩ deleteParents
  { branch := branch
    branchIndex := 0
    transactionId := 1
    committedAt := "2026-01-01T00:00:00"
    statements :=
      [{ branch := branch
         branchIndex := 0
         transactionId := 1
         committedAt := "2026-01-01T00:00:00"
         originalSqlText := deleteParentsText
         toReplaySqlText := deleteParentsText
         isReplaySafe := true
         replayBlockReason := none
         metadata := metadata
         replayWarnings := []
         acceptedReplayWarnings := ∅ }]
    metadata := transactionMetadata [metadata] }

lemma deleteParents_parsed (branch : BranchName) :
    TransactionParsedIn parentChildContext (deleteParentsTransaction branch) where
  statements := by
    intro s hs
    rw [List.mem_singleton.mp hs]
    exact ⟨_, _, rfl⟩
  metadata := rfl

/-- Two deletions of a referenced row: reported pairwise, hidden by the filter. -/
theorem filter_hides_parent_deletes :
    ¬ FilterCoversAnalysis parentChildContext .ours (deleteParentsTransaction .ours)
      [deleteParentsTransaction .theirs] := by
  intro h
  have hkinds := h (deleteParentsTransaction .theirs) (by simp) none none none (by decide)
  revert hkinds
  decide

/-- The equivalence at these two deletions. -/
theorem filterCoversAnalysis_iff_parent_deletes :
    FilterCoversAnalysis parentChildContext .ours (deleteParentsTransaction .ours)
        [deleteParentsTransaction .theirs] ↔
      CascadeOverlapsFiltered (deleteParentsTransaction .ours)
        [deleteParentsTransaction .theirs] :=
  filterCoversAnalysis_iff (deleteParents_parsed .ours)
    (fun _ hother => List.mem_singleton.mp hother ▸ deleteParents_parsed .theirs)

end SqliteReconcile.WriteWriteFilter
