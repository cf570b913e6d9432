import SqliteReconcile.RemainingKinds
import SqliteReconcile.WriteWriteFilter

/-!
# The aggregate filter against the pairwise analysis

Reads, constraints and implicit keys: the counters of a queue answer for the whole queue what
the pairwise analysis answers for one transaction of it.
-/
namespace SqliteReconcile.RemainingKindsAnalysis
open Utils Models CascadeMetadata SqlMetadata StaticAnalysis RemainingMetadata
  RemainingMetadataIndex WriteWriteFilter

/-- Key sets come from a dict, and no key set and no foreign-key column list is empty. -/
structure KeysListed (context : ConflictCheckContext) : Prop where
  nodup : (context.keyColumnSets.map Prod.fst).Nodup
  keySets : ∀ entry ∈ context.keyColumnSets, ∀ keySet ∈ entry.2, keySet ≠ ∅
  parentColumns : ∀ edge ∈ context.schemaCache.foreignKeyEdges, edge.parentColumns ≠ []
  childColumns : ∀ edge ∈ context.schemaCache.foreignKeyEdges, edge.childColumns ≠ []

variable {context : ConflictCheckContext} {current : LoggedTransaction}
  {remaining : List LoggedTransaction}

section
variable {metadata : StatementMetadata} {transaction : LoggedTransaction} {table : String}
  {columns : Finset String}

lemma metadataWriteOverlap_ne_empty :
    metadataWriteOverlap metadata table columns ≠ ∅ ↔
      metadata.tableUpdated = some table ∧ Meets metadata.columnsUpdated columns := by
  unfold metadataWriteOverlap
  split_ifs with htable
  · simp [htable]
  · simp only [not_not] at htable
    simp [htable, Meets]

lemma eq_requiredUpdatedTable (h : ParsedIn context metadata)
    (hk : metadata.statementKind ≠ .other) :
    table = requiredUpdatedTable metadata ↔ metadata.tableUpdated = some table := by
  rw [h.tableUpdated_eq hk, Option.some_inj, eq_comm]

lemma statementOverlaps_createOrChangeKey (h : ParsedIn context metadata) (hne : columns ≠ ∅) :
    statementOverlaps context .createOrChangeKey table columns metadata ↔
      statementMayCreateOrChangeKey metadata table columns ∨
        ∃ event ∈ metadata.cascadeWriteEvents,
          cascadeEventMayCreateOrChangeKey event table columns := by
  have hevents : (∃ event ∈ metadata.cascadeWriteEvents,
      CounterField.createOrChangeKey ∈ eventFields event.kind ∧ table = event.table ∧
        Meets event.columns columns) ↔
      ∃ event ∈ metadata.cascadeWriteEvents,
        cascadeEventMayCreateOrChangeKey event table columns := by
    refine exists_congr fun event => and_congr_right fun _ => ?_
    cases hk : event.kind <;>
      simp [cascadeEventMayCreateOrChangeKey, eventFields, hk, @eq_comm _ table]
  have hdirect : (CounterField.createOrChangeKey ∈ directFields metadata.statementKind ∧
      table = requiredUpdatedTable metadata ∧ Meets metadata.columnsUpdated columns) ↔
      statementMayCreateOrChangeKey metadata table columns := by
    unfold statementMayCreateOrChangeKey isInsertStatement isUpdateStatement
    rw [h.kind]
    cases hk : metadata.statementKind with
    | insert =>
      rw [eq_requiredUpdatedTable h (by simp [hk]), h.columnsUpdated_eq (by simp [hk])]
      simp [directFields, hne]
    | update =>
      rw [eq_requiredUpdatedTable h (by simp [hk])]
      simp only [directFields, metadataWriteOverlap_ne_empty]
      simp
    | delete => simp [directFields]
    | other => simp [directFields]
  simp only [statementOverlaps, hdirect, hevents, reduceCtorEq, false_and, false_or, or_false]

lemma statementOverlaps_removeOrChangeKey (h : ParsedIn context metadata) (hne : columns ≠ ∅) :
    statementOverlaps context .removeOrChangeKey table columns metadata ↔
      (metadata.tableUpdated = some table && (isDeleteStatement metadata ||
        (isUpdateStatement metadata && metadataWriteOverlap metadata table columns ≠ ∅))) ∨
        ∃ event ∈ metadata.cascadeWriteEvents,
          cascadeEventMayRemoveOrChangeKey event table columns := by
  have hevents : (∃ event ∈ metadata.cascadeWriteEvents,
      CounterField.removeOrChangeKey ∈ eventFields event.kind ∧ table = event.table ∧
        Meets event.columns columns) ↔
      ∃ event ∈ metadata.cascadeWriteEvents,
        cascadeEventMayRemoveOrChangeKey event table columns := by
    refine exists_congr fun event => and_congr_right fun he => ?_
    cases hk : event.kind with
    | delete =>
      rw [h.deletesAllColumns he hk]
      simp [cascadeEventMayRemoveOrChangeKey, eventFields, hk, hne, @eq_comm _ table]
    | update => simp [cascadeEventMayRemoveOrChangeKey, eventFields, hk, @eq_comm _ table]
  have hdirect : (CounterField.removeOrChangeKey ∈ directFields metadata.statementKind ∧
      table = requiredUpdatedTable metadata ∧ Meets metadata.columnsUpdated columns) ↔
      (metadata.tableUpdated = some table && (isDeleteStatement metadata ||
        (isUpdateStatement metadata && metadataWriteOverlap metadata table columns ≠ ∅))) := by
    unfold isDeleteStatement isUpdateStatement
    rw [h.kind]
    cases hk : metadata.statementKind with
    | insert => simp [directFields]
    | update =>
      rw [eq_requiredUpdatedTable h (by simp [hk])]
      simp only [directFields, metadataWriteOverlap_ne_empty]
      simp
    | delete =>
      rw [eq_requiredUpdatedTable h (by simp [hk]), h.columnsUpdated_eq (by simp [hk])]
      simp [directFields, hne]
    | other => simp [directFields]
  simp only [statementOverlaps, hdirect, hevents, reduceCtorEq, false_and, false_or, or_false]

lemma mayCreateOrChangeKey_iff (h : TransactionParsedIn context transaction) (hne : columns ≠ ∅) :
    transactionMetadataMayCreateOrChangeKey transaction.metadata table columns ↔
      ∃ statement ∈ transaction.statements,
        statementOverlaps context .createOrChangeKey table columns statement.metadata := by
  have hstatements : (∃ statement ∈ transaction.statements,
      statementOverlaps context .createOrChangeKey table columns statement.metadata) ↔
      ∃ statement ∈ transaction.statements,
        (statementMayCreateOrChangeKey statement.metadata table columns ∨
          ∃ event ∈ statement.metadata.cascadeWriteEvents,
            cascadeEventMayCreateOrChangeKey event table columns) :=
    exists_congr fun statement => and_congr_right fun hs =>
      statementOverlaps_createOrChangeKey (h.statements statement hs) hne
  rw [hstatements, transactionMetadataMayCreateOrChangeKey, h.metadata]
  simp only [transactionMetadata, List.any_map, List.any_flatMap, Bool.or_eq_true,
    List.any_eq_true, Function.comp_apply, and_or_left, exists_or]

lemma mayRemoveOrChangeKey_iff (h : TransactionParsedIn context transaction) (hne : columns ≠ ∅) :
    transactionMetadataMayRemoveOrChangeKey transaction.metadata table columns ↔
      ∃ statement ∈ transaction.statements,
        statementOverlaps context .removeOrChangeKey table columns statement.metadata := by
  have hstatements : (∃ statement ∈ transaction.statements,
      statementOverlaps context .removeOrChangeKey table columns statement.metadata) ↔
      ∃ statement ∈ transaction.statements,
        ((statement.metadata.tableUpdated = some table && (isDeleteStatement statement.metadata ||
          (isUpdateStatement statement.metadata &&
            metadataWriteOverlap statement.metadata table columns ≠ ∅))) ∨
          ∃ event ∈ statement.metadata.cascadeWriteEvents,
            cascadeEventMayRemoveOrChangeKey event table columns) :=
    exists_congr fun statement => and_congr_right fun hs =>
      statementOverlaps_removeOrChangeKey (h.statements statement hs) hne
  rw [hstatements, transactionMetadataMayRemoveOrChangeKey, h.metadata]
  simp only [transactionMetadata, List.any_map, List.any_flatMap, Bool.or_eq_true,
    List.any_eq_true, Function.comp_apply, and_or_left, exists_or]

end

section
variable (hremaining : ∀ other ∈ remaining, TransactionParsedIn context other) {table : String}
  {columns : Finset String} (hne : columns ≠ ∅)
include hremaining hne

lemma createOrChangeKey_counter :
    columnCounterOverlap (fromTransactions context remaining).createOrChangeKeyColumnCounts table
        columns ↔
      ∃ other ∈ remaining,
        transactionMetadataMayCreateOrChangeKey other.metadata table columns := by
  have hcounter := columnCounterOverlap_fromTransactions context remaining .createOrChangeKey
    table columns
  refine hcounter.trans (exists_congr fun other => and_congr_right fun ho => ?_)
  exact (mayCreateOrChangeKey_iff (hremaining other ho) hne).symm

lemma removeOrChangeKey_counter :
    columnCounterOverlap (fromTransactions context remaining).removeOrChangeKeyColumnCounts table
        columns ↔
      ∃ other ∈ remaining,
        transactionMetadataMayRemoveOrChangeKey other.metadata table columns := by
  have hcounter := columnCounterOverlap_fromTransactions context remaining .removeOrChangeKey
    table columns
  refine hcounter.trans (exists_congr fun other => and_congr_right fun ho => ?_)
  exact (mayRemoveOrChangeKey_iff (hremaining other ho) hne).symm

end

lemma mem_updated_of_mayCreateOrChangeKey {transaction : LoggedTransaction} {table : String}
    {columns : Finset String} (h : TransactionParsedIn context transaction) (hne : columns ≠ ∅)
    (hmay : transactionMetadataMayCreateOrChangeKey transaction.metadata table columns) :
    table ∈ transaction.metadata.tablesUpdatedToColumnsUpdated.keys := by
  obtain ⟨statement, hs, hoverlap⟩ := (mayCreateOrChangeKey_iff h hne).mp hmay
  obtain ⟨w, hw, -, htable, hmeets⟩ :=
    (statementOverlaps_write (by decide) (by decide) table columns).mp hoverlap
  have hstatement : Meets (statement.metadata.tablesUpdatedToColumnsUpdated.columns table)
      columns :=
    (updated_meets_iff (h.statements statement hs) table columns).mpr ⟨w, hw, htable.symm, hmeets⟩
  have htransaction : Meets (transaction.metadata.tablesUpdatedToColumnsUpdated.columns table)
      columns := by
    rw [h.metadata]
    exact (transactionMetadata_updated_meets _ table columns).mpr
      ⟨statement.metadata, List.mem_map_of_mem hs, hstatement⟩
  rw [Finmap.mem_keys]
  by_contra hnot
  rw [columns_of_notMem hnot] at htransaction
  exact not_empty_meets columns htransaction

lemma lookup_of_mem {α : Type*} {entries : List (String × α)} {key : String} {value : α}
    (hnodup : (entries.map Prod.fst).Nodup) (h : (key, value) ∈ entries) :
    entries.lookup key = some value := by
  induction entries with
  | nil => cases h
  | cons entry entries ih =>
    obtain ⟨first, other⟩ := entry
    rw [List.map_cons, List.nodup_cons] at hnodup
    rw [List.lookup_cons]
    rcases List.mem_cons.mp h with heq | hmem
    · cases heq
      rw [beq_self_eq_true]
    · have hne : key ≠ first := by
        intro heq
        have hfirst : (key, value).1 ∈ entries.map Prod.fst := List.mem_map_of_mem hmem
        apply hnodup.1
        rw [← heq]
        exact hfirst
      rw [beq_eq_false_iff_ne.mpr hne]
      exact ih hnodup.2 hmem

section
variable (hkeys : KeysListed context) (hcurrent : TransactionParsedIn context current)
  (hremaining : ∀ other ∈ remaining, TransactionParsedIn context other)
include hkeys hcurrent hremaining

/-- Key constraints: the index finds a possible conflict exactly when a pair has one. -/
lemma keyConstraint_iff :
    keyConstraintConflictPossibleWithIndex context current (fromTransactions context remaining) ↔
      ∃ other ∈ remaining,
        keyConstraintConflictPossible context current.metadata other.metadata := by
  unfold keyConstraintConflictPossibleWithIndex keyConstraintConflictPossible
  simp only [decide_eq_true_eq, List.any_eq_true, Bool.and_eq_true]
  constructor
  · intro ⟨table, htable, keySet, hkeySet, hcreate, hcounter⟩
    unfold ConflictCheckContext.keySets at hkeySet
    cases hlookup : context.keyColumnSets.lookup table with
    | none =>
      rw [hlookup] at hkeySet
      cases hkeySet
    | some keySets =>
      rw [hlookup] at hkeySet
      have hentry := Loops.mem_of_lookup hlookup
      have hne := hkeys.keySets _ hentry keySet hkeySet
      obtain ⟨other, ho, hother⟩ := (createOrChangeKey_counter hremaining hne).mp hcounter
      exact ⟨other, ho, _, hentry, keySet, hkeySet, hcreate, hother⟩
  · intro ⟨other, ho, ⟨table, keySets⟩, hentry, keySet, hkeySet, hcreate, hother⟩
    have hne := hkeys.keySets _ hentry keySet hkeySet
    refine ⟨table, mem_updated_of_mayCreateOrChangeKey hcurrent hne hcreate, keySet, ?_, hcreate,
      (createOrChangeKey_counter hremaining hne).mpr ⟨other, ho, hother⟩⟩
    unfold ConflictCheckContext.keySets
    rw [lookup_of_mem hkeys.nodup hentry]
    exact hkeySet

omit hcurrent in
/-- Foreign keys: both analyses walk the edges of the tables that the current side writes. -/
lemma foreignKeyConstraint_iff :
    foreignKeyConstraintConflictPossibleWithIndex context current
        (fromTransactions context remaining) ↔
      ∃ other ∈ remaining,
        foreignKeyConstraintConflictPossible context current.metadata other.metadata := by
  have hparent : ∀ table, ∀ edge ∈ foreignKeyEdgesByParent context table,
      (columnCounterOverlap (fromTransactions context remaining).createOrChangeKeyColumnCounts
          edge.childTable edge.childColumns.toFinset ↔
        ∃ other ∈ remaining, transactionMetadataMayCreateOrChangeKey other.metadata
          edge.childTable edge.childColumns.toFinset) := by
    intro table edge hedge
    apply createOrChangeKey_counter hremaining
    have hne := hkeys.childColumns edge (List.mem_of_mem_filter hedge)
    simpa using hne
  have hchild : ∀ table, ∀ edge ∈ foreignKeyEdgesByChild context table,
      (columnCounterOverlap (fromTransactions context remaining).removeOrChangeKeyColumnCounts
          edge.parentTable edge.parentColumns.toFinset ↔
        ∃ other ∈ remaining, transactionMetadataMayRemoveOrChangeKey other.metadata
          edge.parentTable edge.parentColumns.toFinset) := by
    intro table edge hedge
    apply removeOrChangeKey_counter hremaining
    have hne := hkeys.parentColumns edge (List.mem_of_mem_filter hedge)
    simpa using hne
  unfold foreignKeyConstraintConflictPossibleWithIndex foreignKeyConstraintConflictPossible
  simp only [decide_eq_true_eq, List.any_eq_true, Bool.and_eq_true]
  constructor
  · intro ⟨table, htable, hedges⟩
    rcases hedges with ⟨edge, hedge, hremove, hcounter⟩ | ⟨edge, hedge, hcreate, hcounter⟩
    · obtain ⟨other, ho, hother⟩ := (hparent table edge hedge).mp hcounter
      exact ⟨other, ho, table, htable, .inl ⟨edge, hedge, hremove, hother⟩⟩
    · obtain ⟨other, ho, hother⟩ := (hchild table edge hedge).mp hcounter
      exact ⟨other, ho, table, htable, .inr ⟨edge, hedge, hcreate, hother⟩⟩
  · intro ⟨other, ho, table, htable, hedges⟩
    refine ⟨table, htable, ?_⟩
    rcases hedges with ⟨edge, hedge, hremove, hother⟩ | ⟨edge, hedge, hcreate, hother⟩
    · exact .inl ⟨edge, hedge, hremove, (hparent table edge hedge).mpr ⟨other, ho, hother⟩⟩
    · exact .inr ⟨edge, hedge, hcreate, (hchild table edge hedge).mpr ⟨other, ho, hother⟩⟩

end

lemma writeRead_iff (hremaining : ∀ other ∈ remaining, TransactionParsedIn context other) :
    columnSetsOverlapCounter current.metadata.tablesUpdatedToColumnsUpdated
        (fromTransactions context remaining).tablesReferencedToColumnCounts ↔
      ∃ other ∈ remaining, transactionWriteReadOverlap current.metadata other.metadata := by
  have hcounter := fun table columns =>
    columnCounterOverlap_fromTransactions context remaining .referenced table columns
  have hreads : ∀ other ∈ remaining, ∀ table columns,
      Meets (other.metadata.tablesReferencedToColumnsReferenced.columns table) columns ↔
        ∃ statement ∈ other.statements,
          statementOverlaps context .referenced table columns statement.metadata := by
    intro other ho table columns
    rw [(hremaining other ho).metadata, transactionMetadata_referenced_meets]
    have hfields : ∀ kind, CounterField.referenced ∉ directFields kind := by
      intro kind
      cases kind <;> decide
    have hevents : ∀ kind, CounterField.referenced ∉ eventFields kind := by
      intro kind
      cases kind <;> decide
    simp [statementOverlaps, hfields, hevents]
  unfold columnSetsOverlapCounter transactionWriteReadOverlap columnsByTableOverlap
  simp only [decide_eq_true_eq]
  constructor
  · rintro ⟨table, htable, hoverlap⟩
    obtain ⟨other, ho, hstatement⟩ := (hcounter _ _).mp hoverlap
    have hmeets := (hreads other ho _ _).mpr hstatement
    refine ⟨other, ho, table, htable, ?_, hmeets.symm⟩
    by_contra hnot
    rw [columns_of_notMem hnot] at hmeets
    exact not_empty_meets _ hmeets
  · rintro ⟨other, ho, table, htable, -, hmeets⟩
    exact ⟨table, htable, (hcounter _ _).mpr ⟨other, ho, (hreads other ho _ _).mp hmeets.symm⟩⟩

section
variable {insert other : StatementMetadata}

/-- What one direction of the implicit-key check finds. -/
def MayShareKey (context : ConflictCheckContext) (insert other : StatementMetadata) : Prop :=
  ∃ key, omittedIntegerPrimaryKeyColumn context insert = some key ∧
    insert.tableUpdated = other.tableUpdated ∧ insert.statementKind = .insert ∧
    (omittedIntegerPrimaryKeyColumn context other = some key ∧ other.statementKind = .insert ∨
      other.statementKind = .update ∧ Meets other.columnsUpdated {key})

lemma omittedKey_insert (h : ParsedIn context insert) {key : String}
    (hkey : omittedIntegerPrimaryKeyColumn context insert = some key) :
    insert.statementKind = .insert ∧
      integerPrimaryKeyColumn context (requiredUpdatedTable insert) = some key := by
  unfold omittedIntegerPrimaryKeyColumn at hkey
  split at hkey
  · cases hkey
  · rename_i hinsert
    simp only [isInsertStatement, Bool.not_eq_true', decide_eq_false_iff_not, not_not,
      h.kind] at hinsert
    split at hkey
    · cases hkey
    · rename_i column hcolumn
      simp only at hkey
      split at hkey
      · cases hkey
      · cases hkey
        exact ⟨hinsert, hcolumn⟩

lemma mayShareKey_of_conflictsFrom {insertLabel otherLabel : String}
    (hinsert : ParsedIn context insert) (hother : ParsedIn context other)
    (h : (implicitInsertKeyConflictsFrom context insertLabel insert otherLabel other).1 ≠ []) :
    MayShareKey context insert other := by
  unfold implicitInsertKeyConflictsFrom at h
  cases hkey : omittedIntegerPrimaryKeyColumn context insert with
  | none =>
    rw [hkey] at h
    exact absurd rfl h
  | some key =>
    obtain ⟨hkind, hcolumn⟩ := omittedKey_insert hinsert hkey
    simp only [hkey] at h
    split at h
    · exact absurd rfl h
    · rename_i hsame
      simp only [Bool.not_eq_true', Bool.not_eq_false, sameWrittenTable, decide_eq_true_eq] at hsame
      have hrequired : requiredUpdatedTable other = requiredUpdatedTable insert := by
        unfold requiredUpdatedTable
        rw [hsame.2]
      refine ⟨key, hkey, hsame.2, hkind, ?_⟩
      split at h
      · rename_i homitted
        obtain ⟨key', hkey'⟩ := Option.isSome_iff_exists.mp homitted
        obtain ⟨hkind', hcolumn'⟩ := omittedKey_insert hother hkey'
        rw [hrequired, hcolumn] at hcolumn'
        cases hcolumn'
        exact .inl ⟨hkey', hkind'⟩
      · right
        unfold implicitInsertKeyUpdateConflict at h
        split at h
        · exact absurd rfl h
        · rename_i hupdate
          simp only at h
          split at h
          · exact absurd rfl h
          · rename_i hoverlap
            simp only [isUpdateStatement, Bool.or_eq_true, Bool.not_eq_true', not_or,
              Bool.not_eq_false, decide_eq_true_eq, hother.kind] at hupdate
            exact ⟨hupdate.2, (metadataWriteOverlap_ne_empty.mp hoverlap).2⟩

lemma mayShareKey_of_conflicts {ours theirs : StatementMetadata}
    (hours : ParsedIn context ours) (htheirs : ParsedIn context theirs)
    (h : implicitInsertKeyConflicts context ours theirs ≠ []) :
    MayShareKey context ours theirs ∨ MayShareKey context theirs ours := by
  unfold implicitInsertKeyConflicts at h
  simp only at h
  split at h
  · exact .inl (mayShareKey_of_conflictsFrom hours htheirs h)
  · by_cases hfirst : (implicitInsertKeyConflictsFrom context "ours" ours "theirs" theirs).1 = []
    · rw [hfirst, List.nil_append] at h
      exact .inr (mayShareKey_of_conflictsFrom htheirs hours h)
    · exact .inl (mayShareKey_of_conflictsFrom hours htheirs hfirst)

lemma mayShareKey_of_transactions {ours theirs : LoggedTransaction}
    (hours : TransactionParsedIn context ours) (htheirs : TransactionParsedIn context theirs)
    (h : transactionImplicitInsertKeyConflicts context ours.metadata theirs.metadata ≠ []) :
    ∃ o ∈ ours.statements, ∃ t ∈ theirs.statements,
      MayShareKey context o.metadata t.metadata ∨ MayShareKey context t.metadata o.metadata := by
  obtain ⟨conflict, hconflict⟩ := List.exists_mem_of_ne_nil _ h
  rw [hours.metadata, htheirs.metadata] at hconflict
  simp only [transactionImplicitInsertKeyConflicts, transactionMetadata, List.mem_flatMap,
    List.mem_map] at hconflict
  obtain ⟨_, ⟨o, ho, rfl⟩, _, ⟨t, ht, rfl⟩, hpair⟩ := hconflict
  exact ⟨o, ho, t, ht, mayShareKey_of_conflicts (hours.statements o ho) (htheirs.statements t ht)
    (List.ne_nil_of_mem hpair)⟩

end

lemma statementImplicit_of_mayShareKey {metadata : StatementMetadata}
    {other : LoggedTransaction} (hother : other ∈ remaining) {statement : LoggedStatement}
    (hs : statement ∈ other.statements)
    (hstatement : ParsedIn context statement.metadata)
    (h : MayShareKey context metadata statement.metadata ∨
      MayShareKey context statement.metadata metadata) :
    statementImplicitInsertKeyConflictPossible context (fromTransactions context remaining)
      metadata := by
  have hcounter := fun field table columns =>
    (columnCounterOverlap_fromTransactions context remaining field table columns).mpr
  have hsameTable : ∀ {left right : StatementMetadata}, left.tableUpdated = right.tableUpdated →
      requiredUpdatedTable left = requiredUpdatedTable right := by
    intro left right heq
    unfold requiredUpdatedTable
    rw [heq]
  have homitted : ∀ {key table columns}, omittedIntegerPrimaryKeyColumn context
        statement.metadata = some key → table = requiredUpdatedTable statement.metadata →
      Meets {key} columns → columnCounterOverlap
        (fromTransactions context remaining).omittedIntegerPrimaryKeyCounts table columns := by
    intro key table columns hkey htable hmeets
    obtain ⟨hkind, -⟩ := omittedKey_insert hstatement hkey
    exact hcounter .omittedIntegerPrimaryKey table columns
      ⟨other, hother, statement, hs, .inr (.inr (.inr ⟨rfl, hkind, htable, key, hkey, hmeets⟩))⟩
  have hself : ∀ key : String, Meets {key} {key} := by
    intro key
    simp [meets_iff]
  unfold statementImplicitInsertKeyConflictPossible
  rcases h with ⟨key, hkey, htable, hkind, hshare⟩ | ⟨key, hkey, htable, hkind, hshare⟩
  · -- the current statement inserts
    have hrequired := hsameTable htable
    have hover : columnCounterOverlap
          (fromTransactions context remaining).omittedIntegerPrimaryKeyCounts
          (requiredUpdatedTable metadata) {key} ∨
        columnCounterOverlap (fromTransactions context remaining).updateColumnCounts
          (requiredUpdatedTable metadata) {key} := by
      rcases hshare with ⟨hkey', -⟩ | ⟨hupdate, hmeets⟩
      · exact .inl (homitted hkey' hrequired (hself key))
      · right
        refine hcounter .update _ _ ⟨other, hother, statement, hs, .inl ⟨?_, hrequired, hmeets⟩⟩
        rw [hupdate]
        decide
    have hpresent : ¬ (requiredUpdatedTable metadata ∉
          (fromTransactions context remaining).omittedIntegerPrimaryKeyCounts ∧
        requiredUpdatedTable metadata ∉
          (fromTransactions context remaining).updateColumnCounts) := by
      intro habsent
      rcases hover with hover | hover
      · exact habsent.1 (mem_of_columnCounterOverlap hover)
      · exact habsent.2 (mem_of_columnCounterOverlap hover)
    simp only [hkind, if_neg hpresent, hkey, Bool.or_eq_true]
    exact hover
  · have hrequired := hsameTable htable.symm
    rcases hshare with ⟨hkey', hinsert⟩ | ⟨hupdate, hmeets⟩
    · have hover := homitted hkey hrequired (hself key)
      have hpresent : ¬ (requiredUpdatedTable metadata ∉
            (fromTransactions context remaining).omittedIntegerPrimaryKeyCounts ∧
          requiredUpdatedTable metadata ∉
            (fromTransactions context remaining).updateColumnCounts) :=
        fun habsent => habsent.1 (mem_of_columnCounterOverlap hover)
      simp only [hinsert, if_neg hpresent, hkey', Bool.or_eq_true]
      exact .inl hover
    · simp only [hupdate]
      exact homitted hkey hrequired hmeets.symm

lemma implicitInsertKey_mem_kinds {other : LoggedTransaction} (hother : other ∈ remaining)
    (hparsed : TransactionParsedIn context other) {statement otherStatement : LoggedStatement}
    (hs : statement ∈ current.statements) (ho : otherStatement ∈ other.statements)
    (h : MayShareKey context statement.metadata otherStatement.metadata ∨
      MayShareKey context otherStatement.metadata statement.metadata) :
    .implicitInsertKey ∈ remainingIndividualCheckKinds context current
      (fromTransactions context remaining) := by
  have hne : ¬ (fromTransactions context remaining).isEmpty := by
    rw [isEmpty_fromTransactions]
    exact List.ne_nil_of_mem hother
  have hpossible := statementImplicit_of_mayShareKey hother ho
    (hparsed.statements otherStatement ho) h
  have hcurrent : implicitInsertKeyConflictPossible context current
      (fromTransactions context remaining) :=
    List.any_eq_true.mpr ⟨statement, hs, hpossible⟩
  unfold remainingIndividualCheckKinds
  rw [if_neg hne]
  simp [hcurrent]

/-- The index answers for the queue what the pairwise analysis answers for its transactions:
exactly for reads of current writes and for constraints, and at least for implicit keys. -/
theorem kinds_of_pairAnalysis (branch : BranchName) (oursLabel theirsLabel : Option String)
    (hkeys : KeysListed context) (hcurrent : TransactionParsedIn context current)
    (hremaining : ∀ other ∈ remaining, TransactionParsedIn context other) :
    (.writeRead ∈ remainingIndividualCheckKinds context current
          (fromTransactions context remaining) ↔
        ∃ other ∈ remaining, (pairAnalysis context branch (some branch) oursLabel theirsLabel
          current other).hasKind .writeRead) ∧
      (.integrity ∈ remainingIndividualCheckKinds context current
          (fromTransactions context remaining) ↔
        ∃ other ∈ remaining,
          constraintConflictPossible context current.metadata other.metadata) ∧
      ((∃ other ∈ remaining, ∃ orderedFrom, (pairAnalysis context branch orderedFrom oursLabel
          theirsLabel current other).hasKind .implicitInsertKey) →
        .implicitInsertKey ∈ remainingIndividualCheckKinds context current
          (fromTransactions context remaining)) := by
  have hkinds : ∀ kind, (∃ other ∈ remaining, True) →
      (kind ∈ remainingIndividualCheckKinds context current (fromTransactions context remaining) ↔
        (writeWriteConflictPossible current (fromTransactions context remaining) ∧
            kind = .writeWrite ∨
          columnSetsOverlapCounter current.metadata.tablesUpdatedToColumnsUpdated
              (fromTransactions context remaining).tablesReferencedToColumnCounts ∧
            kind = .writeRead ∨
          implicitInsertKeyConflictPossible context current (fromTransactions context remaining) ∧
            kind = .implicitInsertKey ∨
          constraintConflictPossibleWithIndex context current
              (fromTransactions context remaining) ∧ kind = .integrity)) := by
    rintro kind ⟨other, ho, -⟩
    have hne : ¬ (fromTransactions context remaining).isEmpty := by
      rw [isEmpty_fromTransactions]
      exact List.ne_nil_of_mem ho
    unfold remainingIndividualCheckKinds
    rw [if_neg hne]
    simp only [Finset.mem_union, mem_kindWhen, or_assoc]
  have hempty : remaining = [] →
      remainingIndividualCheckKinds context current (fromTransactions context remaining) = ∅ := by
    intro hnil
    unfold remainingIndividualCheckKinds
    rw [if_pos ((isEmpty_fromTransactions context remaining).mpr hnil)]
  refine ⟨?_, ?_, ?_⟩
  · have hpair : ∀ other : LoggedTransaction, (pairAnalysis context branch (some branch) oursLabel
        theirsLabel current other).hasKind .writeRead ↔
        transactionWriteReadOverlap current.metadata other.metadata := by
      intro other
      cases branch <;> simp [pairAnalysis, staticAnalysisMatching_hasKind, kindEnabled]
    simp only [hpair]
    rcases List.eq_nil_or_concat remaining with hnil | ⟨front, last, hconcat⟩
    · rw [hempty hnil, hnil]
      simp
    · rw [hkinds _ ⟨last, by simp [hconcat], trivial⟩]
      simp [writeRead_iff hremaining]
  · have hconstraint : constraintConflictPossibleWithIndex context current
        (fromTransactions context remaining) ↔
        ∃ other ∈ remaining,
          constraintConflictPossible context current.metadata other.metadata := by
      unfold constraintConflictPossibleWithIndex constraintConflictPossible
      simp only [Bool.or_eq_true, keyConstraint_iff hkeys hcurrent hremaining,
        foreignKeyConstraint_iff hkeys hremaining, and_or_left, exists_or]
    rcases List.eq_nil_or_concat remaining with hnil | ⟨front, last, hconcat⟩
    · rw [hempty hnil, hnil]
      simp
    · rw [hkinds _ ⟨last, by simp [hconcat], trivial⟩]
      simp [hconstraint]
  · rintro ⟨other, ho, orderedFrom, hreported⟩
    have hstatements : ∃ s ∈ current.statements, ∃ o ∈ other.statements,
        MayShareKey context s.metadata o.metadata ∨
          MayShareKey context o.metadata s.metadata := by
      cases branch with
      | ours =>
        simp only [pairAnalysis, staticAnalysisMatching_hasKind, kindEnabled, reduceCtorEq,
          false_and, and_false, or_false, true_and] at hreported
        exact mayShareKey_of_transactions hcurrent (hremaining other ho) hreported
      | theirs =>
        simp only [pairAnalysis, staticAnalysisMatching_hasKind, kindEnabled, reduceCtorEq,
          false_and, and_false, or_false, true_and] at hreported
        obtain ⟨o, hmem, s, hs, hshare⟩ :=
          mayShareKey_of_transactions (hremaining other ho) hcurrent hreported
        exact ⟨s, hs, o, hmem, hshare.symm⟩
    obtain ⟨s, hs, o, hmem, hshare⟩ := hstatements
    exact implicitInsertKey_mem_kinds ho (hremaining other ho) hs hmem hshare

lemma keysListed_parentChild : KeysListed parentChildContext := by
  refine ⟨by decide, ?_, ?_, ?_⟩
  · intro entry he keySet hk hempty
    subst hempty
    revert entry
    decide
  · intro edge he
    rw [List.mem_singleton.mp he]
    decide
  · intro edge he
    rw [List.mem_singleton.mp he]
    decide

/-- The constraints of two deletions from the parent table. -/
theorem kinds_of_pairAnalysis_parent_deletes :
    (.integrity ∈ remainingIndividualCheckKinds parentChildContext
          (deleteParentsTransaction .ours)
          (fromTransactions parentChildContext [deleteParentsTransaction .theirs]) ↔
        ∃ other ∈ [deleteParentsTransaction .theirs], constraintConflictPossible
          parentChildContext (deleteParentsTransaction .ours).metadata other.metadata) :=
  (kinds_of_pairAnalysis .ours none none keysListed_parentChild (deleteParents_parsed .ours)
    (fun _ hother => List.mem_singleton.mp hother ▸ deleteParents_parsed .theirs)).2.1

end SqliteReconcile.RemainingKindsAnalysis
