import SqliteReconcile.RowMerged

/-!
# The constraints of the merged rows

Statements of different sides that are applied do not take one value of a unique index, as far as the
comparison sees it. The merged rows violate a constraint only if a row that was held back keeps a value
that its side gives to another row, or if values are equal to SQLite that the comparison tells apart.
-/
namespace SqliteReconcile.RowMerge
open Dicts Outcomes

variable {V : Type} [DecidableEq V] {databases : Databases V} {table : String}

omit [DecidableEq V] in
lemma names_congr {predicates : List (Predicate V)} {first second : Row V}
    (hkey : rowKey databases table first = rowKey databases table second)
    (hnames : Names databases table predicates first) :
    Names databases table predicates second := by
  have hsame := rowKey_eq_iff.mp hkey
  refine ⟨fun column hcolumn => ?_, fun predicate hpredicate => ?_⟩
  · rw [← hsame column hcolumn]
    exact hnames.1 column hcolumn
  · obtain ⟨column, hcolumn, rfl⟩ := hnames.2 predicate hpredicate
    exact ⟨column, hcolumn, by rw [hsame column hcolumn]⟩

omit [DecidableEq V] in
lemma assign_of_mem {columns : List (String × V)} (hnodup : (columns.map Prod.fst).Nodup)
    {column : String × V} (hmem : column ∈ columns) (row : Row V) :
    assign columns row column.1 = column.2 := by
  induction columns generalizing row with
  | nil => cases hmem
  | cons first rest ih =>
    obtain ⟨hfirst, hrest⟩ := List.nodup_cons.mp hnodup
    rcases List.mem_cons.mp hmem with rfl | hmem
    · have hlater : ∀ later ∈ rest, later.1 ≠ column.1 :=
        fun later hlater hsame => hfirst (hsame ▸ List.mem_map_of_mem hlater)
      exact (assign_of_not_mem hlater).trans (Function.update_self _ _ _)
    · exact ih hrest hmem _

lemma names_of_insert {columns : List (String × V)} {predicates : List (Predicate V)}
    (hnodup : (columns.map Prod.fst).Nodup)
    (hkeyed : ∀ column ∈ (databases.primaryKeys table).keys,
      insertedRow databases columns column ≠ databases.null)
    (h : buildWhereExprFromInsert databases (databases.primaryKeys table) columns =
      .ok predicates) : Names databases table predicates (insertedRow databases columns) := by
  have hpredicates : predicates = (columns.filter fun column =>
      column.1 ∈ (databases.primaryKeys table).keys).map fun column =>
        if column.2 = databases.null then .isNull column.1 else .eq column.1 column.2 := by
    rw [buildWhereExprFromInsert] at h
    split at h
    · cases h
    · exact (Except.ok.inj h).symm
  -- each column of the key gives one predicate
  have hpredicate : ∀ column ∈ columns, column.1 ∈ (databases.primaryKeys table).keys →
      (if column.2 = databases.null then Predicate.isNull column.1
        else .eq column.1 column.2) = .eq column.1 (insertedRow databases columns column.1) := by
    intro column hcolumn hkey
    have hvalue : insertedRow databases columns column.1 = column.2 := assign_of_mem hnodup hcolumn _
    rw [hvalue, if_neg (hvalue ▸ hkeyed column.1 hkey)]
  rw [hpredicates]
  constructor
  · intro name hname
    obtain ⟨column, hcolumn, rfl⟩ : ∃ column ∈ columns, column.1 = name := by
      by_contra hnone
      refine hkeyed name hname (assign_of_not_mem fun column hcolumn hsame => ?_)
      exact hnone ⟨column, hcolumn, hsame⟩
    refine List.mem_map.mpr ⟨column, ?_, hpredicate column hcolumn hname⟩
    exact List.mem_filter.mpr ⟨hcolumn, by simpa using hname⟩
  · intro predicate hmem
    obtain ⟨column, hcolumn, rfl⟩ := List.mem_map.mp hmem
    obtain ⟨hcolumn, hkey⟩ := List.mem_filter.mp hcolumn
    have hkey' : column.1 ∈ (databases.primaryKeys table).keys := by simpa using hkey
    exact ⟨column.1, hkey', hpredicate column hcolumn hkey'⟩

lemma firstRow_of_names (hs : Supported databases) {snapshot : Snapshot V}
    (hsnapshot : Constrained databases snapshot) (hkeyed : Keyed databases snapshot)
    {predicates : List (Predicate V)} {row : Row V} (hrow : row ∈ snapshot table)
    (hnames : Names databases table predicates row) :
    firstRow databases snapshot table predicates = some row :=
  firstRow_eq hs hsnapshot hrow (fun _ => selects_iff hnames) (hkeyed table row hrow)

def valuesOf (row : Row V) (columns : List (Option String)) : List V :=
  columns.filterMap (Option.map row)

/-- A statement gives a row its values in columns. -/
def Statement.Gives (statement : Statement V) (columns : List (Option String)) : Prop :=
  match statement.change with
  | .insert _ => True
  | .update assignments _ => ∃ assignment ∈ assignments, some assignment.1 ∈ columns
  | .delete _ => False

omit [DecidableEq V] in
lemma readColumns_eq {columns : List (Option String)} (hplain : none ∉ columns) (row : Row V) :
    readColumns row columns = .ok (valuesOf row columns) := by
  induction columns with
  | nil => rfl
  | cons column rest ih =>
    cases column with
    | none => exact absurd List.mem_cons_self hplain
    | some name =>
      have hrest := ih fun hnone => hplain (List.mem_cons_of_mem _ hnone)
      rw [readColumns] at hrest ⊢
      rw [mapM_cons, hrest]
      rfl

omit [DecidableEq V] in
lemma null_not_mem_valuesOf {columns : List (Option String)} {row : Row V}
    (hvalues : ∀ name, some name ∈ columns → row name ≠ databases.null) :
    databases.null ∉ valuesOf row columns := by
  intro hmem
  obtain ⟨column, hcolumn, hvalue⟩ := List.mem_filterMap.mp hmem
  obtain ⟨name, rfl, hnull⟩ := Option.map_eq_some_iff.mp hvalue
  exact hvalues name hcolumn hnull

def indexValues (databases : Databases V) (row : Row V) (index : IndexColumns) : IndexKey V :=
  (index, (valuesOf row index.2).map databases.hashed)

lemma indexKey_eq {index : IndexColumns} (hplain : none ∉ index.2) {row : Row V}
    (hvalues : ∀ name, some name ∈ index.2 → row name ≠ databases.null) :
    indexKey databases row index = .ok [indexValues databases row index] := by
  rw [indexKey, readColumns_eq hplain, ok_bind, if_neg (null_not_mem_valuesOf hvalues)]
  rfl

lemma scanIndexColumns_eq {row : Row V} {columnsUpdated : List String}
    {columns : List (Option String)} (hplain : none ∉ columns)
    (hvalues : ∀ name, some name ∈ columns → row name ≠ databases.null) :
    scanIndexColumns databases row columnsUpdated columns =
      .ok (columns.any fun column => column ∈ columnsUpdated.map some, false) := by
  induction columns with
  | nil => rfl
  | cons column rest ih =>
    cases column with
    | none => exact absurd List.mem_cons_self hplain
    | some name =>
      have hrest := ih (fun hnone => hplain (List.mem_cons_of_mem _ hnone))
        fun other hother => hvalues other (List.mem_cons_of_mem _ hother)
      have hread : readColumn row (some name) = .ok (row name) := rfl
      rw [scanIndexColumns, hread, ok_bind, if_neg (hvalues name List.mem_cons_self), hrest, ok_bind,
        List.any_cons]
      rfl

lemma mem_relevantIndexes {row : Row V} {columnsUpdated : List String}
    {indexes relevant : List IndexColumns}
    (h : relevantIndexes databases row columnsUpdated indexes = .ok relevant) {index : IndexColumns}
    (hindex : index ∈ indexes)
    (hscan : scanIndexColumns databases row columnsUpdated index.2 = .ok (true, false)) :
    index ∈ relevant := by
  induction indexes generalizing relevant with
  | nil => cases hindex
  | cons first rest ih =>
    rw [relevantIndexes] at h
    simp only [bind_eq_ok, pure_eq_ok] at h
    obtain ⟨scanned, hscanned, later, hlater, rfl⟩ := h
    rcases List.mem_cons.mp hindex with rfl | hindex
    · rw [hscan] at hscanned
      cases hscanned
      exact List.mem_cons_self
    · split
      · exact List.mem_cons_of_mem _ (ih hlater hindex)
      · exact ih hlater hindex

lemma mem_entryKeys {entry : Entry V} {keys : List (IndexKey V)}
    (h : entry.uniqueKeys databases = .ok keys) {index : IndexColumns}
    (hindex : index ∈ entry.indexes) (hplain : none ∉ index.2)
    (hvalues : ∀ name, some name ∈ index.2 → entry.row name ≠ databases.null) :
    indexValues databases entry.row index ∈ keys := by
  rw [Entry.uniqueKeys, bind_eq_ok] at h
  obtain ⟨found, hfound, hkeys⟩ := h
  obtain ⟨read, hread, hread'⟩ := exists_result_of_mem hfound hindex
  rw [indexKey_eq hplain hvalues] at hread'
  cases hread'
  cases hkeys
  exact List.mem_flatten.mpr ⟨_, hread, List.mem_singleton_self _⟩

section takes

variable {cursor : Snapshot V} {statement : Statement V} {row : Row V} {index : IndexColumns}

lemma takes_of_insert (hs : Supported databases) (hcursor : Constrained databases cursor)
    (hkeyed : Keyed databases cursor) {columns : List (String × V)}
    (hfits : Statement.Fits databases ⟨table, .insert columns⟩)
    (hread : Statement.Readable databases cursor ⟨table, .insert columns⟩)
    (hrow : insertedRow databases columns ∈ cursor table)
    (hindex : index ∈ databases.uniqueIndexes table)
    (hvalues : ∀ name, some name ∈ index.2 →
      insertedRow databases columns name ≠ databases.null) :
    Statement.Takes databases cursor ⟨table, .insert columns⟩
      (indexValues databases (insertedRow databases columns) index) := by
  obtain ⟨effect, heffect⟩ := hread
  refine ⟨effect, heffect, ?_⟩
  rw [effect_insert] at heffect
  simp only [bind_eq_ok, pure_eq_ok] at heffect
  obtain ⟨key, -, fetched, hfetched, entry, hentry, unique, hunique, rfl⟩ := heffect
  obtain ⟨predicates, hpredicates, hfound⟩ := bind_eq_ok.mp hfetched
  have hnames := names_of_insert hfits.change.1 hfits.change.2.1 hpredicates
  have hfetch : fetched = some (insertedRow databases columns) := by
    rw [← firstRow_of_names hs hcursor hkeyed hrow hnames]
    exact (firstRow_of_fetched hfound).symm
  have hnonempty : ¬ (databases.uniqueIndexes table).isEmpty = true := by
    rw [List.isEmpty_iff]
    exact List.ne_nil_of_mem hindex
  rw [hfetch, insertEntry, if_neg hnonempty] at hentry
  cases hentry
  exact mem_entryKeys hunique hindex (hs.plainIndexes table index hindex) hvalues

lemma takes_of_update (hs : Supported databases) (hcursor : Constrained databases cursor)
    (hkeyed : Keyed databases cursor) {assignments : List (String × V)}
    {predicates : List (Predicate V)}
    (hread : Statement.Readable databases cursor ⟨table, .update assignments predicates⟩)
    (hrow : row ∈ cursor table) (hnames : Names databases table predicates row)
    (hindex : index ∈ databases.uniqueIndexes table)
    (hgives : ∃ assignment ∈ assignments, some assignment.1 ∈ index.2)
    (hvalues : ∀ name, some name ∈ index.2 → row name ≠ databases.null) :
    Statement.Takes databases cursor ⟨table, .update assignments predicates⟩
      (indexValues databases row index) := by
  obtain ⟨effect, heffect⟩ := hread
  refine ⟨effect, heffect, ?_⟩
  have hplain := hs.plainIndexes table index hindex
  obtain ⟨assignment, hassignment, hcolumn⟩ := hgives
  have hupdates : Statement.updatesUniqueColumn databases table assignments = true := by
    refine List.any_eq_true.mpr ⟨assignment, hassignment, decide_eq_true ?_⟩
    exact List.mem_flatMap.mpr ⟨index, hindex, hcolumn⟩
  have hscan : scanIndexColumns databases row (assignments.map Prod.fst) index.2 =
      .ok (true, false) := by
    have hany : (index.2.any fun column => column ∈ (assignments.map Prod.fst).map some) = true := by
      refine List.any_eq_true.mpr ⟨some assignment.1, hcolumn, decide_eq_true ?_⟩
      exact List.mem_map_of_mem (List.mem_map_of_mem hassignment)
    rw [scanIndexColumns_eq hplain hvalues, hany]
  rw [effect_update, bind_eq_ok] at heffect
  obtain ⟨key, -, heffect⟩ := heffect
  rw [if_pos hupdates] at heffect
  simp only [bind_eq_ok, pure_eq_ok] at heffect
  obtain ⟨found, hfound, relevant, hrelevant, unique, hunique, removed, -, rfl⟩ := heffect
  have hfirst := firstRow_of_required hfound
  rw [firstRow_of_names hs hcursor hkeyed hrow hnames] at hfirst
  cases hfirst
  exact mem_entryKeys hunique (mem_relevantIndexes hrelevant hindex hscan) hplain hvalues

lemma takes_of_written (hb : BaseOk databases) (hcursor : Constrained databases cursor)
    (hkeyed : Keyed databases cursor) (hfits : statement.Fits databases)
    (hread : statement.Readable databases cursor) (hwritten : statement.written databases = some row)
    (hrow : row ∈ cursor statement.table) (hindex : index ∈ databases.uniqueIndexes statement.table)
    (hgives : statement.Gives index.2)
    (hvalues : ∀ name, some name ∈ index.2 → row name ≠ databases.null) :
    statement.Takes databases cursor (indexValues databases row index) := by
  obtain ⟨table, change⟩ := statement
  cases change with
  | insert columns =>
    cases hwritten
    exact takes_of_insert hb.toSupported hcursor hkeyed hfits hread hrow hindex hvalues
  | update assignments predicates =>
    obtain ⟨key, hkey⟩ := hfits.key
    obtain ⟨target, htarget⟩ := exists_targets_of_update hfits hkey
    rw [htarget.written hb] at hwritten
    cases hwritten
    have hnames := names_congr (rowKey_assign hfits.change.2 target).symm htarget.names
    exact takes_of_update hb.toSupported hcursor hkeyed hread hrow hnames hindex hgives hvalues
  | delete predicates => cases hgives

lemma exists_base_of_not_gives (hb : BaseOk databases) (hfits : statement.Fits databases)
    (hwritten : statement.written databases = some row) {columns : List (Option String)}
    (hgives : ¬ statement.Gives columns) :
    ∃ original ∈ databases.base statement.table,
      rowKey databases statement.table original = rowKey databases statement.table row ∧
      ∀ name, some name ∈ columns → original name = row name := by
  obtain ⟨table, change⟩ := statement
  cases change with
  | insert columns => exact absurd trivial hgives
  | update assignments predicates =>
    obtain ⟨key, hkey⟩ := hfits.key
    obtain ⟨target, htarget⟩ := exists_targets_of_update hfits hkey
    rw [htarget.written hb] at hwritten
    cases hwritten
    refine ⟨target, htarget.mem, (rowKey_assign hfits.change.2 target).symm, fun name hname => ?_⟩
    refine (assign_of_not_mem fun assignment hassignment hsame => ?_).symm
    exact hgives ⟨assignment, hassignment, hsame ▸ hname⟩
  | delete predicates => cases hwritten

end takes

/-- Two rows of a table cannot both be there. -/
def Collides (databases : Databases V) (table : String) (first second : Row V) : Prop :=
  ∃ columns ∈ constraints databases table, Agree databases table columns first second

omit [DecidableEq V] in
lemma Collides.symm (hs : Supported databases) {first second : Row V}
    (h : Collides databases table first second) : Collides databases table second first := by
  obtain ⟨columns, hcolumns, hagree⟩ := h
  exact ⟨columns, hcolumns, hagree.symm hs⟩

omit [DecidableEq V] in
lemma Constrained.not_collides (hs : Supported databases) {snapshot : Snapshot V}
    (h : Constrained databases snapshot) {first second : Row V} (hfirst : first ∈ snapshot table)
    (hsecond : second ∈ snapshot table) (hne : first ≠ second) :
    ¬ Collides databases table first second := by
  rintro ⟨columns, hcolumns, hagree⟩
  exact hne (h.eq_of_agree hs hcolumns hfirst hsecond hagree)

/-- Rows with different keys satisfy the constraints if no two of them collide. -/
lemma Reached.constrained {statements : List (Statement V)} {snapshot : Snapshot V}
    (h : Reached databases statements snapshot)
    (hapart : ∀ table, ∀ first ∈ snapshot table, ∀ second ∈ snapshot table, first ≠ second →
      ¬ Collides databases table first second) : Constrained databases snapshot := by
  intro table
  refine (h.distinct table).of_map.imp_of_mem fun {first second} hfirst hsecond hne => ?_
  exact fun columns hcolumns hagree => hapart table first hfirst second hsecond hne
    ⟨columns, hcolumns, hagree⟩

section sides

variable {invalid : Dict String InvalidTableState} {baseToOurs baseToTheirs : List (Statement V)}
  {comparison : Comparison V}

lemma Diffs.diff (hd : Diffs databases invalid baseToOurs baseToTheirs) (side : Bool) :
    RowDiff databases (databases.cursor side) (ofSide side baseToOurs baseToTheirs) := by
  cases side
  · exact hd.theirs
  · exact hd.ours

lemma Diffs.reached (hd : Diffs databases invalid baseToOurs baseToTheirs) (side : Bool) :
    Reached databases (ofSide side baseToOurs baseToTheirs)
      (describedRows databases (ofSide side baseToOurs baseToTheirs) databases.base) :=
  describedRows_reached hd.base (hd.diff side).fits (hd.diff side).once

lemma Diffs.mem_written (hd : Diffs databases invalid baseToOurs baseToTheirs) (side : Bool)
    {s : Statement V} (hs : s ∈ ofSide side baseToOurs baseToTheirs) {row : Row V}
    (hwritten : s.written databases = some row) : row ∈ databases.cursor side s.table :=
  ((hd.diff side).reaches s.table row).mpr
    (((hd.reached side).rows s.table row).mpr (.inr ⟨s, hs, rfl, hwritten⟩))

lemma Diffs.mem_untouched (hd : Diffs databases invalid baseToOurs baseToTheirs) (side : Bool)
    {row : Row V} (hrow : row ∈ databases.base table)
    (hnone : ¬ ∃ s ∈ ofSide side baseToOurs baseToTheirs,
      s.On databases table (rowKey databases table row)) : row ∈ databases.cursor side table :=
  ((hd.diff side).reaches table row).mpr
    (((hd.reached side).rows table row).mpr (.inl ⟨hrow, hnone⟩))

lemma Diffs.keyed (hd : Diffs databases invalid baseToOurs baseToTheirs) (side : Bool) :
    Keyed databases (databases.cursor side) := by
  intro table row hrow
  rcases ((hd.reached side).rows table row).mp (((hd.diff side).reaches table row).mp hrow) with
    ⟨hbase, -⟩ | ⟨s, hs, rfl, hwritten⟩
  · exact hd.base.keyed table row hbase
  · exact keyed_written hd.base ((hd.diff side).fits s hs) hwritten

/-- A statement on a table that the other side touches as well is read, unless the other side makes
the same change. -/
lemma readable_of_ok (hd : Diffs databases invalid baseToOurs baseToTheirs)
    (hrun : checkConflictAndReturnDiffs databases baseToOurs baseToTheirs invalid = .ok comparison)
    (side : Bool) {s : Statement V} (hs : s ∈ ofSide side baseToOurs baseToTheirs)
    (hvalid : invalid.get? s.table = none)
    (htouched : ∃ t ∈ ofSide side baseToTheirs baseToOurs, t.table = s.table)
    (hnone : ¬ ∃ t ∈ ofSide side baseToTheirs baseToOurs, SameChange databases t s) :
    s.Readable databases (databases.cursor side) := by
  obtain ⟨hashed, hhashed⟩ : ∃ hashed, hashed = hashesOurs baseToOurs baseToTheirs := ⟨_, rfl⟩
  have honce : ∀ side, OncePerKey databases (ofSide side baseToOurs baseToTheirs) :=
    fun side => (hd.diff side).once
  have hknown : ∀ side, KnownKeys databases (ofSide side baseToOurs baseToTheirs) :=
    fun side => knownKeys_of_rowDiff hd.base (hd.diff side)
  have hlookup : ofSide hashed baseToTheirs baseToOurs = ofSide (!hashed) baseToOurs baseToTheirs := by
    cases hashed <;> rfl
  have hfit : PartnersFit databases invalid (databases.cursor hashed)
      (ofSide hashed baseToOurs baseToTheirs) (ofSide hashed baseToTheirs baseToOurs) := by
    refine partnersFit (honce hashed) (hknown hashed) ?_
    rw [hlookup]
    exact hknown (!hashed)
  have honceLookup : OncePerKey databases (ofSide hashed baseToTheirs baseToOurs) := by
    rw [hlookup]
    exact honce (!hashed)
  obtain ⟨effects, looked, h, hl, -⟩ :=
    compared_of_ok hhashed rfl rfl (honce hashed) honceLookup hfit hrun
  by_cases hside : side = hashed
  · subst hside
    exact exists_readEffects_iff.mp ⟨effects, h⟩ s hs hvalid
  · have hside' : side = !hashed := by
      revert hside
      cases side <;> cases hashed <;> simp
    subst hside'
    have hlists : ofSide (!hashed) baseToTheirs baseToOurs =
        ofSide hashed baseToOurs baseToTheirs := by cases hashed <;> rfl
    rw [hlists] at htouched hnone
    rw [← hlookup] at hs
    exact ((exists_readLooks_iff (honce hashed) h).mp ⟨looked, hl⟩ s hs hvalid htouched).2.2 hnone

omit [DecidableEq V] in
lemma exists_last {P : Statement V → Prop} {list : List (Statement V)}
    (hsome : ∃ t ∈ list, P t) :
    ∃ j : ℕ, (∃ t, list[j]? = some t ∧ P t) ∧
      ∀ (j' : ℕ) t, list[j']? = some t → P t → j' ≤ j := by
  have hbound : BddAbove {j : ℕ | ∃ t, list[j]? = some t ∧ P t} := by
    refine ⟨list.length, ?_⟩
    rintro j ⟨t, hget, -⟩
    exact (List.getElem?_eq_some_iff.mp hget).1.le
  have hnonempty : {j : ℕ | ∃ t, list[j]? = some t ∧ P t}.Nonempty := by
    obtain ⟨t, ht, hP⟩ := hsome
    obtain ⟨j, hget⟩ := List.mem_iff_getElem?.mp ht
    exact ⟨j, t, hget, hP⟩
  exact ⟨_, Nat.sSup_mem hnonempty hbound, fun j t hget hP => le_csSup hbound ⟨t, hget, hP⟩⟩

/-- Two statements that are applied do not take one value. -/
lemma not_takes_both {s t : Statement V}
    (hs : s ∈ baseToOurs) (ht : t ∈ baseToTheirs) (htable : s.table = t.table)
    (hfree : ¬ HeldBack databases invalid baseToOurs baseToTheirs true s)
    (hfree' : ¬ HeldBack databases invalid baseToOurs baseToTheirs false t)
    (hnone : ¬ ∃ other ∈ baseToTheirs, SameChange databases other s)
    (hnone' : ¬ ∃ other ∈ baseToOurs, SameChange databases other t) {key : IndexKey V}
    (htakes : s.Takes databases (databases.cursor true) key) :
    ¬ t.Takes databases (databases.cursor false) key := by
  intro htakes'
  cases hside : hashesOurs baseToOurs baseToTheirs with
  | true =>
    obtain ⟨j, ⟨u, hget, hon, hu⟩, hlast⟩ := @exists_last V (fun u => u.table = t.table ∧
      u.Takes databases (databases.cursor true) key) baseToOurs ⟨s, hs, htable, htakes⟩
    have hlooked : (!false) = hashesOurs baseToOurs baseToTheirs := hside.symm
    refine ((not_heldBack_looked hlooked).mp hfree').2 (.inr ⟨hnone', j, ?_⟩)
    exact ⟨key, htakes', ⟨u, hget, hon, hu⟩,
      fun j' u' hget' hon' hu' => hlast j' u' hget' ⟨hon', hu'⟩⟩
  | false =>
    obtain ⟨j, ⟨u, hget, hon, hu⟩, hlast⟩ := @exists_last V (fun u => u.table = s.table ∧
      u.Takes databases (databases.cursor false) key) baseToTheirs ⟨t, ht, htable.symm, htakes'⟩
    have hlooked : (!true) = hashesOurs baseToOurs baseToTheirs := hside.symm
    refine ((not_heldBack_looked hlooked).mp hfree).2 (.inr ⟨hnone, j, ?_⟩)
    exact ⟨key, htakes, ⟨u, hget, hon, hu⟩,
      fun j' u' hget' hon' hu' => hlast j' u' hget' ⟨hon', hu'⟩⟩

/-- A statement of a side that is held back leaves its row with a value that a statement of the same
side, which is applied, gives to another row. -/
def KeepsValue (databases : Databases V) (invalid : Dict String InvalidTableState)
    (baseToOurs baseToTheirs : List (Statement V)) : Prop :=
  ∃ side, ∃ s ∈ ofSide side baseToOurs baseToTheirs, ∃ held ∈ ofSide side baseToOurs baseToTheirs,
    s.table = held.table ∧ ¬ HeldBack databases invalid baseToOurs baseToTheirs side s ∧
    HeldBack databases invalid baseToOurs baseToTheirs side held ∧
    ∃ row, s.written databases = some row ∧ ∃ original ∈ databases.base s.table,
      held.On databases s.table (rowKey databases s.table original) ∧
      Collides databases s.table row original

/-- Two statements of different sides that are applied write rows that SQLite holds equal in the key,
or in an index in which the comparison tells them apart. -/
def ToldApart (databases : Databases V) (invalid : Dict String InvalidTableState)
    (baseToOurs baseToTheirs : List (Statement V)) : Prop :=
  ∃ s ∈ baseToOurs, ∃ t ∈ baseToTheirs, s.table = t.table ∧ ¬ SameKey databases s t ∧
    ¬ HeldBack databases invalid baseToOurs baseToTheirs true s ∧
    ¬ HeldBack databases invalid baseToOurs baseToTheirs false t ∧
    ∃ first, s.written databases = some first ∧ ∃ second, t.written databases = some second ∧
      (Agree databases s.table (keyColumns databases s.table) first second ∨
        ∃ index ∈ databases.uniqueIndexes s.table,
          Agree databases s.table index.2 first second ∧
          indexValues databases first index ≠ indexValues databases second index)

section applied

variable {statements : List (Statement V)}
  (hd : Diffs databases invalid baseToOurs baseToTheirs)
  (ha : Applied databases invalid baseToOurs baseToTheirs statements)
include hd ha

lemma Applied.mem_written (side : Bool) {s : Statement V}
    (hs : s ∈ ofSide side baseToOurs baseToTheirs)
    (hfree : ¬ HeldBack databases invalid baseToOurs baseToTheirs side s) {row : Row V}
    (hwritten : s.written databases = some row) :
    row ∈ describedRows databases statements databases.base s.table := by
  have hrows := (ha.reached hd).rows s.table row
  cases side with
  | true => exact hrows.mpr (.inr ⟨s, (ha.mem s).mpr (.inl ⟨hs, hfree⟩), rfl, hwritten⟩)
  | false =>
    by_cases hsame : ∃ other ∈ baseToOurs, SameChange databases other s
    · obtain ⟨other, hother, hchange⟩ := hsame
      have hfree' := (hd.not_heldBack_partner false hs hfree hother hchange.1.symm).2
      have heq := written_eq_of_sameChange hd.base (hd.ours.fits other hother)
        (hd.theirs.fits s hs) hchange
      refine hrows.mpr (.inr ⟨other, (ha.mem other).mpr (.inl ⟨hother, hfree'⟩), hchange.1.1, ?_⟩)
      rw [heq, hwritten]
    · exact hrows.mpr (.inr ⟨s, (ha.mem s).mpr (.inr ⟨hs, hfree, hsame⟩), rfl, hwritten⟩)

lemma Applied.mem_heldBack {side : Bool} {held : Statement V}
    (hmem : held ∈ ofSide side baseToOurs baseToTheirs)
    (hheld : HeldBack databases invalid baseToOurs baseToTheirs side held) {row : Row V}
    (hrow : row ∈ databases.base table)
    (hon : held.On databases table (rowKey databases table row)) :
    row ∈ describedRows databases statements databases.base table := by
  have hat : rowAt databases databases.base table (rowKey databases table row) = some row :=
    (rowAt_eq_some_iff (start_reached hd.base).keysApart).mpr ⟨hrow, rfl⟩
  rw [← ha.rowAt_heldBack hd ⟨side, held, hmem, hon, hheld⟩] at hat
  exact ((rowAt_eq_some_iff (ha.reached hd).keysApart).mp hat).1

omit hd in
lemma Applied.exists_side {s : Statement V} (hs : s ∈ statements) :
    ∃ side, s ∈ ofSide side baseToOurs baseToTheirs ∧
      ¬ HeldBack databases invalid baseToOurs baseToTheirs side s := by
  rcases (ha.mem s).mp hs with ⟨hours, hfree⟩ | ⟨htheirs, hfree, -⟩
  · exact ⟨true, hours, hfree⟩
  · exact ⟨false, htheirs, hfree⟩

lemma Applied.not_collides_untouched
    (hsides : ∀ side, Constrained databases (databases.cursor side))
    (hkept : ¬ KeepsValue databases invalid baseToOurs baseToTheirs) {s : Statement V}
    (hs : s ∈ statements) {row original : Row V} (hwritten : s.written databases = some row)
    (horiginal : original ∈ databases.base s.table)
    (huntouched : ¬ ∃ t ∈ statements, t.On databases s.table (rowKey databases s.table original)) :
    ¬ Collides databases s.table row original := by
  intro hcollides
  obtain ⟨side, hsSide, hfree⟩ := ha.exists_side hs
  by_cases htouched : ∃ held ∈ ofSide side baseToOurs baseToTheirs,
      held.On databases s.table (rowKey databases s.table original)
  · obtain ⟨held, hheldMem, hon⟩ := htouched
    by_cases hheld : HeldBack databases invalid baseToOurs baseToTheirs side held
    · exact hkept ⟨side, s, hsSide, held, hheldMem, hon.1.symm, hfree, hheld, row, hwritten,
        original, horiginal, hon, hcollides⟩
    · -- the statement, or one of ours that makes the same change, is applied
      cases side with
      | true => exact huntouched ⟨held, (ha.mem held).mpr (.inl ⟨hheldMem, hheld⟩), hon⟩
      | false =>
        by_cases hsame : ∃ other ∈ baseToOurs, SameChange databases other held
        · obtain ⟨other, hother, hchange⟩ := hsame
          have hfree' := (hd.not_heldBack_partner false hheldMem hheld hother hchange.1.symm).2
          obtain ⟨htable, key, hkey, hkey'⟩ := hchange.1
          refine huntouched ⟨other, (ha.mem other).mpr (.inl ⟨hother, hfree'⟩), ?_, ?_⟩
          · exact htable.trans hon.1
          · rw [hkey, ← hkey', hon.2]
        · exact huntouched ⟨held, (ha.mem held).mpr (.inr ⟨hheldMem, hheld, hsame⟩), hon⟩
  · have hrow := hd.mem_written side hsSide hwritten
    have horiginal' := hd.mem_untouched side horiginal htouched
    refine (hsides side).not_collides hd.base.toSupported hrow horiginal' ?_ hcollides
    rintro rfl
    obtain ⟨key, hkey⟩ := (ha.fits hd s hs).key
    refine htouched ⟨s, hsSide, rfl, ?_⟩
    rw [rowKey_written hd.base (ha.fits hd s hs) hkey hwritten, hkey]

omit ha in
/-- A statement that does not give a row its values in columns collides there with no row that the
other side writes. -/
lemma not_agree_of_not_gives (hsides : ∀ side, Constrained databases (databases.cursor side))
    (side : Bool) {s t : Statement V} (hs : s ∈ ofSide side baseToOurs baseToTheirs)
    (ht : t ∈ ofSide (!side) baseToOurs baseToTheirs) (htable : s.table = t.table)
    (hnone : ¬ ∃ other ∈ ofSide side baseToOurs baseToTheirs, SameKey databases other t)
    {first second : Row V} (hfirst : s.written databases = some first)
    (hsecond : t.written databases = some second) {columns : List (Option String)}
    (hcolumns : columns ∈ constraints databases s.table) (hgives : ¬ t.Gives columns) :
    ¬ Agree databases s.table columns first second := by
  intro hagree
  have htFits : t.Fits databases := by
    cases side
    · exact hd.ours.fits t ht
    · exact hd.theirs.fits t ht
  have hsFits := (hd.diff side).fits s hs
  obtain ⟨key, hkey⟩ := htFits.key
  obtain ⟨original, horiginal, hsame, hvalues⟩ :=
    exists_base_of_not_gives hd.base htFits hsecond hgives
  have hkeyOf : rowKey databases t.table original = key :=
    hsame.trans (rowKey_written hd.base htFits hkey hsecond)
  have huntouched : ¬ ∃ other ∈ ofSide side baseToOurs baseToTheirs,
      other.On databases t.table (rowKey databases t.table original) := by
    rintro ⟨other, hother, hon⟩
    exact hnone ⟨other, hother, hon.1, _, hon.2, by rw [hkeyOf, hkey]⟩
  have horiginal' := hd.mem_untouched side horiginal huntouched
  have hrow := hd.mem_written side hs hfirst
  rw [← htable] at horiginal'
  refine (hsides side).not_collides hd.base.toSupported hrow horiginal' ?_ ⟨columns, hcolumns, ?_⟩
  · rintro rfl
    obtain ⟨own, hown⟩ := hsFits.key
    refine huntouched ⟨s, hs, htable, ?_⟩
    rw [← htable, rowKey_written hd.base hsFits hown hfirst, hown]
  · intro column hcolumn
    obtain ⟨name, rfl, hnull, hnull', hequal⟩ := hagree column hcolumn
    exact ⟨name, rfl, hnull, by rw [hvalues name hcolumn]; exact hnull',
      by rw [hvalues name hcolumn]; exact hequal⟩

omit ha in
lemma not_collides_cross (hsides : ∀ side, Constrained databases (databases.cursor side))
    (hrun : checkConflictAndReturnDiffs databases baseToOurs baseToTheirs invalid = .ok comparison)
    (htold : ¬ ToldApart databases invalid baseToOurs baseToTheirs) {s t : Statement V}
    (hs : s ∈ baseToOurs) (ht : t ∈ baseToTheirs) (htable : s.table = t.table)
    (hfree : ¬ HeldBack databases invalid baseToOurs baseToTheirs true s)
    (hfree' : ¬ HeldBack databases invalid baseToOurs baseToTheirs false t)
    (hnone' : ¬ ∃ other ∈ baseToOurs, SameChange databases other t) {first second : Row V}
    (hfirst : s.written databases = some first) (hsecond : t.written databases = some second) :
    ¬ Collides databases s.table first second := by
  rintro ⟨columns, hcolumns, hagree⟩
  have hours := hd.ours.fits s hs
  have htheirs := hd.theirs.fits t ht
  have hkey : ¬ SameKey databases s t := fun hkey =>
    hnone' ⟨s, hs, (hd.not_heldBack_partner true hs hfree ht hkey).1⟩
  by_cases hnone : ∃ other ∈ baseToTheirs, SameChange databases other s
  · -- theirs has both rows
    obtain ⟨other, hother, hchange⟩ := hnone
    have heq := written_eq_of_sameChange hd.base (hd.theirs.fits other hother) hours hchange
    have hfirst' := hd.mem_written false hother (heq.trans hfirst)
    have hsecond' := hd.mem_written false ht hsecond
    rw [hchange.1.1] at hfirst'
    rw [← htable] at hsecond'
    refine (hsides false).not_collides hd.base.toSupported hfirst' hsecond' ?_
      ⟨columns, hcolumns, hagree⟩
    rintro rfl
    obtain ⟨own, hown⟩ := hours.key
    obtain ⟨own', hown'⟩ := htheirs.key
    have hrow := rowKey_written hd.base hours hown hfirst
    have hrow' := rowKey_written hd.base htheirs hown' hsecond
    rw [← htable, hrow] at hrow'
    exact hkey ⟨htable, own, hown, hrow' ▸ hown'⟩
  · have hours' : ¬ ∃ other ∈ baseToOurs, SameKey databases other t := by
      rintro ⟨other, hother, hsame⟩
      have hchange := (hd.not_heldBack_partner false ht hfree' hother hsame.symm).1
      exact hnone' ⟨other, hother, hchange.symm⟩
    have htheirs' : ¬ ∃ other ∈ baseToTheirs, SameKey databases other s := by
      rintro ⟨other, hother, hsame⟩
      have hchange := (hd.not_heldBack_partner true hs hfree hother hsame.symm).1
      exact hnone ⟨other, hother, hchange.symm⟩
    by_cases hgives' : t.Gives columns
    · by_cases hgives : s.Gives columns
      · refine htold ⟨s, hs, t, ht, htable, hkey, hfree, hfree', first, hfirst, second, hsecond, ?_⟩
        rcases List.mem_cons.mp hcolumns with rfl | hindex
        · exact .inl hagree
        · obtain ⟨index, hmem, rfl⟩ := List.mem_map.mp hindex
          refine .inr ⟨index, hmem, hagree, fun hsame => ?_⟩
          have hvalues : ∀ name, some name ∈ index.2 →
              first name ≠ databases.null ∧ second name ≠ databases.null := by
            intro name hname
            obtain ⟨name', hname', hnull, hnull', -⟩ := hagree _ hname
            cases hname'
            exact ⟨hnull, hnull'⟩
          have hread := readable_of_ok hd hrun true hs (by_contra fun h => hfree (.inl h))
            ⟨t, ht, htable.symm⟩ hnone
          have hread' := readable_of_ok hd hrun false ht
            (by_contra fun h => hfree' (.inl h)) ⟨s, hs, htable⟩ hnone'
          have htakes := takes_of_written hd.base (hsides true) (hd.keyed true) hours hread hfirst
            (hd.mem_written true hs hfirst) hmem hgives fun name hname =>
              (hvalues name hname).1
          have htakes' := takes_of_written hd.base (hsides false) (hd.keyed false) htheirs hread'
            hsecond (hd.mem_written false ht hsecond) (htable ▸ hmem) hgives'
            fun name hname => (hvalues name hname).2
          rw [← hsame] at htakes'
          exact not_takes_both hs ht htable hfree hfree' hnone hnone' htakes htakes'
      · have hcolumns' : columns ∈ constraints databases t.table := htable ▸ hcolumns
        rw [htable] at hagree
        exact not_agree_of_not_gives hd hsides false ht hs htable.symm htheirs' hsecond
          hfirst hcolumns' hgives (hagree.symm hd.base.toSupported)
    · exact not_agree_of_not_gives hd hsides true hs ht htable hours' hfirst hsecond
        hcolumns hgives' hagree

end applied

/-- When the rows that the applied statements describe satisfy all constraints. -/
lemma Applied.constrained_iff (hd : Diffs databases invalid baseToOurs baseToTheirs)
    (hsides : ∀ side, Constrained databases (databases.cursor side))
    (hrun : checkConflictAndReturnDiffs databases baseToOurs baseToTheirs invalid =
      .ok comparison) {statements : List (Statement V)}
    (ha : Applied databases invalid baseToOurs baseToTheirs statements) :
    Constrained databases (describedRows databases statements databases.base) ↔
      ¬ KeepsValue databases invalid baseToOurs baseToTheirs ∧
        ¬ ToldApart databases invalid baseToOurs baseToTheirs := by
  have hs := hd.base.toSupported
  constructor
  · intro hmerged
    constructor
    · rintro ⟨side, s, hsMem, held, hheldMem, htable, hfree, hheld, row, hwritten, original,
        horiginal, hon, hcollides⟩
      have hrow := ha.mem_written hd side hsMem hfree hwritten
      have hkept := ha.mem_heldBack hd hheldMem hheld horiginal hon
      refine hmerged.not_collides hs hrow hkept ?_ hcollides
      rintro rfl
      obtain ⟨key, hkey⟩ := ((hd.diff side).fits s hsMem).key
      have hrowKey := rowKey_written hd.base ((hd.diff side).fits s hsMem) hkey hwritten
      rw [hrowKey] at hon
      have heq := (hd.diff side).once.eq_of_on hsMem hheldMem ⟨rfl, hkey⟩ hon
      exact hfree (heq ▸ hheld)
    · rintro ⟨s, hsMem, t, htMem, htable, hkey, hfree, hfree', first, hfirst, second, hsecond, hcase⟩
      have hrow := ha.mem_written hd true hsMem hfree hfirst
      have hrow' := ha.mem_written hd false htMem hfree' hsecond
      rw [← htable] at hrow'
      refine hmerged.not_collides hs hrow hrow' ?_ ?_
      · rintro rfl
        obtain ⟨own, hown⟩ := (hd.ours.fits s hsMem).key
        obtain ⟨own', hown'⟩ := (hd.theirs.fits t htMem).key
        have hrowKey := rowKey_written hd.base (hd.ours.fits s hsMem) hown hfirst
        have hrowKey' := rowKey_written hd.base (hd.theirs.fits t htMem) hown' hsecond
        rw [← htable, hrowKey] at hrowKey'
        exact hkey ⟨htable, own, hown, hrowKey' ▸ hown'⟩
      · rcases hcase with hagree | ⟨index, hindex, hagree, -⟩
        · exact ⟨_, List.mem_cons_self, hagree⟩
        · exact ⟨index.2, List.mem_cons_of_mem _ (List.mem_map_of_mem hindex), hagree⟩
  · rintro ⟨hkept, htold⟩
    have hreached := ha.reached hd
    refine hreached.constrained fun table first hfirst second hsecond hne hcollides => ?_
    rcases (hreached.rows table first).mp hfirst with ⟨hbase, huntouched⟩ | ⟨s, hsMem, rfl, hwritten⟩
    · rcases (hreached.rows table second).mp hsecond with ⟨hbase', -⟩ | ⟨t, htMem, rfl, hwritten'⟩
      · exact hd.base.constrained.not_collides hs hbase hbase' hne hcollides
      · exact ha.not_collides_untouched hd hsides hkept htMem hwritten' hbase huntouched
          (hcollides.symm hs)
    · rcases (hreached.rows s.table second).mp hsecond with
        ⟨hbase', huntouched'⟩ | ⟨t, htMem, htable, hwritten'⟩
      · exact ha.not_collides_untouched hd hsides hkept hsMem hwritten hbase' huntouched' hcollides
      · -- one side has both rows, or each side has written one
        rcases (ha.mem s).mp hsMem with ⟨hours, hfree⟩ | ⟨htheirs, hfree, hnone⟩
        · rcases (ha.mem t).mp htMem with ⟨hours', -⟩ | ⟨htheirs', hfree', hnone'⟩
          · have hrow := hd.mem_written true hours hwritten
            have hrow' := hd.mem_written true hours' hwritten'
            rw [htable] at hrow'
            exact (hsides true).not_collides hs hrow hrow' hne hcollides
          · exact not_collides_cross hd hsides hrun htold hours htheirs' htable.symm hfree hfree' hnone'
              hwritten hwritten' hcollides
        · rcases (ha.mem t).mp htMem with ⟨hours', hfree'⟩ | ⟨htheirs', -⟩
          · have hcollides' := hcollides.symm hs
            rw [← htable] at hcollides'
            exact not_collides_cross hd hsides hrun htold hours' htheirs htable hfree' hfree hnone
              hwritten' hwritten hcollides'
          · have hrow := hd.mem_written false htheirs hwritten
            have hrow' := hd.mem_written false htheirs' hwritten'
            rw [htable] at hrow'
            exact (hsides false).not_collides hs hrow hrow' hne hcollides

/-- SQLite takes no statement that leaves a table without its constraints. -/
def Enforces (databases : Databases V) (execute : Execute V) : Prop :=
  ∀ snapshot statement, Constrained databases snapshot → (execute snapshot statement).2 = true →
    Constrained databases (execute snapshot statement).1

omit [DecidableEq V] in
lemma constrained_runShell {execute : Execute V} (henforces : Enforces databases execute)
    {statements : List (Statement V)} {snapshot : Snapshot V}
    (hsnapshot : Constrained databases snapshot)
    (htaken : (runShell execute statements snapshot).2 = true) :
    Constrained databases (runShell execute statements snapshot).1 := by
  induction statements generalizing snapshot with
  | nil => exact hsnapshot
  | cons statement rest ih =>
    have hboth : (execute snapshot statement).2 = true ∧
        (runShell execute rest (execute snapshot statement).1).2 = true := by
      simpa [runShell] using htaken
    exact ih (henforces snapshot statement hsnapshot hboth.1) hboth.2

/-- The rows that the applied statements describe satisfy all constraints if and only if no row that
was held back keeps a value that its side gives to another row, and no values are equal to SQLite that
the comparison tells apart. Elsewhere SQLite refuses a statement of each plain run. -/
theorem constrained_merged_iff (hd : Diffs databases invalid baseToOurs baseToTheirs)
    (hsides : ∀ side, Constrained databases (databases.cursor side))
    (hrun : checkConflictAndReturnDiffs databases baseToOurs baseToTheirs invalid =
      .ok comparison) :
    ∃ statements, stmtsToApply baseToOurs baseToTheirs comparison.buckets = .ok statements ∧
      (Constrained databases (describedRows databases statements databases.base) ↔
        ¬ KeepsValue databases invalid baseToOurs baseToTheirs ∧
          ¬ ToldApart databases invalid baseToOurs baseToTheirs) ∧
      ∀ execute, Plain databases execute (baseToOurs ++ baseToTheirs) →
        Enforces databases execute →
        KeepsValue databases invalid baseToOurs baseToTheirs ∨
          ToldApart databases invalid baseToOurs baseToTheirs →
        (runShell execute statements databases.base).2 = false := by
  obtain ⟨statements, happly, ha⟩ := applied_of_ok hd hrun
  have hdescribed := ha.constrained_iff hd hsides hrun
  refine ⟨statements, happly, hdescribed, fun execute hplain henforces hviolates => ?_⟩
  rw [← Bool.not_eq_true]
  intro htaken
  have hrows := constrained_runShell henforces hd.base.constrained htaken
  rw [runShell_of_taken (ha.plain hplain) htaken] at hrows
  obtain ⟨hkept, htold⟩ := hdescribed.mp hrows
  exact hviolates.elim hkept htold

end sides

lemma constrained_onUsers {rows : List UserRow}
    (h : rows.Pairwise fun first second => first "id" ≠ second "id" ∧ first "email" ≠ second "email") :
    Constrained accounts (onUsers rows) := by
  intro table
  show (if table = "users" then rows else []).Pairwise _
  split
  · refine h.imp fun {first second} hapart columns hcolumns hagree => ?_
    rcases List.mem_cons.mp hcolumns with rfl | hindex
    · obtain ⟨name, hname, -, -, hequal⟩ := hagree (some "id") (List.mem_singleton_self _)
      cases hname
      exact hapart.1 (of_decide_eq_true hequal)
    · rw [List.mem_singleton.mp hindex] at hagree
      obtain ⟨name, hname, -, -, hequal⟩ := hagree (some "email") (List.mem_singleton_self _)
      cases hname
      exact hapart.2 (of_decide_eq_true hequal)
  · exact List.Pairwise.nil

lemma described_accounts : describedRows accounts [changeEmail, insertUser 2 9] accounts.base =
    onUsers [account 1 8, account 2 9] := by
  show (insertUser 2 9).described accounts (changeEmail.described accounts accounts.base) = _
  rw [described_changeEmail]
  refine (update_onUsers _ _).trans (congrArg onUsers ?_)
  show [account 1 8, insertedRow accounts [("id", some 2), ("email", some 9)]] = _
  rw [insertedRow_account]

/-- The merged accounts have different emails, and so no value is kept or told apart. -/
theorem constrained_merged_iff_accounts : ∃ comparison,
    checkConflictAndReturnDiffs accounts [changeEmail] [insertUser 2 9] .empty = .ok comparison ∧
    ∃ statements, stmtsToApply [changeEmail] [insertUser 2 9] comparison.buckets = .ok statements ∧
      Constrained accounts (describedRows accounts statements accounts.base) ∧
      ¬ KeepsValue accounts .empty [changeEmail] [insertUser 2 9] ∧
      ¬ ToldApart accounts .empty [changeEmail] [insertUser 2 9] := by
  obtain ⟨comparison, hrun, happly⟩ : ∃ comparison,
      checkConflictAndReturnDiffs accounts [changeEmail] [insertUser 2 9] .empty = .ok comparison ∧
      stmtsToApply [changeEmail] [insertUser 2 9] comparison.buckets =
        .ok [changeEmail, insertUser 2 9] := ⟨_, rfl, rfl⟩
  have hpair : ∀ first second, ∀ row ∈ [account 2 second],
      account 1 first "id" ≠ row "id" ∧ (first ≠ second → account 1 first "email" ≠ row "email") := by
    intro first second row hrow
    rw [List.mem_singleton.mp hrow]
    exact ⟨by simp [account], fun hne => by simpa [account] using hne⟩
  have hconstrained : ∀ first, first ≠ 9 →
      Constrained accounts (onUsers [account 1 first, account 2 9]) := fun first hne =>
    constrained_onUsers (List.pairwise_cons.mpr ⟨fun row hrow => ⟨(hpair first 9 row hrow).1,
      (hpair first 9 row hrow).2 hne⟩, List.pairwise_singleton _ _⟩)
  have hsides : ∀ side, Constrained accounts (accounts.cursor side) := by
    intro side
    cases side with
    | true => exact constrained_onUsers (List.pairwise_singleton _ _)
    | false => exact hconstrained 7 (by decide)
  obtain ⟨statements, happly', hiff, -⟩ := constrained_merged_iff diffs_accounts hsides hrun
  cases happly.symm.trans happly'
  have hmerged : Constrained accounts
      (describedRows accounts [changeEmail, insertUser 2 9] accounts.base) := by
    rw [described_accounts]
    exact hconstrained 8 (by decide)
  exact ⟨comparison, hrun, _, happly, hmerged, hiff.mp hmerged⟩

end SqliteReconcile.RowMerge
