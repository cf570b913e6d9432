import SqliteReconcile.ProbeRejections
import SqliteReconcile.ReadProbes

/-!
# Refined reads

The read check runs a reader on main and on control and compares what its statements read before
they run. It finds exactly those that hand SQLite something else on one copy than on the other.
-/
namespace SqliteReconcile.ReadRefinement
open Models StatementSyntax StaticAnalysis Programs Savepoints Connection AcceptedReplay
  RemainingExecution ReplayRestoration ReadProbes

variable {D E V C : Type}

/-- The copies after statements have run on main and on control. -/
def rolled (engine : Engine D (List V)) (controlSql : LoggedStatement → Option String) :
    List LoggedStatement → Copies D (List V) → Option (Copies D (List V))
  | [], copies => some copies
  | statement :: rest, copies =>
    match engine.execute statement.sqlText copies, controlSql statement with
    | .done onMain, some sql =>
      match engine.execute sql onMain with
      | .done onBoth => rolled engine controlSql rest onBoth
      | _ => none
    | _, _ => none

section answers

variable [DecidableEq V]

/-- A SELECT that SQLite answers with certain rows. In the query for duplicates `GROUP BY 1` names the
constant of the outer SELECT, so that all rows are one group, and a second number is refused. -/
structure Answered (engine : Engine D (List V)) (sql : String) (count : ℕ)
    (expected : Copies D (List V) → List (List V)) : Prop where
  rows : ∀ copies result, engine.query sql copies = .ok result → SameRows result (expected copies)
  duplicates : ∀ copies result, engine.query (duplicateRowsQuery sql count) copies = .ok result →
    count = 1 ∧ (result = [] ↔ (expected copies).length ≤ 1)

variable (engine : Engine D (List V)) (context : ReplayContext C) (sem : Semantics D E V)
  (probes : ProbeContext) (controlSql : LoggedStatement → Option String)

/-- The context knows how a logged statement is parsed, and SQLite answers its probe, on main and as
it is rewritten for control. -/
structure Answers (logged : LoggedStatement) (statement : Statement) : Prop where
  table : some (requiredUpdatedTable logged.metadata) = statement.targetTableName
  probe : ∀ caches, (context.readProbeResult logged.metadata caches).1 =
    readProbeResult probes statement
  updateFrom : ∀ ctes table assignments fromClause condition,
    statement = .update ctes table assignments (some fromClause) condition →
      context.isUpdateFromStatement logged.metadata = true
  control : ∀ caches, (context.controlSqlFor logged caches).1 = controlSql logged
  onMain : ∀ probe, readProbe probes statement = .ok (some probe) →
    Answered engine (probe.sql probes.generator)
      (probes.primaryKeyColumns (requiredUpdatedTable logged.metadata)).length
      fun copies => probe.rows sem copies.main.tables
  onControl : ∀ probe, readProbe probes statement = .ok (some probe) → ∀ caches sql,
    (context.controlSqlForProbe (probe.sql probes.generator) caches).1 = some sql →
      Answered engine sql (probes.primaryKeyColumns (requiredUpdatedTable logged.metadata)).length
        fun copies => probe.rows sem copies.control.tables

/-- The assumptions on SQLite: it compares two temporary tables as sets of rows, and the rows of a
table have their own keys. -/
structure Sqlite : Prop where
  keys : context.primaryKeyColumns = probes.primaryKeyColumns
  tableKeys : ∀ tables table, ((sem.table tables table).map fun row =>
    (probes.primaryKeyColumns table).map row).Nodup
  differences : ∀ first second copies rows rows' result,
    copies.temp first = some rows → copies.temp second = some rows' →
    engine.query (selectDifferenceQuery (selectAll first) (selectAll second)) copies = .ok result →
      (result = [] ↔ SameRows rows rows')

end answers

section programs

variable {engine : Engine D (List V)} {context : ReplayContext C} {w w' : Working D (List V) C}

lemma ok_of_withCleanup {α : Type} {body : Program D (List V) C α}
    {cleanup : Program D (List V) C Unit} {a : α} (h : withCleanup body cleanup w = .ok a w') :
    ∃ w₁, body w = .ok a w₁ ∧ cleanup w₁ = .ok () w' := by
  unfold withCleanup at h
  cases hbody : body w with
  | ok b w₁ =>
    simp only [hbody] at h
    cases hclean : cleanup w₁ with
    | ok u w₂ =>
      simp only [hclean] at h
      cases h
      exact ⟨w₁, rfl, hclean⟩
    | error e w₂ =>
      simp only [hclean] at h
      cases h
  | error e w₁ =>
    simp only [hbody] at h
    cases hclean : cleanup w₁ with
    | ok u w₂ =>
      simp only [hclean] at h
      cases h
    | error e w₂ =>
      simp only [hclean] at h
      cases h

lemma query_ok {sql : String} {rows : List (List V)} (h : query engine sql w = .ok rows w') :
    engine.query sql w.copies = .ok rows ∧ w' = w := by
  unfold query at h
  cases hquery : engine.query sql w.copies with
  | error error =>
    rw [hquery] at h
    cases h
  | ok found =>
    rw [hquery] at h
    cases h
    exact ⟨rfl, rfl⟩

def withTable (copies : Copies D (List V)) (name : String) (rows : List (List V)) :
    Copies D (List V) :=
  { copies with temp := Function.update copies.temp name (some rows) }

lemma withTable_temp (copies : Copies D (List V)) (name : String) (rows : List (List V)) :
    (withTable copies name rows).temp = Function.update copies.temp name (some rows) := rfl

lemma createProbeResultTable_ok {name probe : String}
    (h : createProbeResultTable engine name probe w = .ok () w') :
    ∃ rows, w.copies.temp name = none ∧ engine.query probe w.copies = .ok rows ∧
      w' = w.withCopies (withTable w.copies name rows) := by
  unfold createProbeResultTable at h
  cases htemp : w.copies.temp name with
  | some rows =>
    simp only [htemp] at h
    cases h
  | none =>
    simp only [htemp] at h
    cases hquery : engine.query probe w.copies with
    | error error =>
      simp only [hquery] at h
      cases h
    | ok rows =>
      simp only [hquery] at h
      cases h
      exact ⟨rows, rfl, rfl, rfl⟩

lemma probeHasDuplicateTargetRows_ok {metadata : StatementMetadata} {probe : String} {answer : Bool}
    (h : probeHasDuplicateTargetRows engine context metadata probe w = .ok answer w') :
    w' = w ∧ (answer = false → ∃ result, result = [] ∧ engine.query (duplicateRowsQuery probe
      (context.primaryKeyColumns (requiredUpdatedTable metadata)).length) w.copies = .ok result) := by
  unfold probeHasDuplicateTargetRows at h
  by_cases hcount : (context.primaryKeyColumns (requiredUpdatedTable metadata)).length = 0
  · rw [if_pos hcount] at h
    cases h
    exact ⟨rfl, fun hfalse => by cases hfalse⟩
  · rw [if_neg hcount] at h
    obtain ⟨rows, w₁, hquery, hend⟩ := ok_of_bind h
    obtain ⟨hrows, rfl⟩ := query_ok hquery
    cases hend
    refine ⟨rfl, fun hempty => ⟨rows, ?_, hrows⟩⟩
    exact List.isEmpty_iff.mp (by simpa using hempty)

lemma readerHasDuplicates_false {metadata : StatementMetadata} {probe controlProbe : String}
    (h : readerHasDuplicates engine context metadata probe controlProbe w = .ok false w') :
    w' = w ∧ (context.isUpdateFromStatement metadata = true → ∀ text ∈ [probe, controlProbe],
      engine.query (duplicateRowsQuery text
        (context.primaryKeyColumns (requiredUpdatedTable metadata)).length) w.copies = .ok []) := by
  unfold readerHasDuplicates at h
  by_cases hfrom : context.isUpdateFromStatement metadata = true
  · simp only [hfrom, if_true] at h
    obtain ⟨onMain, w₁, hmain, h⟩ := ok_of_bind h
    obtain ⟨rfl, hnoneMain⟩ := probeHasDuplicateTargetRows_ok hmain
    cases onMain with
    | true => cases h
    | false =>
      obtain ⟨rfl, hnoneControl⟩ := probeHasDuplicateTargetRows_ok h
      obtain ⟨_, rfl, hfirst⟩ := hnoneMain rfl
      obtain ⟨_, rfl, hsecond⟩ := hnoneControl rfl
      refine ⟨rfl, fun _ text htext => ?_⟩
      rcases List.mem_cons.mp htext with rfl | htext
      · exact hfirst
      · rw [List.mem_singleton.mp htext]
        exact hsecond
  · simp only [Bool.not_eq_true] at hfrom
    simp only [hfrom, Bool.false_eq_true, if_false] at h
    cases h
    exact ⟨rfl, fun htrue => absurd (hfrom.symm.trans htrue) Bool.false_ne_true⟩

structure Compared (engine : Engine D (List V)) (first second probe controlProbe : String)
    (copies : Copies D (List V)) (onMain onControl : List (List V)) (reads : Bool) : Prop where
  firstFresh : copies.temp first = none
  secondFresh : copies.temp second = none
  apart : first ≠ second
  mainRows : engine.query probe copies = .ok onMain
  controlRows : engine.query controlProbe (withTable copies first onMain) = .ok onControl
  differs : ∃ result, engine.query (selectDifferenceQuery (selectAll first) (selectAll second))
    (withTable (withTable copies first onMain) second onControl) = .ok result ∧
      (reads = true ↔ result ≠ [])

lemma compareRows_ok {first second probe controlProbe : String} {reads : Bool}
    (h : ProbeRejections.compareRows engine first second probe controlProbe w =
      .ok (.ok reads) w') :
    ∃ onMain onControl, Compared engine first second probe controlProbe w.copies onMain onControl
        reads ∧
      w' = w.withCopies (withTable (withTable w.copies first onMain) second onControl) := by
  unfold ProbeRejections.compareRows at h
  obtain ⟨⟨⟩, w₁, hfirst, hrest⟩ := ok_of_bind h
  obtain ⟨onMain, hfirstFresh, hmain, rfl⟩ := createProbeResultTable_ok hfirst
  obtain ⟨⟨⟩, w₂, hsecond, hrest⟩ := ok_of_bind hrest
  obtain ⟨onControl, hsecondFresh, hcontrol, rfl⟩ := createProbeResultTable_ok hsecond
  obtain ⟨result, w₃, hquery, hrest⟩ := ok_of_bind hrest
  obtain ⟨hresult, rfl⟩ := query_ok hquery
  cases hrest
  have hapart : first ≠ second := by
    rintro rfl
    rw [Working.copies_withCopies, withTable_temp, Function.update_self] at hsecondFresh
    cases hsecondFresh
  rw [Working.copies_withCopies, withTable_temp, Function.update_of_ne hapart.symm] at hsecondFresh
  refine ⟨onMain, onControl, ⟨hfirstFresh, hsecondFresh, hapart, hmain, hcontrol, result, hresult, ?_⟩, rfl⟩
  simp

lemma dropped {first second : String} {onMain onControl : List (List V)}
    {copies : Copies D (List V)} (hfirst : copies.temp first = none)
    (hsecond : copies.temp second = none) :
    { withTable (withTable copies first onMain) second onControl with
      temp := Function.update (Function.update
        (withTable (withTable copies first onMain) second onControl).temp first none) second none } =
      copies := by
  have htemp : Function.update (Function.update
      (withTable (withTable copies first onMain) second onControl).temp first none) second none =
        copies.temp := by
    funext name
    by_cases hname : name = second
    · rw [hname, Function.update_self, hsecond]
    · rw [Function.update_of_ne hname]
      by_cases hname' : name = first
      · rw [hname', Function.update_self, hfirst]
      · rw [Function.update_of_ne hname', withTable_temp, Function.update_of_ne hname,
          withTable_temp, Function.update_of_ne hname']
  rw [htemp]
  rfl

lemma compareReads_ok {metadata : StatementMetadata} {probe : String} {reads : Bool}
    (h : compareReads engine context metadata probe w = .ok (.ok reads) w') :
    ∃ controlProbe first second onMain onControl,
      (context.controlSqlForProbe probe w.caches).1 = some controlProbe ∧
      (context.isUpdateFromStatement metadata = true → ∀ text ∈ [probe, controlProbe],
        engine.query (duplicateRowsQuery text
          (context.primaryKeyColumns (requiredUpdatedTable metadata)).length) w.copies = .ok []) ∧
      Compared engine first second probe controlProbe w.copies onMain onControl reads ∧
      w'.copies = w.copies := by
  unfold compareReads at h
  obtain ⟨control, w₁, hlookup, hrest⟩ := ok_of_bind h
  obtain ⟨caches, hcontrol, rfl⟩ := lookup_ok hlookup
  cases control with
  | none => cases hrest
  | some controlProbe =>
    obtain ⟨duplicates, w₂, hduplicates, hrest⟩ := ok_of_bind hrest
    cases duplicates with
    | true => cases hrest
    | false =>
      obtain ⟨rfl, hnone⟩ := readerHasDuplicates_false hduplicates
      obtain ⟨first, w₃, hfirst, hrest⟩ := ok_of_bind hrest
      obtain ⟨second, w₄, hsecond, hrest⟩ := ok_of_bind hrest
      obtain ⟨w₅, hbody, hdrop⟩ := ok_of_withCleanup hrest
      rcases ok_of_exceptSqlite hbody with hbody | ⟨error, w₆, -, hhandler⟩
      · obtain ⟨onMain, onControl, hcompared, rfl⟩ := compareRows_ok hbody
        cases hfirst
        cases hsecond
        cases hdrop
        exact ⟨controlProbe, _, _, onMain, onControl, congrArg Prod.fst hcontrol, hnone, hcompared,
          dropped hcompared.firstFresh hcompared.secondFresh⟩
      · cases hhandler

end programs

section statement

variable [DecidableEq V] {engine : Engine D (List V)} {context : ReplayContext C}
  {sem : Semantics D E V} {probes : ProbeContext} {controlSql : LoggedStatement → Option String}
  {logged : LoggedStatement} {statement : Statement} {w w' : Working D (List V) C}

omit [DecidableEq V] in
lemma SameRows.congr {first first' second second' : List (List V)} (hfirst : SameRows first first')
    (hsecond : SameRows second second') : SameRows first second ↔ SameRows first' second' :=
  forall_congr' fun row => iff_congr (hfirst row) (hsecond row)

/-- Neither copy has several rows for one key of an UPDATE. -/
lemma keysApart_of_noDuplicates (hs : Sqlite engine context sem probes) {probe : Probe}
    {text : String} {copies : Copies D (List V)} {tables : D}
    {expected : Copies D (List V) → List (List V)} (hexpected : expected copies = probe.rows sem tables)
    (ha : Answers engine context sem probes controlSql logged statement)
    (hprobe : readProbe probes statement = .ok (some probe))
    (hanswered : Answered engine text
      (probes.primaryKeyColumns (requiredUpdatedTable logged.metadata)).length expected)
    (hnone : context.isUpdateFromStatement logged.metadata = true →
      engine.query (duplicateRowsQuery text
        (context.primaryKeyColumns (requiredUpdatedTable logged.metadata)).length) copies = .ok []) :
    KeysApart sem probes.primaryKeyColumns tables statement := by
  cases statement with
  | insert ctes table source => trivial
  | delete ctes table condition => trivial
  | nonDml => trivial
  | update ctes table assignments fromClause condition =>
    cases fromClause with
    | none =>
      refine keysApart_of_table (hs.tableKeys tables) fun _ _ _ _ _ h => ?_
      cases h
      rfl
    | some fromClause =>
      have htable : requiredUpdatedTable logged.metadata = table.name := Option.some.inj ha.table
      have hquery := hnone (ha.updateFrom _ _ _ _ _ rfl)
      rw [hs.keys] at hquery
      have hone := (hanswered.duplicates copies [] hquery).2.mp rfl
      rw [hexpected] at hone
      refine (keysApart_iff hprobe).mpr ?_
      rcases hrows : probe.rows sem tables with _ | ⟨row, _ | ⟨row', rest⟩⟩
      · exact List.nodup_nil
      · exact List.nodup_singleton _
      · rw [hrows] at hone
        simp at hone

lemma readerAffected_ok (hs : Sqlite engine context sem probes)
    (ha : Answers engine context sem probes controlSql logged statement)
    (hcolumns : AssignsColumns statement) {indexes : List ℕ} {index : ℕ} {reads : Bool}
    (h : readerAffected engine context indexes logged index w = .ok (.ok reads) w') :
    w'.copies = w.copies ∧ (index ∉ indexes → reads = false) ∧
      (index ∈ indexes → (reads = true ↔ ¬ SameSupply sem probes.primaryKeyColumns
        w.copies.main.tables w.copies.control.tables statement)) := by
  unfold readerAffected at h
  by_cases hindex : index ∈ indexes
  · rw [if_pos hindex] at h
    obtain ⟨probeResult, w₁, hlookup, hrest⟩ := ok_of_bind h
    obtain ⟨caches, hread, rfl⟩ := lookup_ok hlookup
    have hresult : probeResult = readProbeResult probes statement := by
      rw [← ha.probe w.caches, hread]
    unfold readProbeResult at hresult
    cases hprobe : readProbe probes statement with
    | error reason =>
      simp only [hprobe] at hresult
      subst hresult
      cases hrest
    | ok found =>
      cases found with
      | none =>
        simp only [hprobe] at hresult
        subst hresult
        cases hrest
        refine ⟨rfl, fun hout => absurd hindex hout, fun _ => ?_⟩
        exact iff_of_false Bool.false_ne_true (not_not.mpr (sameSupply_of_noProbe hprobe))
      | some probe =>
        simp only [hprobe] at hresult
        subst hresult
        obtain ⟨controlProbe, first, second, onMain, onControl, hcontrol, hnone, hcompared, hcopies⟩ :=
          compareReads_ok hrest
        refine ⟨hcopies, fun hout => absurd hindex hout, fun _ => ?_⟩
        have hmainAnswered := ha.onMain probe hprobe
        have hcontrolAnswered := ha.onControl probe hprobe _ _ hcontrol
        have hrows := SameRows.congr (hmainAnswered.rows _ _ hcompared.mainRows)
          (hcontrolAnswered.rows _ _ hcompared.controlRows)
        obtain ⟨result, hquery, hreads⟩ := hcompared.differs
        have hdiffer := hs.differences first second _ onMain onControl result
          (by rw [withTable_temp, Function.update_of_ne hcompared.apart, withTable_temp,
            Function.update_self])
          (by rw [withTable_temp, Function.update_self]) hquery
        rw [hreads, ne_eq, hdiffer, hrows]
        refine not_congr (sameSupply_iff_sameRows hcolumns hprobe ?_ ?_).symm
        · exact keysApart_of_noDuplicates hs rfl ha hprobe hmainAnswered fun hfrom =>
            hnone hfrom _ List.mem_cons_self
        · exact keysApart_of_noDuplicates hs rfl ha hprobe hcontrolAnswered fun hfrom =>
            hnone hfrom _ (List.mem_cons_of_mem _ List.mem_cons_self)
  · rw [if_neg hindex] at h
    cases h
    exact ⟨rfl, fun _ => rfl, fun hin => absurd hin hindex⟩

end statement

/-- The statements that a result says to be affected. -/
def affectedIndexes : WriteReadProbeResult → List ℕ
  | .affected indexes => indexes
  | .unaffected | .notRefined _ => []

section reader

variable [DecidableEq V] {engine : Engine D (List V)} {context : ReplayContext C}
  {sem : Semantics D E V} {probes : ProbeContext} {controlSql : LoggedStatement → Option String}
  {w w' : Working D (List V) C} {result : WriteReadProbeResult}

omit [DecidableEq V] in
lemma rolled_cons {logged : LoggedStatement} {rest : List LoggedStatement} {orderLabel : String}
    {w₁ w₂ : Working D (List V) C}
    (hcontrolSql : ∀ caches, (context.controlSqlFor logged caches).1 = controlSql logged)
    (hmain : executeStatementOnMain engine logged .pair orderLabel true w = .ok none w₁)
    (hcontrol : executeStatementOnControl engine context logged .pair orderLabel true w₁ =
      .ok none w₂) :
    rolled engine controlSql (logged :: rest) w.copies = rolled engine controlSql rest w₂.copies := by
  obtain ⟨onMain, hdoneMain, rfl, -⟩ := executeSqlForReplay_none hmain
  obtain ⟨sql, caches, onBoth, hsql, hdoneControl, rfl, -⟩ := executeStatementOnControl_none hcontrol
  have hsome : controlSql logged = some sql := by rw [← hcontrolSql, hsql]
  rw [Working.copies_withCopies] at hdoneControl
  simp only [rolled, hdoneMain, hsome, hdoneControl]
  rfl

/-- What a run over statements finds, from one index on. -/
structure Finds (engine : Engine D (List V)) (sem : Semantics D E V) (probes : ProbeContext)
    (controlSql : LoggedStatement → Option String) (indexes : List ℕ) (logged : List LoggedStatement)
    (statements : List Statement) (copies : Copies D (List V)) (start : ℕ) (affected : List ℕ)
    (result : WriteReadProbeResult) : Prop where
  before : ∀ i < start, i ∈ affectedIndexes result ↔ i ∈ affected
  within : ∀ i ∈ affectedIndexes result, start ≤ i → i ∈ indexes ∧ i < start + statements.length
  exactly : ∀ i statement, statements[i]? = some statement → start + i ∈ indexes →
    ∃ reached, rolled engine controlSql (logged.take i) copies = some reached ∧
      (start + i ∈ affectedIndexes result ↔ ¬ SameSupply sem probes.primaryKeyColumns
        reached.main.tables reached.control.tables statement)
  shown : affectedIndexes result = [] → result = .unaffected

lemma mem_affected {affected : List ℕ} {start i : ℕ} {reads : Bool} :
    i ∈ (if reads = true then affected ++ [start] else affected) ↔
      i ∈ affected ∨ i = start ∧ reads = true := by
  cases reads <;> simp

omit [DecidableEq V] in
lemma Finds.nil {indexes affected : List ℕ} {start : ℕ} {copies : Copies D (List V)}
    (hbefore : ∀ i ∈ affected, i < start)
    (hresult : result = if affected = [] then .unaffected else .affected affected) :
    Finds engine sem probes controlSql indexes [] [] copies start affected result := by
  have hindexes : affectedIndexes result = affected := by
    rw [hresult]
    split_ifs with hnone
    · rw [hnone]
      rfl
    · rfl
  refine ⟨fun i _ => by rw [hindexes], fun i hi hle => ?_, fun i statement hget => ?_,
    fun hempty => ?_⟩
  · rw [hindexes] at hi
    exact absurd (hbefore i hi) (not_lt.mpr hle)
  · cases hget
  · rw [hresult, if_pos (hindexes ▸ hempty)]

omit [DecidableEq V] in
/-- One more statement in front, which reads what the writer changed or does not. -/
lemma Finds.cons {indexes affected : List ℕ} {start : ℕ} {copies copies' : Copies D (List V)}
    {first : LoggedStatement} {logged : List LoggedStatement} {tree : Statement}
    {statements : List Statement} {reads : Bool} (hbefore : ∀ i ∈ affected, i < start)
    (hrolled : ∀ more, rolled engine controlSql (first :: more) copies =
      rolled engine controlSql more copies')
    (hout : start ∉ indexes → reads = false)
    (hin : start ∈ indexes → (reads = true ↔ ¬ SameSupply sem probes.primaryKeyColumns
      copies.main.tables copies.control.tables tree))
    (hfound : Finds engine sem probes controlSql indexes logged statements copies' (start + 1)
      (if reads = true then affected ++ [start] else affected) result) :
    Finds engine sem probes controlSql indexes (first :: logged) (tree :: statements) copies start
      affected result := by
  have hstart : start ∈ affectedIndexes result ↔ reads = true := by
    rw [hfound.before start (Nat.lt_succ_self start), mem_affected]
    constructor
    · rintro (hmem | ⟨-, hreads⟩)
      · exact absurd (hbefore start hmem) (lt_irrefl start)
      · exact hreads
    · exact fun hreads => .inr ⟨rfl, hreads⟩
  refine ⟨fun i hi => ?_, fun i hi hle => ?_, fun i statement hget hindex => ?_, hfound.shown⟩
  · rw [hfound.before i (hi.trans (Nat.lt_succ_self start)), mem_affected]
    exact or_iff_left fun hstart => absurd hstart.1 hi.ne
  · rw [List.length_cons]
    rcases hle.eq_or_lt with rfl | hlt
    · refine ⟨by_contra fun hnot => ?_, by omega⟩
      exact absurd ((hstart.mp hi).symm.trans (hout hnot)) (Bool.false_ne_true ·.symm)
    · obtain ⟨hmem, hbound⟩ := hfound.within i hi hlt
      exact ⟨hmem, by omega⟩
  · cases i with
    | zero =>
      cases hget
      exact ⟨copies, rfl, hstart.trans (hin hindex)⟩
    | succ i =>
      rw [List.take_succ_cons, hrolled, show start + (i + 1) = start + 1 + i by omega]
      rw [show start + (i + 1) = start + 1 + i by omega] at hindex
      exact hfound.exactly i statement hget hindex

lemma finds_of_readStatements (hs : Sqlite engine context sem probes) {indexes : List ℕ}
    {orderLabel : String} {logged : List LoggedStatement} {statements : List Statement}
    (hanswers : List.Forall₂ (Answers engine context sem probes controlSql) logged statements)
    (hcolumns : ∀ statement ∈ statements, AssignsColumns statement) {start : ℕ}
    {affected : List ℕ} (hbefore : ∀ i ∈ affected, i < start)
    (h : readStatements engine context indexes orderLabel (logged.zipIdx start) affected w =
      .ok result w') (hrefined : ∀ reason, result ≠ .notRefined reason) :
    Finds engine sem probes controlSql indexes logged statements w.copies start affected result := by
  induction hanswers generalizing start affected w with
  | nil =>
    simp only [List.zipIdx_nil, readStatements] at h
    cases h
    exact .nil hbefore rfl
  | @cons first tree rest trees hfirst _ ih =>
    rw [List.zipIdx_cons, readStatements] at h
    obtain ⟨answer, w₁, hread, hrest⟩ := ok_of_bind h
    cases answer with
    | error reason =>
      cases hrest
      exact absurd rfl (hrefined reason)
    | ok reads =>
      obtain ⟨hcopies, hout, hin⟩ :=
        readerAffected_ok hs hfirst (hcolumns tree List.mem_cons_self) hread
      obtain ⟨failure, w₂, hmain, hrest⟩ := ok_of_bind hrest
      cases failure with
      | some failure =>
        cases hrest
        exact absurd rfl (hrefined _)
      | none =>
        obtain ⟨failure, w₃, hcontrol, hrest⟩ := ok_of_bind hrest
        cases failure with
        | some failure =>
          cases hrest
          exact absurd rfl (hrefined _)
        | none =>
          have hrolled : ∀ more, rolled engine controlSql (first :: more) w.copies =
              rolled engine controlSql more w₃.copies := fun more => by
            rw [← hcopies]
            exact rolled_cons hfirst.control hmain hcontrol
          refine .cons hbefore hrolled hout hin (ih (fun statement hstatement =>
            hcolumns statement (List.mem_cons_of_mem _ hstatement)) (fun i hi => ?_) hrest)
          rcases mem_affected.mp hi with hi | ⟨rfl, -⟩
          · exact (hbefore i hi).trans (Nat.lt_succ_self start)
          · exact Nat.lt_succ_self i

omit [DecidableEq V] in
lemma ok_of_discarding {stem : String} {α : Type} {body : Program D (List V) C α} {a : α}
    (h : discarding engine stem body w = .ok a w') : ∃ w₁, body (w.enter stem) = .ok a w₁ := by
  rw [discarding, inSavepoint_apply] at h
  obtain ⟨w₁, hbody, -⟩ := ok_of_withCleanup h
  exact ⟨w₁, hbody⟩

end reader

/-- `items(id INTEGER PRIMARY KEY, price)`. -/
def itemsContext : ConflictCheckContext where
  schemaCache :=
    { tableColumns := [("items", {"id", "price"})]
      primaryKeyColumns := [("items", ["id"])]
      keyColumnSets := [("items", [{"id"}])]
      integerPrimaryKeyColumns := [("items", some "id")]
      foreignKeyEdges := [] }
  pragmaIntegerPrimaryKey := fun _ => none

def setPrice : LoggedTransaction :=
  singleTransaction itemsContext .ours ⟨"UPDATE items SET price = 5 WHERE id = 1", none, false⟩
    (.update [] ⟨"items", "", none⟩ [(.column "price", .literal "5")] none
      (some (.node "=" [.column "" "id", .literal "1"])))

def raiseAll : LoggedTransaction :=
  singleTransaction itemsContext .theirs ⟨"UPDATE items SET price = price + 1", none, false⟩
    raisePrices

def raiseSelect : TargetSelect :=
  ⟨[], ⟨"items", "", none⟩, ["id"], [(1, .node "+" [.column "" "price", .literal "1"])], none, none⟩

def raiseControl : String :=
  "SELECT \"items\".\"id\", price + 1 AS __set_expr_1 FROM control.items AS items"

def itemsReplay : ReplayContext Unit where
  controlSchema := some "control"
  controlSqlFor _ caches := (some "UPDATE control.items AS items SET price = price + 1", caches)
  controlSqlForProbe _ caches := (some raiseControl, caches)
  strictConflictResolutionStatement _ caches := (.ok none, caches)
  affectedPrimaryKeySelect _ caches := (none, caches)
  readProbeResult _ caches := (readProbeResult itemsProbes raisePrices, caches)
  isUpdateFromStatement _ := false
  primaryKeyColumns := itemsProbes.primaryKeyColumns

def ComparesTables (sql : String) (copies : Copies (List ℕ) (List ℕ)) (rows rows' : List (List ℕ)) :
    Prop :=
  ∃ first second, sql = selectDifferenceQuery (selectAll first) (selectAll second) ∧
    copies.temp first = some rows ∧ copies.temp second = some rows'

/-- What SQLite answers to the query for duplicates among some rows. -/
def duplicatesAmong (rows : List (List ℕ)) : List (List ℕ) := if rows.length ≤ 1 then [] else [[1]]

open Classical in
/-- SQLite on the two copies of `items`. -/
noncomputable def itemsEngine : Engine (List ℕ) (List ℕ) where
  execute sql copies :=
    if sql = "UPDATE items SET price = price + 1" then
      .done { copies with main := { copies.main with tables := copies.main.tables.map (· + 1) } }
    else if sql = "UPDATE control.items AS items SET price = price + 1" then
      .done { copies with control :=
        { copies.control with tables := copies.control.tables.map (· + 1) } }
    else .refuses "no such statement"
  query sql copies :=
    if sql = raiseSelect.sql itemsGenerator then
      .ok (raiseSelect.rows itemsSemantics copies.main.tables)
    else if sql = raiseControl then .ok (raiseSelect.rows itemsSemantics copies.control.tables)
    else if sql = duplicateRowsQuery (raiseSelect.sql itemsGenerator) 1 then
      .ok (duplicatesAmong (raiseSelect.rows itemsSemantics copies.main.tables))
    else if sql = duplicateRowsQuery raiseControl 1 then
      .ok (duplicatesAmong (raiseSelect.rows itemsSemantics copies.control.tables))
    else if ∃ rows rows', ComparesTables sql copies rows rows' ∧ ¬ SameRows rows rows' then
      if ∃ rows rows', ComparesTables sql copies rows rows' ∧ SameRows rows rows' then
        .error ⟨false, "ambiguous"⟩
      else .ok [[1]]
    else .ok []
  foreignKeyCheck _ := .ok none
  logError _ := none
  commitError _ _ := none
  commitError_self _ := rfl

/-! Texts are told apart by how they start. -/

lemma ne_of_start {start start' rest rest' : String}
    (hlength : start.toList.length = start'.toList.length) (hne : start ≠ start') :
    start ++ rest ≠ start' ++ rest' := by
  intro h
  have hchars := congrArg String.toList h
  rw [String.toList_append, String.toList_append] at hchars
  exact hne (String.toList_inj.mp (List.append_inj_left hchars hlength))

lemma starts_probe : ∃ rest, raiseSelect.sql itemsGenerator = "SELECT \"" ++ rest := by
  have hcolumns : ∀ first second, ", ".intercalate [first, second] = first ++ ", " ++ second :=
    fun _ _ => rfl
  unfold TargetSelect.sql
  simp only [raiseSelect, List.map_cons, List.map_nil, List.cons_append, List.nil_append,
    Generator.withSql, String.empty_append, quoteIdentifier, hcolumns, String.append_assoc]
  have hliteral : "SELECT \"" = "SELECT " ++ "\"" := by decide
  rw [hliteral]
  simp only [String.append_assoc]
  exact ⟨_, rfl⟩

lemma ends_probe : ∃ rest, raiseSelect.sql itemsGenerator = rest ++ "M items" := by
  have htables : ", ".intercalate ["items"] = "items" := rfl
  have hliteral : " FROM " ++ "items" = " FRO" ++ "M items" := by decide
  unfold TargetSelect.sql
  simp only [raiseSelect, Option.map_none, Option.toList_none, Option.elim_none, String.append_empty]
  rw [show ", ".intercalate [itemsGenerator.table ⟨"items", "", none⟩] = "items" from htables,
    String.append_assoc, String.append_assoc, hliteral, ← String.append_assoc, ← String.append_assoc]
  exact ⟨_, rfl⟩

lemma starts_control : ∃ rest, raiseControl = "SELECT \"" ++ rest :=
  ⟨"items\".\"id\", price + 1 AS __set_expr_1 FROM control.items AS items", by decide⟩

lemma starts_difference (first second : String) :
    ∃ rest, selectDifferenceQuery first second = "SELECT 1" ++ " FROM (SELECT 1" ++ rest := by
  have hliteral : "SELECT 1 FROM (SELECT 1 FROM (" = "SELECT 1" ++ " FROM (SELECT 1" ++ " FROM (" := by
    decide
  unfold selectDifferenceQuery
  rw [hliteral]
  simp only [String.append_assoc]
  exact ⟨_, rfl⟩

lemma starts_duplicates (rest : String) (count : ℕ) : ∃ rest',
    duplicateRowsQuery ("SELECT \"" ++ rest) count = "SELECT 1" ++ " FROM (SELECT \"" ++ rest' := by
  have hliteral : "SELECT 1 FROM (" ++ "SELECT \"" = "SELECT 1" ++ " FROM (SELECT \"" := by decide
  unfold duplicateRowsQuery
  rw [← hliteral]
  simp only [String.append_assoc]
  exact ⟨_, rfl⟩

lemma ne_probe {sql rest : String} (hsql : sql = "SELECT 1" ++ rest) :
    sql ≠ raiseSelect.sql itemsGenerator ∧ sql ≠ raiseControl := by
  obtain ⟨restProbe, hprobe⟩ := starts_probe
  obtain ⟨restControl, hcontrol⟩ := starts_control
  rw [hsql, hprobe, hcontrol]
  exact ⟨ne_of_start (by decide) (by decide), ne_of_start (by decide) (by decide)⟩

lemma raiseControl_ne : raiseControl ≠ raiseSelect.sql itemsGenerator := by
  obtain ⟨rest, hprobe⟩ := ends_probe
  have hcontrol : raiseControl =
      "SELECT \"items\".\"id\", price + 1 AS __set_expr_1 FROM control.items A" ++ "S items" := by
    decide
  rw [hprobe, hcontrol]
  intro h
  have hchars := congrArg String.toList h
  rw [String.toList_append, String.toList_append] at hchars
  exact absurd (List.append_inj_right' hchars (by decide)) (by decide)

lemma duplicates_ne_probe {probe : String} (hstart : ∃ rest, probe = "SELECT \"" ++ rest) :
    duplicateRowsQuery probe 1 ≠ raiseSelect.sql itemsGenerator ∧
      duplicateRowsQuery probe 1 ≠ raiseControl := by
  obtain ⟨rest, rfl⟩ := hstart
  obtain ⟨rest', hduplicates⟩ := starts_duplicates rest 1
  exact ne_probe (hduplicates.trans (String.append_assoc ..))

lemma difference_ne_duplicates (first second : String) {probe : String}
    (hstart : ∃ rest, probe = "SELECT \"" ++ rest) :
    selectDifferenceQuery first second ≠ duplicateRowsQuery probe 1 := by
  obtain ⟨rest, rfl⟩ := hstart
  obtain ⟨rest', hduplicates⟩ := starts_duplicates rest 1
  obtain ⟨rest'', hdifference⟩ := starts_difference first second
  rw [hduplicates, hdifference]
  exact ne_of_start (by decide) (by decide)

lemma duplicateRowsQuery_injective {probe probe' : String} {count : ℕ}
    (h : duplicateRowsQuery probe count = duplicateRowsQuery probe' count) : probe = probe' := by
  unfold duplicateRowsQuery at h
  rwa [String.append_left_inj, String.append_left_inj, String.append_left_inj,
    String.append_right_inj] at h

open Classical in
lemma query_compares (first second : String) (copies : Copies (List ℕ) (List ℕ)) :
    itemsEngine.query (selectDifferenceQuery first second) copies =
      if ∃ rows rows', ComparesTables (selectDifferenceQuery first second) copies rows rows' ∧
          ¬ SameRows rows rows' then
        if ∃ rows rows', ComparesTables (selectDifferenceQuery first second) copies rows rows' ∧
            SameRows rows rows' then .error ⟨false, "ambiguous"⟩
        else .ok [[1]]
      else .ok [] := by
  obtain ⟨rest, hstart⟩ := starts_difference first second
  rw [String.append_assoc] at hstart
  obtain ⟨hprobe, hcontrol⟩ := ne_probe hstart
  simp only [itemsEngine, if_neg hprobe, if_neg hcontrol,
    if_neg (difference_ne_duplicates first second starts_probe),
    if_neg (difference_ne_duplicates first second starts_control)]

lemma query_difference {first second : String} {copies : Copies (List ℕ) (List ℕ)}
    {rows rows' result : List (List ℕ)} (hfirst : copies.temp first = some rows)
    (hsecond : copies.temp second = some rows')
    (h : itemsEngine.query (selectDifferenceQuery (selectAll first) (selectAll second)) copies =
      .ok result) : result = [] ↔ SameRows rows rows' := by
  have hcompares : ComparesTables (selectDifferenceQuery (selectAll first) (selectAll second)) copies
      rows rows' := ⟨first, second, rfl, hfirst, hsecond⟩
  rw [query_compares] at h
  by_cases hsame : SameRows rows rows'
  · refine iff_of_true ?_ hsame
    rw [if_pos (show ∃ rows rows', ComparesTables _ copies rows rows' ∧ SameRows rows rows' from
      ⟨rows, rows', hcompares, hsame⟩)] at h
    split at h
    · cases h
    · cases h
      rfl
  · refine iff_of_false ?_ hsame
    rw [if_pos ⟨rows, rows', hcompares, hsame⟩] at h
    split at h
    · cases h
    · cases h
      exact List.cons_ne_nil _ _

lemma sqlite_items : Sqlite itemsEngine itemsReplay itemsSemantics itemsProbes where
  keys := rfl
  tableKeys := nodup_itemKeys
  differences _ _ _ _ _ _ hfirst hsecond h := query_difference hfirst hsecond h

lemma readProbe_raise : readProbe itemsProbes raisePrices = .ok (some (.target raiseSelect)) := rfl

lemma query_probe (copies : Copies (List ℕ) (List ℕ)) :
    itemsEngine.query (raiseSelect.sql itemsGenerator) copies =
      .ok (raiseSelect.rows itemsSemantics copies.main.tables) := if_pos rfl

lemma query_control (copies : Copies (List ℕ) (List ℕ)) :
    itemsEngine.query raiseControl copies =
      .ok (raiseSelect.rows itemsSemantics copies.control.tables) :=
  (if_neg raiseControl_ne).trans (if_pos rfl)

lemma query_duplicates (copies : Copies (List ℕ) (List ℕ)) :
    itemsEngine.query (duplicateRowsQuery (raiseSelect.sql itemsGenerator) 1) copies =
      .ok (duplicatesAmong (raiseSelect.rows itemsSemantics copies.main.tables)) := by
  obtain ⟨hprobe, hcontrol⟩ := duplicates_ne_probe starts_probe
  simp only [itemsEngine, if_neg hprobe, if_neg hcontrol, if_true]

lemma query_controlDuplicates (copies : Copies (List ℕ) (List ℕ)) :
    itemsEngine.query (duplicateRowsQuery raiseControl 1) copies =
      .ok (duplicatesAmong (raiseSelect.rows itemsSemantics copies.control.tables)) := by
  obtain ⟨hprobe, hcontrol⟩ := duplicates_ne_probe starts_control
  have hne : duplicateRowsQuery raiseControl 1 ≠ duplicateRowsQuery (raiseSelect.sql itemsGenerator) 1 :=
    fun h => raiseControl_ne (duplicateRowsQuery_injective h)
  simp only [itemsEngine, if_neg hprobe, if_neg hcontrol, if_neg hne, if_true]

lemma duplicatesAmong_eq_nil {rows : List (List ℕ)} :
    duplicatesAmong rows = [] ↔ rows.length ≤ 1 := by
  unfold duplicatesAmong
  split <;> simp_all

lemma answered_items {sql : String} {side : Copies (List ℕ) (List ℕ) → List ℕ}
    (hquery : ∀ copies, itemsEngine.query sql copies =
      .ok (raiseSelect.rows itemsSemantics (side copies)))
    (hduplicates : ∀ copies, itemsEngine.query (duplicateRowsQuery sql 1) copies =
      .ok (duplicatesAmong (raiseSelect.rows itemsSemantics (side copies)))) :
    Answered itemsEngine sql 1 fun copies => (Probe.target raiseSelect).rows itemsSemantics (side copies) where
  rows copies result h := by
    cases (hquery copies).symm.trans h
    exact fun row => Iff.rfl
  duplicates copies result h := by
    cases (hduplicates copies).symm.trans h
    exact ⟨rfl, duplicatesAmong_eq_nil⟩

def itemsControlSql (_ : LoggedStatement) : Option String :=
  some "UPDATE control.items AS items SET price = price + 1"

lemma answers_items : List.Forall₂ (Answers itemsEngine itemsReplay itemsSemantics itemsProbes
    itemsControlSql) raiseAll.statements [raisePrices] := by
  refine .cons ⟨rfl, fun _ => rfl, fun _ _ _ _ _ h => (by cases h), fun _ => rfl, ?_, ?_⟩ .nil
  · intro probe hprobe
    cases readProbe_raise.symm.trans hprobe
    exact answered_items query_probe query_duplicates
  · intro probe hprobe caches sql hsql
    cases readProbe_raise.symm.trans hprobe
    cases hsql
    exact answered_items query_control query_controlDuplicates

lemma assignsColumns_items : ∀ statement ∈ [raisePrices], AssignsColumns statement := by
  intro statement hin
  cases List.mem_singleton.mp hin
  exact assignsColumns_raisePrices

def itemsWorking : Working (List ℕ) (List ℕ) Unit :=
  ⟨.new ⟨⟨[5, 7], ⟨0, [], []⟩⟩, ⟨[5, 7], ⟨0, [], []⟩⟩, fun _ => none⟩, 0, (), ⟨none, none⟩⟩

lemma query_same {first second : String} {copies : Copies (List ℕ) (List ℕ)}
    {rows : List (List ℕ)} (hsame : ∀ name rows', copies.temp name = some rows' → rows' = rows) :
    itemsEngine.query (selectDifferenceQuery (selectAll first) (selectAll second)) copies =
      .ok [] := by
  have hnone : ¬ ∃ onMain onControl, ComparesTables
      (selectDifferenceQuery (selectAll first) (selectAll second)) copies onMain onControl ∧
        ¬ SameRows onMain onControl := by
    rintro ⟨onMain, onControl, ⟨name, name', -, hmain, hcontrol⟩, hdiffer⟩
    rw [hsame name onMain hmain, hsame name' onControl hcontrol] at hdiffer
    exact hdiffer fun _ => Iff.rfl
  rw [query_compares, if_neg hnone]

lemma createProbeResultTable_run {engine : Engine D (List V)} {w : Working D (List V) C}
    {name probe : String} {rows : List (List V)} (hfresh : w.copies.temp name = none)
    (hquery : engine.query probe w.copies = .ok rows) :
    createProbeResultTable engine name probe w =
      .ok () (w.withCopies (withTable w.copies name rows)) := by
  unfold createProbeResultTable
  simp only [hfresh, hquery]
  rfl

lemma executeSqlForReplay_run {engine : Engine D (List V)} {w : Working D (List V) C}
    {logged : LoggedStatement} {sql orderLabel : String} {schema : Option String}
    {after : Copies D (List V)} (hdone : engine.execute sql w.copies = .done after)
    (hcheck : (databaseOf (w.withCopies after) schema).foreignKeyCheck engine = .ok none) :
    executeSqlForReplay engine logged sql .pair orderLabel schema true w =
      .ok none (w.withCopies after) := by
  have hexecute : execute engine sql w = .ok none (w.withCopies after) := by
    unfold execute
    rw [hdone]
  have hforeign : foreignKeyCheckError engine schema (w.withCopies after) =
      .ok none (w.withCopies after) := by
    unfold foreignKeyCheckError
    rw [hcheck]
    rfl
  unfold executeSqlForReplay
  rw [bind_ok hexecute]
  simp only [if_true]
  rw [bind_ok hforeign]
  rfl

def raiseStatement : LoggedStatement :=
  loggedStatement itemsContext .theirs ⟨"UPDATE items SET price = price + 1", none, false⟩ raisePrices

def itemsStart : Working (List ℕ) (List ℕ) Unit :=
  itemsWorking.enter "sqlite_merge_remaining_read_probe_"

def itemsNamed : Working (List ℕ) (List ℕ) Unit := { itemsStart with drawn := 3 }

def raisedRows : List (List ℕ) := raiseSelect.rows itemsSemantics [5, 7]

def itemsCompared : Copies (List ℕ) (List ℕ) :=
  withTable (withTable itemsNamed.copies "__sqlite_merge_probe_1" raisedRows)
    "__sqlite_merge_probe_2" raisedRows

lemma compareRows_items : ProbeRejections.compareRows itemsEngine "__sqlite_merge_probe_1"
    "__sqlite_merge_probe_2" (raiseSelect.sql itemsGenerator) raiseControl itemsNamed =
      .ok (.ok false) (itemsNamed.withCopies itemsCompared) := by
  have hfirst := @createProbeResultTable_run _ _ _ itemsEngine itemsNamed
    "__sqlite_merge_probe_1" _ raisedRows rfl (query_probe _)
  have hsecond := @createProbeResultTable_run _ _ _ itemsEngine
    (itemsNamed.withCopies (withTable itemsNamed.copies "__sqlite_merge_probe_1" raisedRows))
    "__sqlite_merge_probe_2" _ raisedRows rfl (query_control _)
  have hsame : ∀ name rows, itemsCompared.temp name = some rows → rows = raisedRows := by
    intro name rows hname
    rw [itemsCompared, withTable_temp, Function.update_apply] at hname
    split at hname
    · exact (Option.some.inj hname).symm
    · rw [withTable_temp, Function.update_apply] at hname
      split at hname
      · exact (Option.some.inj hname).symm
      · cases hname
  have hquery : query itemsEngine (selectDifferenceQuery (selectAll "__sqlite_merge_probe_1")
      (selectAll "__sqlite_merge_probe_2")) (itemsNamed.withCopies itemsCompared) =
        .ok [] (itemsNamed.withCopies itemsCompared) := by
    unfold query
    rw [Working.copies_withCopies, query_same hsame]
  exact (bind_ok hfirst).trans ((bind_ok hsecond).trans (bind_ok hquery))

lemma readerAffected_items : ∃ w', readerAffected itemsEngine itemsReplay [0] raiseStatement 0
    itemsStart = .ok (.ok false) w' ∧ w'.copies = itemsStart.copies := by
  have hcaught : exceptSqlite (ProbeRejections.compareRows itemsEngine "__sqlite_merge_probe_1"
      "__sqlite_merge_probe_2" (raiseSelect.sql itemsGenerator) raiseControl)
      (fun error => pure (.error (some error.message))) itemsNamed =
        .ok (.ok false) (itemsNamed.withCopies itemsCompared) := by
    unfold exceptSqlite catching
    rw [compareRows_items]
  have hclean : withCleanup (exceptSqlite (ProbeRejections.compareRows itemsEngine
      "__sqlite_merge_probe_1" "__sqlite_merge_probe_2" (raiseSelect.sql itemsGenerator)
      raiseControl) fun error => pure (.error (some error.message)))
      (do dropTable "__sqlite_merge_probe_1"; dropTable "__sqlite_merge_probe_2") itemsNamed =
        .ok (.ok false) (itemsNamed.withCopies { itemsCompared with
          temp := Function.update (Function.update itemsCompared.temp "__sqlite_merge_probe_1" none)
            "__sqlite_merge_probe_2" none }) := by
    unfold withCleanup
    rw [hcaught]
    rfl
  exact ⟨_, hclean, dropped rfl rfl⟩

def itemsCopies (onMain onControl : List ℕ) : Copies (List ℕ) (List ℕ) :=
  ⟨⟨onMain, ⟨0, [], []⟩⟩, ⟨onControl, ⟨0, [], []⟩⟩, fun _ => none⟩

lemma execute_main (onMain onControl : List ℕ) :
    itemsEngine.execute "UPDATE items SET price = price + 1" (itemsCopies onMain onControl) =
      .done (itemsCopies (onMain.map (· + 1)) onControl) := by
  simp only [itemsEngine, if_true]
  rfl

lemma execute_control (onMain onControl : List ℕ) :
    itemsEngine.execute "UPDATE control.items AS items SET price = price + 1"
      (itemsCopies onMain onControl) = .done (itemsCopies onMain (onControl.map (· + 1))) := by
  have hne : "UPDATE control.items AS items SET price = price + 1" ≠
      "UPDATE items SET price = price + 1" := by decide
  simp only [itemsEngine, if_neg hne, if_true]
  rfl

lemma reader_items : ∃ w', rollingWriteReadDependency itemsEngine itemsReplay setPrice raiseAll
    itemsWorking = .ok .unaffected w' := by
  obtain ⟨w₁, hread, hcopies⟩ := readerAffected_items
  have hdoneMain : itemsEngine.execute "UPDATE items SET price = price + 1" w₁.copies =
      .done (itemsCopies [6, 8] [5, 7]) := by
    rw [hcopies]
    exact execute_main [5, 7] [5, 7]
  have hmain : executeStatementOnMain itemsEngine raiseStatement .pair (transactionLabel raiseAll)
      true w₁ = .ok none (w₁.withCopies (itemsCopies [6, 8] [5, 7])) :=
    executeSqlForReplay_run hdoneMain rfl
  have hcontrol : executeStatementOnControl itemsEngine itemsReplay raiseStatement .pair
      (transactionLabel raiseAll) true (w₁.withCopies (itemsCopies [6, 8] [5, 7])) =
        .ok none (w₁.withCopies (itemsCopies [6, 8] [6, 8])) := by
    have hrun := @executeSqlForReplay_run _ _ _ itemsEngine
      (w₁.withCopies (itemsCopies [6, 8] [5, 7])) raiseStatement _ (transactionLabel raiseAll)
      (some "control") _ (execute_control [6, 8] [5, 7]) rfl
    exact bind_ok hrun
  have hbody : readStatements itemsEngine itemsReplay [0] (transactionLabel raiseAll)
      [(raiseStatement, 0)] [] itemsStart =
        .ok .unaffected (w₁.withCopies (itemsCopies [6, 8] [6, 8])) := by
    unfold readStatements
    exact (bind_ok hread).trans ((bind_ok hmain).trans ((bind_ok hcontrol).trans rfl))
  have hframed : Framed itemsStart (w₁.withCopies (itemsCopies [6, 8] [6, 8])) :=
    ProbeRejections.framed_trans (ProbeRejections.framed_readerAffected hread)
      (ProbeRejections.framed_trans (ProbeRejections.framed_executeStatementOnMain hmain)
        (ProbeRejections.framed_executeStatementOnControl hcontrol))
  have hcandidates : writeReadCandidateIndexes setPrice.metadata raiseAll.metadata = [0] := by
    decide +kernel
  obtain ⟨w₂, hdiscarded, -⟩ := discarding_ok hbody hframed
  refine ⟨w₂, ?_⟩
  unfold rollingWriteReadDependency
  rw [hcandidates]
  exact hdiscarded

end SqliteReconcile.ReadRefinement
