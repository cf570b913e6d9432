import SqliteReconcile.WorkingMerge

/-!
# Caches keyed by object ids

Three caches of the context are keyed by the id of a statement or of metadata. An id is
unique among live objects; a new object may get the id of an object that was dropped.
-/
namespace SqliteReconcile.ObjectCaches
open Models AcceptedReplay

section Remembered

variable {κ β : Type} [DecidableEq κ]

/-- Look a value up, and remember the fresh one when there is none. -/
def remembered (cache : κ → Option β) (key : κ) (fresh : β) : β × (κ → Option β) :=
  match cache key with
  | some value => (value, cache)
  | none => (fresh, Function.update cache key (some fresh))

def Agrees (cache : κ → Option β) (key : κ) (fresh : β) : Prop :=
  ∀ value, cache key = some value → value = fresh

lemma remembered_fresh_iff {cache : κ → Option β} {key : κ} {fresh : β} :
    (remembered cache key fresh).1 = fresh ↔ Agrees cache key fresh := by
  unfold remembered Agrees
  cases hkey : cache key with
  | none => simp
  | some value => simp

lemma remembered_of_ne {cache : κ → Option β} {key other : κ} (h : other ≠ key) (fresh : β) :
    (remembered cache key fresh).2 other = cache other := by
  unfold remembered
  cases hkey : cache key with
  | none => exact Function.update_of_ne h _ _
  | some value => rfl

lemma Agrees.remembered {cache : κ → Option β} {key other : κ} {fresh value : β}
    (h : Agrees cache other value) (hkey : other = key → value = fresh) :
    Agrees (remembered cache key fresh).2 other value := by
  by_cases heq : other = key
  · subst heq
    have hvalue := hkey rfl
    subst hvalue
    unfold ObjectCaches.remembered
    cases hentry : cache other with
    | none =>
      intro entry hsome
      simp only [Function.update_self, Option.some.injEq] at hsome
      exact hsome.symm
    | some entry => exact h
  · intro entry hsome
    rw [remembered_of_ne heq] at hsome
    exact h entry hsome

end Remembered

inductive CacheKey
  | statement (id : ℕ)
  | sql (text : String)
  deriving DecidableEq

structure Caches where
  controlSql : CacheKey → Option (Option String)
  affectedPkProbe : ℕ → Option (Option String)
  readProbeResult : ℕ → Option ReadProbeResult

def Caches.new : Caches := ⟨fun _ => none, fun _ => none, fun _ => none⟩

/-- `control_sql_rewriter`, which takes a statement or a text. -/
structure ControlSqlRewriter where
  statement : LoggedStatement → Option String
  text : String → Option String

/-- The functions that build SQL text from a parsed statement. -/
structure Builders where
  controlSqlRewriter : Option ControlSqlRewriter
  targetRowSelect : StatementMetadata → Option String
  updateReadProbeSelect : StatementMetadata → Option String
  insertProbeSelect : StatementMetadata → ReadProbeResult

variable (builders : Builders)

def controlSqlFor (id : ℕ) (statement : LoggedStatement) (caches : Caches) :
    Option String × Caches :=
  match builders.controlSqlRewriter with
  | none => (none, caches)
  | some rewriter =>
    let (sql, controlSql) :=
      remembered caches.controlSql (.statement id) (rewriter.statement statement)
    (sql, { caches with controlSql := controlSql })

def controlSqlForText (text : String) (caches : Caches) : Option String × Caches :=
  match builders.controlSqlRewriter with
  | none => (none, caches)
  | some rewriter =>
    let (sql, controlSql) := remembered caches.controlSql (.sql text) (rewriter.text text)
    (sql, { caches with controlSql := controlSql })

def affectedPrimaryKeySelect (id : ℕ) (metadata : StatementMetadata) (caches : Caches) :
    Option String × Caches :=
  let (sql, affectedPkProbe) :=
    remembered caches.affectedPkProbe id (builders.targetRowSelect metadata)
  (sql, { caches with affectedPkProbe := affectedPkProbe })

def probeResult : Option String → ReadProbeResult
  | none => .notRefined (some "reader probe could not be built")
  | some sql => .ok sql

/-- Build the read probe of metadata that has none. A DELETE reads the rows it affects. -/
def buildReadProbe (id : ℕ) (metadata : StatementMetadata) (caches : Caches) :
    ReadProbeResult × Caches :=
  match metadata.parsedSqlText.statementKind with
  | .update => (probeResult (builders.updateReadProbeSelect metadata), caches)
  | .delete =>
    let (sql, caches) := affectedPrimaryKeySelect builders id metadata caches
    (probeResult sql, caches)
  | .insert => (builders.insertProbeSelect metadata, caches)
  | .other => (.notRefined (some "reader statement has no supported probe"), caches)

def readProbeResult (id : ℕ) (metadata : StatementMetadata) (caches : Caches) :
    ReadProbeResult × Caches :=
  match caches.readProbeResult id with
  | some result => (result, caches)
  | none =>
    let (result, caches) := buildReadProbe builders id metadata caches
    (result, { caches with
      readProbeResult := Function.update caches.readProbeResult id (some result) })

inductive PyObject
  | statement (statement : LoggedStatement)
  | metadata (metadata : StatementMetadata)

/-- The live objects and the caches of the context. -/
structure Heap where
  live : ℕ → Option PyObject
  caches : Caches

def Heap.new : Heap := ⟨fun _ => none, .new⟩

inductive Event
  | create (id : ℕ) (object : PyObject)
  | drop (id : ℕ)
  | controlSqlFor (id : ℕ)
  | controlSqlForText (text : String)
  | affectedPrimaryKeySelect (id : ℕ)
  | readProbeResult (id : ℕ)

/-- One event, when it is possible: a new object gets an id that no live object has, and
lookups are made with live objects. -/
def step (heap : Heap) : Event → Option Heap
  | .create id object =>
    match heap.live id with
    | none => some { heap with live := Function.update heap.live id (some object) }
    | some _ => none
  | .drop id =>
    match heap.live id with
    | some _ => some { heap with live := Function.update heap.live id none }
    | none => none
  | .controlSqlFor id =>
    match heap.live id with
    | some (.statement statement) =>
      some { heap with caches := (controlSqlFor builders id statement heap.caches).2 }
    | _ => none
  | .controlSqlForText text =>
    some { heap with caches := (controlSqlForText builders text heap.caches).2 }
  | .affectedPrimaryKeySelect id =>
    match heap.live id with
    | some (.metadata metadata) =>
      some { heap with caches := (affectedPrimaryKeySelect builders id metadata heap.caches).2 }
    | _ => none
  | .readProbeResult id =>
    match heap.live id with
    | some (.metadata metadata) =>
      some { heap with caches := (readProbeResult builders id metadata heap.caches).2 }
    | _ => none

def run : List Event → Heap → Option Heap
  | [], heap => some heap
  | event :: rest, heap => step builders heap event >>= run rest

def freshControlSql (statement : LoggedStatement) : Option String :=
  builders.controlSqlRewriter.bind (·.statement statement)

def freshReadProbe (metadata : StatementMetadata) : ReadProbeResult :=
  (buildReadProbe builders 0 metadata .new).1

/-- A lookup with the object returns what would be computed for it. -/
def LookupsFresh (caches : Caches) (id : ℕ) : PyObject → Prop
  | .statement statement =>
    (controlSqlFor builders id statement caches).1 = freshControlSql builders statement
  | .metadata metadata =>
    (affectedPrimaryKeySelect builders id metadata caches).1 =
        builders.targetRowSelect metadata ∧
      (readProbeResult builders id metadata caches).1 = freshReadProbe builders metadata

/-- The entries for the object's id are its own. -/
def CachesAgree (caches : Caches) (id : ℕ) : PyObject → Prop
  | .statement statement => ∀ rewriter, builders.controlSqlRewriter = some rewriter →
    Agrees caches.controlSql (.statement id) (rewriter.statement statement)
  | .metadata metadata =>
    Agrees caches.affectedPkProbe id (builders.targetRowSelect metadata) ∧
      Agrees caches.readProbeResult id (freshReadProbe builders metadata)

/-- Every lookup with a live object is fresh. -/
def Transparent (heap : Heap) : Prop :=
  ∀ id object, heap.live id = some object → LookupsFresh builders heap.caches id object

variable {builders} {caches : Caches} {id : ℕ}

lemma buildReadProbe_fresh {metadata : StatementMetadata}
    (h : Agrees caches.affectedPkProbe id (builders.targetRowSelect metadata)) :
    (buildReadProbe builders id metadata caches).1 = freshReadProbe builders metadata := by
  unfold buildReadProbe freshReadProbe buildReadProbe
  cases metadata.parsedSqlText.statementKind with
  | delete =>
    have haffected : (remembered caches.affectedPkProbe id
        (builders.targetRowSelect metadata)).1 = builders.targetRowSelect metadata :=
      remembered_fresh_iff.mpr h
    simp only [affectedPrimaryKeySelect, haffected]
    rfl
  | _ => rfl

lemma lookupsFresh_iff (object : PyObject) :
    LookupsFresh builders caches id object ↔ CachesAgree builders caches id object := by
  cases object with
  | statement statement =>
    unfold LookupsFresh CachesAgree controlSqlFor freshControlSql
    cases hrewriter : builders.controlSqlRewriter with
    | none => simp
    | some rewriter =>
      simp only [Option.bind_some, Option.some.injEq, forall_eq']
      exact remembered_fresh_iff
  | metadata metadata =>
    have haffected : (affectedPrimaryKeySelect builders id metadata caches).1 =
        builders.targetRowSelect metadata ↔ _ := remembered_fresh_iff
    simp only [LookupsFresh, CachesAgree, haffected]
    apply and_congr_right
    intro hagrees
    unfold readProbeResult Agrees
    cases hentry : caches.readProbeResult id with
    | none =>
      have hfresh := buildReadProbe_fresh hagrees
      simp [hfresh]
    | some result => simp

lemma CachesAgree.controlSqlFor {other : ℕ} {object : PyObject} {statement : LoggedStatement}
    (h : CachesAgree builders caches other object)
    (hsame : other = id → object = .statement statement) :
    CachesAgree builders (controlSqlFor builders id statement caches).2 other object := by
  unfold ObjectCaches.controlSqlFor
  cases hrewriter : builders.controlSqlRewriter with
  | none => exact h
  | some rewriter =>
    cases object with
    | metadata metadata => exact h
    | statement statement' =>
      intro rewriter' hrewriter'
      apply (h rewriter' hrewriter').remembered
      intro hkey
      cases hkey
      cases hsame rfl
      rw [hrewriter] at hrewriter'
      cases hrewriter'
      rfl

lemma CachesAgree.controlSqlForText {other : ℕ} {object : PyObject} {text : String}
    (h : CachesAgree builders caches other object) :
    CachesAgree builders (controlSqlForText builders text caches).2 other object := by
  unfold ObjectCaches.controlSqlForText
  cases hrewriter : builders.controlSqlRewriter with
  | none => exact h
  | some rewriter =>
    cases object with
    | metadata metadata => exact h
    | statement statement =>
      intro rewriter' hrewriter'
      apply (h rewriter' hrewriter').remembered
      intro hkey
      cases hkey

lemma CachesAgree.affectedPrimaryKeySelect {other : ℕ} {object : PyObject}
    {metadata : StatementMetadata} (h : CachesAgree builders caches other object)
    (hsame : other = id → object = .metadata metadata) :
    CachesAgree builders (affectedPrimaryKeySelect builders id metadata caches).2 other object := by
  cases object with
  | statement statement => exact h
  | metadata metadata' =>
    refine ⟨?_, h.2⟩
    apply h.1.remembered
    intro hkey
    cases hsame hkey
    rfl

lemma CachesAgree.buildReadProbe {other : ℕ} {object : PyObject}
    {metadata : StatementMetadata} (h : CachesAgree builders caches other object)
    (hsame : other = id → object = .metadata metadata) :
    CachesAgree builders (buildReadProbe builders id metadata caches).2 other object := by
  unfold ObjectCaches.buildReadProbe
  cases metadata.parsedSqlText.statementKind with
  | delete => exact h.affectedPrimaryKeySelect hsame
  | _ => exact h

lemma CachesAgree.readProbeResult {other : ℕ} {object : PyObject} {metadata : StatementMetadata}
    (h : CachesAgree builders caches other object)
    (hown : CachesAgree builders caches id (.metadata metadata))
    (hsame : other = id → object = .metadata metadata) :
    CachesAgree builders (readProbeResult builders id metadata caches).2 other object := by
  unfold ObjectCaches.readProbeResult
  cases hentry : caches.readProbeResult id with
  | some result => exact h
  | none =>
    have hbuilt := h.buildReadProbe hsame
    cases object with
    | statement statement => exact hbuilt
    | metadata metadata' =>
      refine ⟨hbuilt.1, ?_⟩
      intro value hvalue
      dsimp only at hvalue
      by_cases hid : other = id
      · subst hid
        cases hsame rfl
        simp only [Function.update_self, Option.some.injEq] at hvalue
        rw [← hvalue]
        exact buildReadProbe_fresh hown.1
      · rw [Function.update_of_ne hid] at hvalue
        exact hbuilt.2 value hvalue

/-- A step keeps every lookup fresh, if a new object agrees with the entries for its id. -/
lemma transparent_step {heap heap' : Heap} {event : Event} (h : Transparent builders heap)
    (hcreate : ∀ id object, event = .create id object → heap.live id = none →
      CachesAgree builders heap.caches id object)
    (hstep : step builders heap event = some heap') : Transparent builders heap' := by
  have hagree : ∀ id object, heap.live id = some object →
      CachesAgree builders heap.caches id object :=
    fun id object hlive => (lookupsFresh_iff object).mp (h id object hlive)
  intro other object hobject
  apply (lookupsFresh_iff object).mpr
  cases event with
  | create id created =>
    cases hid : heap.live id with
    | some old =>
      simp only [step, hid] at hstep
      cases hstep
    | none =>
      simp only [step, hid] at hstep
      cases hstep
      dsimp only at hobject
      by_cases heq : other = id
      · subst heq
        simp only [Function.update_self, Option.some.injEq] at hobject
        subst hobject
        exact hcreate other created rfl hid
      · rw [Function.update_of_ne heq] at hobject
        exact hagree other object hobject
  | drop id =>
    cases hid : heap.live id with
    | none =>
      simp only [step, hid] at hstep
      cases hstep
    | some old =>
      simp only [step, hid] at hstep
      cases hstep
      dsimp only at hobject
      by_cases heq : other = id
      · subst heq
        simp only [Function.update_self] at hobject
        cases hobject
      · rw [Function.update_of_ne heq] at hobject
        exact hagree other object hobject
  | controlSqlForText text =>
    cases hstep
    exact (hagree other object hobject).controlSqlForText
  | controlSqlFor id =>
    simp only [step] at hstep
    split at hstep
    · rename_i statement hid
      cases hstep
      apply (hagree other object hobject).controlSqlFor
      intro heq
      subst heq
      exact Option.some.inj (hobject.symm.trans hid)
    · cases hstep
  | affectedPrimaryKeySelect id =>
    simp only [step] at hstep
    split at hstep
    · rename_i metadata hid
      cases hstep
      apply (hagree other object hobject).affectedPrimaryKeySelect
      intro heq
      subst heq
      exact Option.some.inj (hobject.symm.trans hid)
    · cases hstep
  | readProbeResult id =>
    simp only [step] at hstep
    split at hstep
    · rename_i metadata hid
      cases hstep
      apply (hagree other object hobject).readProbeResult (hagree id _ hid)
      intro heq
      subst heq
      exact Option.some.inj (hobject.symm.trans hid)
    · cases hstep

lemma run_append (events others : List Event) (heap : Heap) :
    run builders (events ++ others) heap = run builders events heap >>= run builders others := by
  induction events generalizing heap with
  | nil => rfl
  | cons event rest ih =>
    cases hstep : step builders heap event with
    | none => simp [run, hstep]
    | some next =>
      have hnext := ih next
      simpa [run, hstep] using hnext

/-- No new object gets an id for which a cache has an entry of another object. -/
def NoStaleId (builders : Builders) (events : List Event) (heap : Heap) : Prop :=
  ∀ before id object after middle, events = before ++ .create id object :: after →
    run builders before heap = some middle → middle.live id = none →
    CachesAgree builders middle.caches id object

lemma transparent_run {events : List Event} {heap heap' : Heap} (h : Transparent builders heap)
    (hstale : NoStaleId builders events heap) (hrun : run builders events heap = some heap') :
    Transparent builders heap' := by
  induction events generalizing heap with
  | nil =>
    cases hrun
    exact h
  | cons event rest ih =>
    obtain ⟨next, hstep, hrest⟩ := Option.bind_eq_some_iff.mp hrun
    have hnext : Transparent builders next := by
      apply transparent_step h _ hstep
      intro id object hevent hfree
      subst hevent
      exact hstale [] id object rest heap rfl rfl hfree
    apply ih hnext _ hrest
    intro before id object after middle hevents hbefore hfree
    apply hstale (event :: before) id object after middle _ _ hfree
    · rw [hevents]
      rfl
    · rw [run, hstep]
      exact hbefore

lemma transparent_new : Transparent builders .new := by
  intro id object hobject
  cases hobject

/-- Every lookup of a run is fresh, in each state it reaches, exactly when no object is created
at an id for which a cache has another value than the object's own. -/
theorem transparent_iff (builders : Builders) (events : List Event) :
    (∀ before, before <+: events → ∀ heap, run builders before .new = some heap →
      Transparent builders heap) ↔ NoStaleId builders events .new := by
  constructor
  · intro h before id object after middle hevents hbefore hfree
    let created : Heap := { middle with live := Function.update middle.live id (some object) }
    have hstep : step builders middle (.create id object) = some created := by
      simp only [step, hfree]
      rfl
    have hrun : run builders (before ++ [.create id object]) .new = some created := by
      rw [run_append, hbefore]
      simp [run, hstep]
    have hprefix : before ++ [.create id object] <+: events := by
      rw [hevents]
      exact ⟨after, by simp⟩
    have hlive : created.live id = some object := Function.update_self _ _ _
    exact (lookupsFresh_iff object).mp (h _ hprefix created hrun id object hlive)
  · intro hstale before hprefix heap hrun
    obtain ⟨rest, rfl⟩ := hprefix
    apply transparent_run transparent_new _ hrun
    intro before' id object after middle hevents hbefore hfree
    apply hstale before' id object (after ++ rest) middle _ hbefore hfree
    rw [hevents]
    simp

open LogMerge MergeConservation WorkingMerge

def insertBuilders : Builders where
  controlSqlRewriter := some ⟨insertControlSql, fun _ => none⟩
  targetRowSelect _ := none
  updateReadProbeSelect _ := none
  insertProbeSelect _ := .noReadDependency

def strictInsert (sql : String) : LoggedStatement :=
  makeLoggedStatement quietSurroundings.reader .theirs 0 1 "" ⟨sql, sql, true, none⟩

def strictA : LoggedStatement := strictInsert "INSERT INTO a VALUES (1)"

def strictB : LoggedStatement := strictInsert "INSERT INTO b VALUES (1)"

/-- The second strict statement gets the id of the first one. -/
def reusedId : List Event :=
  [.create 7 (.statement strictA), .controlSqlFor 7, .drop 7, .create 7 (.statement strictB)]

/-- The lookup with the second statement returns the SQL of the first one. -/
theorem reused_id_stale :
    ∃ heap, run insertBuilders reusedId .new = some heap ∧
      heap.live 7 = some (.statement strictB) ∧
      (controlSqlFor insertBuilders 7 strictB heap.caches).1 =
        some "INSERT INTO control.a VALUES (1)" ∧
      freshControlSql insertBuilders strictB = some "INSERT INTO control.b VALUES (1)" :=
  ⟨_, rfl, rfl, rfl, rfl⟩

end SqliteReconcile.ObjectCaches
