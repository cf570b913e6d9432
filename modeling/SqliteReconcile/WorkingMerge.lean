import SqliteReconcile.StatementExecution
import SqliteReconcile.ScanProtocol

/-!
# The merge on the working connection

The merge machine run over the two copies. Whatever is scanned, the main copy holds the
base with the accepted transactions, and the log has one transaction for each of them.
-/
namespace SqliteReconcile.WorkingMerge
open Models Programs Savepoints Connection AcceptedReplay RemainingExecution ReplayRestoration
  StatementExecution LogMerge TerminalUi ConflictDetection TerminalMergetool MergeConservation
  ScanProtocol

variable {D R C E α : Type}

/-- Everything a merge reads and changes. `raised` is the exception that ended it, and
`rest` all that is not the working connection: the user, and the branch-local replay. -/
structure World (D R C E : Type) where
  working : Working D R C
  current : Option LoggedTransaction
  raised : Option Exn
  rest : E

def attempt (x : Program D R C α) (fallback : α) (world : World D R C E) :
    α × World D R C E :=
  match world.raised with
  | some _ => (fallback, world)
  | none =>
    match x world.working with
    | .ok a working => (a, { world with working := working })
    | .error e working => (fallback, { world with working := working, raised := some e })

/-- Run a call of the scanner of the current transaction. -/
def withScanner (world : World D R C E)
    (x : LoggedTransaction → Program D R C ConflictCheckResult) :
    Program D R C ConflictCheckResult :=
  match world.current with
  | none => throw (.other "no active scanner")
  | some current => x current

def stopped (scope : ConflictScope) : StatementConflict :=
  sqliteExceptionConflict ⟨false, "the merge has ended"⟩ scope

/-- The execution scanner and the accepted replay over the working connection. -/
def databases (engine : Engine D R) (context : ReplayContext C) :
    Databases (World D R C E) where
  start current world :=
    attempt (start engine context current current.branch) .empty
      { world with current := some current }
  checkNext enabled ours theirs staticResult world :=
    attempt (withScanner world fun current =>
      checkNext engine context enabled current current.branch ours theirs staticResult) .empty world
  acceptNext current other acceptedResult world :=
    attempt (acceptNext engine context current other acceptedResult) .empty world
  close world := (attempt (close engine) () world).2
  applyAcceptedTransaction transaction world :=
    attempt (applyAcceptedTransaction engine context transaction)
      (some (stopped transaction.branch.scope)) world

/-- The user and the branch-local replay, which work beside the working connection. -/
structure Outside (E : Type) where
  branchTransactionReplayIssue : LoggedTransaction → E → Option BranchReplayIssue × E
  reader : SqlReader
  inputs : E → List UserInput × E

def surroundings (engine : Engine D R) (context : ReplayContext C) (outside : Outside E) :
    Surroundings (World D R C E) where
  databases := databases engine context
  branchTransactionReplayIssue transaction world :=
    let (issue, rest) := outside.branchTransactionReplayIssue transaction world.rest
    (issue, { world with rest := rest })
  reader := outside.reader
  inputs world :=
    let (inputs, rest) := outside.inputs world.rest
    (inputs, { world with rest := rest })

/-- Both copies right after they were made from the base. -/
def openCopies (base : Database D) : Copies D R := ⟨base, base, fun _ => none⟩

def World.new (base : Database D) (caches : C) (rest : E) : World D R C E where
  working := ⟨.new (openCopies base), 0, caches, ⟨none, none⟩⟩
  current := none
  raised := none
  rest := rest

/-- `validate_database`, with the answer of `PRAGMA integrity_check` unless it is "ok". -/
def validateDatabase (engine : Engine D R) (integrityCheck : Database D → Option String)
    (database : Database D) : Except SqliteError (List String) := do
  let violation ← database.foreignKeyCheck engine
  return (integrityCheck database).toList.map ("integrity_check: " ++ ·) ++
    violation.toList.map ("foreign_key_check: " ++ ·)

/-- The base is accepted by `require_valid_base`. -/
def RequireValidBase (engine : Engine D R) (integrityCheck : Database D → Option String)
    (base : Database D) : Prop :=
  validateDatabase engine integrityCheck base = .ok []

/-- Both copies after some transactions, each executed on both of them, without a
foreign-key violation in main, and appended to its log. -/
inductive AppliedAll (engine : Engine D R) (context : ReplayContext C) (base : Copies D R) :
    List LoggedTransaction → Copies D R → Prop
  | base : AppliedAll engine context base [] base
  | apply {transactions transaction copies last} :
    AppliedAll engine context base transactions copies →
    ReplayedOnBoth engine context transaction.statements copies last →
    last.main.foreignKeyCheck engine = .ok none →
    AppliedAll engine context base (transactions ++ [transaction])
      (last.withLog (last.main.log.append (transaction.statements.map logEntry)))

section

variable {engine : Engine D R} {context : ReplayContext C} {base : Copies D R}

lemma foreignKeyCheck_ok {database : Database D}
    (h : database.foreignKeyCheck engine = .ok none) :
    engine.foreignKeyCheck database.tables = .ok none ∧ database.log.foreignKeyCheck = none := by
  unfold Database.foreignKeyCheck at h
  split at h
  · rename_i htables
    exact ⟨htables, by simpa using h⟩
  · rename_i hnot
    exact absurd h hnot

lemma foreignKeyCheck_withLog {copies : Copies D R}
    (h : copies.main.foreignKeyCheck engine = .ok none) (entries : List Wrapper.LogEntry) :
    (copies.withLog (copies.main.log.append entries)).main.foreignKeyCheck engine = .ok none := by
  obtain ⟨htables, hlog⟩ := foreignKeyCheck_ok h
  simp only [Database.foreignKeyCheck, Copies.withLog, htables,
    MergeLog.foreignKeyCheck_append hlog]

lemma AppliedAll.foreignKeyCheck {transactions : List LoggedTransaction} {copies : Copies D R}
    (h : AppliedAll engine context base transactions copies)
    (hbase : base.main.foreignKeyCheck engine = .ok none) :
    copies.main.foreignKeyCheck engine = .ok none := by
  cases h with
  | base => exact hbase
  | apply _ _ hcheck => exact foreignKeyCheck_withLog hcheck _

lemma foreignKeyCheck_of_valid {integrityCheck : Database D → Option String}
    {database : Database D} (h : RequireValidBase engine integrityCheck database) :
    database.foreignKeyCheck engine = .ok none := by
  unfold RequireValidBase validateDatabase at h
  cases hcheck : database.foreignKeyCheck engine with
  | error error =>
    rw [hcheck] at h
    cases h
  | ok violation =>
    rw [hcheck] at h
    cases violation with
    | none => rfl
    | some row =>
      have hlist := Except.ok.inj h
      simp at hlist

/-- The working connection while a scan is open, and while none is. An exception ends the
merge. -/
def MergeHolds (engine : Engine D R) (context : ReplayContext C) (base : Copies D R)
    (isOpen : Bool) (session : Session (World D R C E)) : Prop :=
  session.world.raised = none → ∃ before,
    AppliedAll engine context base (applied session.trace) before ∧
    if isOpen then ScanOpen engine before [] session.world.working
    else session.world.working.stack = .new before ∧
      session.world.working.scanner.savepoint = none

lemma attempt_raised {x : Program D R C α} {fallback : α} {world : World D R C E}
    (h : (attempt x fallback world).2.raised = none) :
    ∃ a w', x world.working = .ok a w' ∧ attempt x fallback world =
      (a, { world with working := w' }) ∧ world.raised = none := by
  unfold attempt at h ⊢
  cases hraised : world.raised with
  | some e =>
    rw [hraised] at h
    simp only [hraised] at h
    cases h
  | none =>
    simp only [hraised] at h ⊢
    cases hx : x world.working with
    | ok a w' => exact ⟨a, w', rfl, rfl, trivial⟩
    | error e w' =>
      rw [hx] at h
      cases h

lemma applied_snoc (trace : List Event) (event : Event) :
    applied (trace ++ [event]) = applied trace ++ (appliedBy event).toList := by
  unfold applied
  cases happlied : appliedBy event <;> simp [happlied]

lemma applied_record {trace : List Event} {event : Event} (h : ¬ IsApply event) :
    applied (trace ++ [event]) = applied trace := by
  rw [applied_snoc]
  cases event with
  | apply => exact absurd trivial h
  | _ => exact List.append_nil _

lemma holds_framed {x : Program D R C ConflictCheckResult}
    {session : Session (World D R C E)} {event : Event}
    (hx : ∀ {w result w'}, x w = .ok result w' → Framed w w') (hevent : ¬ IsApply event)
    (h : MergeHolds engine context base true session) :
    MergeHolds engine context base true
      ((Session.mk (attempt x .empty session.world).2 session.trace).record event) := by
  intro hraised
  obtain ⟨result, w', hrun, hattempt, hbefore⟩ := attempt_raised hraised
  obtain ⟨before, happlied, hopen⟩ := h hbefore
  refine ⟨before, ?_, ?_⟩
  · rw [Session.trace_record, applied_record hevent]
    exact happlied
  · simp only [if_true] at hopen ⊢
    have hframed := hx hrun
    have hkeeps := @keepsScan_of_within D R C engine _ _ (.inl hframed)
    have hworld : (attempt x .empty session.world).2.working = w' := by rw [hattempt]
    exact hworld ▸ hopen.keeps hkeeps

variable {outside : Outside E}

lemma holds_start {session : Session (World D R C E)} (current : LoggedTransaction)
    (h : MergeHolds engine context base false session) :
    MergeHolds engine context base true
      (session.start (surroundings engine context outside).databases current).2 := by
  intro hraised
  obtain ⟨result, w', hrun, hattempt, hbefore⟩ := attempt_raised hraised
  obtain ⟨before, happlied, hidle⟩ := h hbefore
  refine ⟨before, happlied, ?_⟩
  simp only [Bool.false_eq_true, if_false] at hidle
  simp only [if_true]
  have hopen : ScanOpen engine session.world.working.copies session.world.working.saved
      (final (start engine context current current.branch session.world.working)) :=
    scanOpen_start current current.branch session.world.working
  have hcopies : session.world.working.copies = before := congrArg Stack.current hidle.1
  have hsaved : session.world.working.saved = [] := congrArg Stack.saved hidle.1
  have hworld : (session.start (surroundings engine context outside).databases
      current).2.world.working = w' := congrArg (fun answer => answer.2.working) hattempt
  have hrun' : start engine context current current.branch session.world.working =
      .ok result w' := hrun
  rw [hworld]
  rw [hcopies, hsaved, hrun'] at hopen
  exact hopen

lemma holds_close {isOpen : Bool} {session : Session (World D R C E)}
    (h : MergeHolds engine context base isOpen session) :
    MergeHolds engine context base false
      (session.close (surroundings engine context outside).databases) := by
  intro hraised
  obtain ⟨u, w', hrun, hattempt, hbefore⟩ := attempt_raised hraised
  obtain ⟨before, happlied, hstate⟩ := h hbefore
  refine ⟨before, happlied, ?_⟩
  have hworld : (session.close (surroundings engine context outside).databases).world.working =
      w' := congrArg (fun answer => answer.2.working) hattempt
  simp only [Bool.false_eq_true, if_false]
  rw [hworld]
  cases isOpen with
  | true =>
    obtain ⟨hcopies, hsaved, hname⟩ := close_scanOpen hstate hrun
    refine ⟨?_, hname⟩
    cases hstack : w'.stack with
    | mk current saved =>
      simp only [Working.copies, Working.saved, hstack] at hcopies hsaved
      rw [hcopies, hsaved]
      rfl
  | false =>
    obtain ⟨hstack, hname⟩ := hstate
    rw [close_idle hname] at hrun
    cases hrun
    exact ⟨hstack, hname⟩

lemma holds_apply {session : Session (World D R C E)} (current : LoggedTransaction)
    (opposite : List LoggedTransaction) (h : MergeHolds engine context base false session) :
    MergeHolds engine context base false (session.applyAcceptedTransaction
      (surroundings engine context outside).databases current opposite).2 := by
  intro hraised
  obtain ⟨failure, w', hrun, hattempt, hbefore⟩ := attempt_raised hraised
  obtain ⟨before, happlied, hstack, hname⟩ := h hbefore
  have hanswer : session.applyAcceptedTransaction
      (surroundings engine context outside).databases current opposite =
      (failure, (Session.mk { session.world with working := w' } session.trace).record
        (.apply current opposite failure)) := by
    simp only [Session.applyAcceptedTransaction, surroundings, databases, hattempt]
  rw [hanswer]
  simp only [Session.trace_record, applied_snoc, Bool.false_eq_true, if_false]
  cases failure with
  | some failure =>
    have hrestored := restored_of_apply_conflict hrun
    refine ⟨before, ?_, ?_, ?_⟩
    · simpa [appliedBy] using happlied
    · exact hrestored.stack.trans hstack
    · exact (congrArg _ hrestored.scanner).trans hname
  | none =>
    obtain ⟨last, hreplayed, hcheck, -, hcopies, hframed⟩ := apply_none hrun
    have hsame : session.world.working.copies = before := congrArg Stack.current hstack
    rw [hsame] at hreplayed
    refine ⟨_, .apply happlied hreplayed hcheck, ?_, ?_⟩
    · have hsaved : w'.saved = [] := hframed.saved.trans (congrArg Stack.saved hstack)
      change w'.stack = _
      cases hw : w'.stack with
      | mk shown saved =>
        simp only [Working.copies, Working.saved, hw] at hcopies hsaved
        rw [hcopies, hsaved]
        rfl
    · exact (congrArg _ hframed.scanner).trans hname

/-- The working connection follows the protocol of the merge. -/
lemma mergeProtocol :
    Protocol (surroundings engine context outside)
      (MergeHolds engine context base (D := D) (E := E)) where
  inputs h := h
  record {isOpen session event} hevent h := by
    intro hraised
    obtain ⟨before, happlied, hrest⟩ := h hraised
    refine ⟨before, ?_, hrest⟩
    rw [Session.trace_record, applied_record hevent]
    exact happlied
  branchReplay transaction h := h
  start current h := holds_start current h
  checkNext {session} enabled branch current other result h := by
    apply holds_framed _ id h
    intro w result' w' hrun
    cases hcurrent : session.world.current with
    | none =>
      simp only [withScanner, hcurrent] at hrun
      cases hrun
    | some scanned =>
      simp only [withScanner, hcurrent] at hrun
      exact (framed_checkNext hrun).2
  acceptNext current other result h :=
    holds_framed (fun hrun => (framed_acceptNext hrun).2) id h
  close h := holds_close h
  apply current opposite h := holds_apply current opposite h

/-- When the merge is not in a turn, the working connection shows the base with the accepted
transactions, and no savepoint is open. -/
lemma appliedAll_reachable {base : Database D} {caches : C} {rest : E}
    {schema : ConflictCheckContext} {rows : Sides (List LogTableRow)}
    {state : State (World D R C E)}
    (h : Reachable schema (surroundings engine context outside) (.new base caches rest) rows state)
    (hpoint : inTurn state.point = false)
    (hraised : state.merge.session.world.raised = none) :
    AppliedAll engine context (openCopies base) (applied state.merge.session.trace)
        state.merge.session.world.working.copies ∧
      state.merge.session.world.working.saved = [] := by
  have hstart : MergeHolds engine context (openCopies base) false
      (Session.mk (World.new base caches rest) []) :=
    fun _ => ⟨_, .base, rfl, rfl⟩
  have hstate := stateHolds_reachable mergeProtocol hstart h
  obtain ⟨before, happlied, hstack, -⟩ := hstate.idle hpoint hraised
  have hcopies : state.merge.session.world.working.copies = before :=
    congrArg Stack.current hstack
  rw [hcopies]
  exact ⟨happlied, congrArg Stack.saved hstack⟩

/-- A statement acts on main alone, as `replay` says, and its control SQL leaves main as it
is. -/
structure ActsOnMain (engine : Engine D R) (context : ReplayContext C)
    (replay : LoggedStatement → D → Option D) (statement : LoggedStatement) : Prop where
  tables : ∀ {copies after}, engine.execute statement.sqlText copies = .done after →
    replay statement copies.main.tables = some after.main.tables
  log : ∀ {copies after}, engine.execute statement.sqlText copies = .done after →
    after.main.log = copies.main.log
  control : ∀ {caches sql caches' copies after},
    context.controlSqlFor statement caches = (some sql, caches') →
    engine.execute sql copies = .done after → after.main = copies.main

/-- A database with one more transaction, replayed and logged. -/
def acceptInto (replay : LoggedStatement → D → Option D) (database : Database D)
    (transaction : LoggedTransaction) : Option (Database D) := do
  let tables ← replayStatements replay transaction.statements database.tables
  return ⟨tables, database.log.append (transaction.statements.map logEntry)⟩

lemma replayStatements_replayedOnBoth {replay : LoggedStatement → D → Option D}
    {statements : List LoggedStatement} {copies last : Copies D R}
    (h : ReplayedOnBoth engine context statements copies last)
    (hacts : ∀ statement ∈ statements, ActsOnMain engine context replay statement) :
    replayStatements replay statements copies.main.tables = some last.main.tables ∧
      last.main.log = copies.main.log := by
  induction h with
  | nil => exact ⟨rfl, rfl⟩
  | @cons statement rest copies onControl onBoth last caches caches' sql hsql hcontrol hmain hrest
      ih =>
    have hstatement := hacts statement List.mem_cons_self
    obtain ⟨htables, hlog⟩ := ih fun s hs => hacts s (List.mem_cons_of_mem _ hs)
    have hsame := hstatement.control hsql hcontrol
    have hreplay := hstatement.tables hmain
    have hkept := hstatement.log hmain
    rw [hsame] at hreplay hkept
    refine ⟨?_, hlog.trans hkept⟩
    rw [replayStatements, hreplay]
    exact htables

/-- The main copy is the base with the accepted transactions, in acceptance order. -/
lemma AppliedAll.main {replay : LoggedStatement → D → Option D}
    {transactions : List LoggedTransaction} {copies : Copies D R}
    (h : AppliedAll engine context base transactions copies)
    (hacts : ∀ transaction ∈ transactions, ∀ statement ∈ transaction.statements,
      ActsOnMain engine context replay statement) :
    transactions.foldlM (acceptInto replay) base.main = some copies.main := by
  induction h with
  | base => rfl
  | @apply transactions transaction copies last happlied hreplayed hcheck ih =>
    have hbefore := ih fun t ht => hacts t (List.mem_append_left _ ht)
    obtain ⟨htables, hlog⟩ := replayStatements_replayedOnBoth hreplayed
      (hacts transaction (List.mem_append_right _ List.mem_cons_self))
    rw [List.foldlM_append, hbefore]
    simp [acceptInto, htables, hlog, Copies.withLog]

end

/-- Applying a transaction is all or nothing: a conflict leaves both copies, the log and the
savepoints as they were, and without conflict each statement was executed once on control
and once on main, in order, and the transaction was appended to the log. When a merge of a
valid base is finished, the main copy has no foreign-key violation, and is the base with the
accepted transactions in acceptance order. -/
theorem apply_all_or_nothing (engine : Engine D R) (context : ReplayContext C)
    (outside : Outside E) (integrityCheck : Database D → Option String) :
    (∀ transaction w conflict w',
      applyAcceptedTransaction engine context transaction w = .ok (some conflict) w' →
      w'.stack = w.stack) ∧
    (∀ transaction w w',
      applyAcceptedTransaction engine context transaction w = .ok none w' →
      ∃ last, ReplayedOnBoth engine context transaction.statements w.copies last ∧
        w'.copies = last.withLog
          (last.main.log.append (transaction.statements.map logEntry)) ∧
        w'.saved = w.saved) ∧
    ∀ (schema : ConflictCheckContext) (base : Database D) (caches : C) (rest : E)
      (rows : Sides (List LogTableRow)) (state : State (World D R C E)),
      RequireValidBase engine integrityCheck base →
      Reachable schema (surroundings engine context outside) (.new base caches rest) rows state →
      inTurn state.point = false → state.merge.session.world.raised = none →
      state.merge.session.world.working.copies.main.foreignKeyCheck engine = .ok none ∧
      AppliedAll engine context (openCopies base) (applied state.merge.session.trace)
        state.merge.session.world.working.copies ∧
      ∀ replay : LoggedStatement → D → Option D,
        (∀ transaction ∈ applied state.merge.session.trace,
          ∀ statement ∈ transaction.statements, ActsOnMain engine context replay statement) →
        (applied state.merge.session.trace).foldlM (acceptInto replay) base =
          some state.merge.session.world.working.copies.main := by
  refine ⟨?_, ?_, ?_⟩
  · intro transaction w conflict w' h
    exact (restored_of_apply_conflict h).stack
  · intro transaction w w' h
    obtain ⟨last, hreplayed, -, -, hcopies, hframed⟩ := apply_none h
    exact ⟨last, hreplayed, hcopies, hframed.saved⟩
  · intro schema base caches rest rows state hbase h hpoint hraised
    obtain ⟨happlied, -⟩ := appliedAll_reachable h hpoint hraised
    refine ⟨happlied.foreignKeyCheck (foreignKeyCheck_of_valid hbase), happlied, ?_⟩
    intro replay hacts
    exact happlied.main hacts

/-- The table that a text inserts into, and whether it does so in control. -/
def insertOf : String → Option (String × Bool)
  | "INSERT INTO a VALUES (1)" => some ("a", false)
  | "INSERT INTO b VALUES (1)" => some ("b", false)
  | "INSERT INTO control.a VALUES (1)" => some ("a", true)
  | "INSERT INTO control.b VALUES (1)" => some ("b", true)
  | _ => none

def insertControlSql (statement : LoggedStatement) : Option String :=
  match statement.sqlText with
  | "INSERT INTO a VALUES (1)" => some "INSERT INTO control.a VALUES (1)"
  | "INSERT INTO b VALUES (1)" => some "INSERT INTO control.b VALUES (1)"
  | _ => none

def twoInsertsEngine : Engine (List String) Unit := insertEngine insertOf fun _ => none

def twoInsertsContext : ReplayContext Unit := insertContext insertControlSql

def quietOutside : Outside Unit where
  branchTransactionReplayIssue _ rest := (none, rest)
  reader := quietSurroundings.reader
  inputs rest := ([], rest)

def emptyBase : Database (List String) := ⟨[], ⟨0, [], []⟩⟩

/-- What a statement inserts into the tables of main. -/
def insertTables (statement : LoggedStatement) (tables : List String) : Option (List String) :=
  (insertReplay insertOf statement { emptyBase with tables := tables }).map (·.tables)

lemma insertControlSql_onControl {sql name : String} {statement : LoggedStatement}
    {onControl : Bool} (hsql : insertControlSql statement = some sql)
    (hname : insertOf sql = some (name, onControl)) : onControl = true := by
  unfold insertControlSql at hsql
  split at hsql
  · cases hsql
    cases hname
    rfl
  · cases hsql
    cases hname
    rfl
  · cases hsql

lemma twoInsertsEngine_done {sql : String} {copies after : Copies (List String) Unit}
    (h : twoInsertsEngine.execute sql copies = .done after) :
    ∃ name onControl, insertOf sql = some (name, onControl) ∧
      (onControl = false → ∃ database, insertNew name copies.main = some database ∧
        after = { copies with main := database }) ∧
      (onControl = true → after.main = copies.main) := by
  cases hsql : insertOf sql with
  | none =>
    simp only [twoInsertsEngine, insertEngine, hsql] at h
    cases h
  | some target =>
    obtain ⟨name, onControl⟩ := target
    refine ⟨name, onControl, rfl, ?_, ?_⟩
    · intro hmain
      subst hmain
      exact (insertEngine_main hsql).mp h
    · intro hcontrol
      subst hcontrol
      obtain ⟨database, -, rfl⟩ := (insertEngine_control hsql).mp h
      rfl

lemma insertNew_log {name : String} {database after : Database (List String)}
    (h : insertNew name database = some after) : after.log = database.log := by
  unfold insertNew at h
  split_ifs at h
  cases h
  rfl

lemma insertNew_tables {name : String} {database after : Database (List String)}
    (h : insertNew name database = some after) (log : MergeLog) :
    (insertNew name ⟨database.tables, log⟩).map (·.tables) = some after.tables := by
  unfold insertNew at h ⊢
  split_ifs at h ⊢ with hnew
  cases h
  rfl

lemma insertActs (statement : LoggedStatement) :
    ActsOnMain twoInsertsEngine twoInsertsContext insertTables statement where
  tables {copies after} h := by
    obtain ⟨name, onControl, hsql, hmain, hcontrol⟩ := twoInsertsEngine_done h
    cases onControl with
    | false =>
      obtain ⟨database, hinsert, rfl⟩ := hmain rfl
      simp only [insertTables, insertReplay, hsql, insertNew_tables hinsert]
    | true =>
      rw [hcontrol rfl]
      simp only [insertTables, insertReplay, hsql]
      rfl
  log {copies after} h := by
    obtain ⟨name, onControl, hsql, hmain, hcontrol⟩ := twoInsertsEngine_done h
    cases onControl with
    | false =>
      obtain ⟨database, hinsert, rfl⟩ := hmain rfl
      exact insertNew_log hinsert
    | true => rw [hcontrol rfl]
  control {caches sql caches' copies after} hsql h := by
    obtain ⟨name, onControl, hname, -, hcontrol⟩ := twoInsertsEngine_done h
    exact hcontrol (insertControlSql_onControl (congrArg Prod.fst hsql) hname)

def insertsMerged : State (World (List String) Unit Unit Unit) :=
  match run twoTables (surroundings twoInsertsEngine twoInsertsContext quietOutside) 8
      (initial (surroundings twoInsertsEngine twoInsertsContext quietOutside)
        (.new emptyBase () ()) twoInserts) with
  | .ok state => state
  | .error _ => initial (surroundings twoInsertsEngine twoInsertsContext quietOutside)
      (.new emptyBase () ()) ⟨[], []⟩

lemma insertsMerged_reachable :
    Reachable twoTables (surroundings twoInsertsEngine twoInsertsContext quietOutside)
      (.new emptyBase () ()) twoInserts insertsMerged := by
  have hruns : (run twoTables (surroundings twoInsertsEngine twoInsertsContext quietOutside) 8
      (initial (surroundings twoInsertsEngine twoInsertsContext quietOutside)
        (.new emptyBase () ()) twoInserts)).isOk := by
    decide +kernel
  unfold insertsMerged
  split
  · rename_i hrun
    exact reachable_run twoTables _ 8 .refl hrun
  · rename_i hrun
    rw [hrun] at hruns
    cases hruns

def insertWorking : Working (List String) Unit Unit := (World.new emptyBase () ()).working

def firstApplied : Working (List String) Unit Unit :=
  final (applyAcceptedTransaction twoInsertsEngine twoInsertsContext oursInsert insertWorking)

/-- The first insert is applied, and fails a second time. The merge ends with both inserts. -/
theorem two_inserts_applied :
    (∃ last, ReplayedOnBoth twoInsertsEngine twoInsertsContext oursInsert.statements
        insertWorking.copies last) ∧
      (∃ conflict w', applyAcceptedTransaction twoInsertsEngine twoInsertsContext oursInsert
        firstApplied = .ok (some conflict) w' ∧ w'.stack = firstApplied.stack) ∧
      insertsMerged.merge.session.world.working.copies.main.foreignKeyCheck twoInsertsEngine =
        .ok none ∧
      (applied insertsMerged.merge.session.trace).foldlM (acceptInto insertTables) emptyBase =
        some insertsMerged.merge.session.world.working.copies.main := by
  obtain ⟨hconflict, happlied, hruns⟩ := apply_all_or_nothing twoInsertsEngine twoInsertsContext
    quietOutside fun _ => none
  have hfirst : applyAcceptedTransaction twoInsertsEngine twoInsertsContext oursInsert insertWorking =
      .ok none firstApplied :=
    ok_of_returned (by decide +kernel)
  have hsecond : (returned (applyAcceptedTransaction twoInsertsEngine twoInsertsContext oursInsert
      firstApplied)).join.isSome := by
    decide +kernel
  obtain ⟨conflict, hreturned⟩ := Option.isSome_iff_exists.mp hsecond
  have hfails := ok_of_returned (Option.join_eq_some_iff.mp hreturned)
  obtain ⟨last, hreplayed, -, -⟩ := happlied _ _ _ hfirst
  have hvalid : RequireValidBase twoInsertsEngine (fun _ => none) emptyBase := rfl
  obtain ⟨hcheck, -, hmain⟩ := hruns twoTables emptyBase () () twoInserts insertsMerged hvalid
    insertsMerged_reachable (by decide +kernel) (by decide +kernel)
  have hacts := hmain insertTables fun _ _ statement _ => insertActs statement
  exact ⟨⟨last, hreplayed⟩, ⟨conflict, _, hfails, hconflict _ _ _ _ hfails⟩, hcheck, hacts⟩

end SqliteReconcile.WorkingMerge
