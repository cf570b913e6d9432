import SqliteReconcile.ScanStart
import SqliteReconcile.WorkingMerge

/-!
# The rolling scan

A scan replays the current transaction on control, and then advances both copies by the
opposite transactions, one call at a time. It equals the replay from scratch, and closing it
leaves no trace.
-/
namespace SqliteReconcile.RollingScan
open Models Programs Savepoints Connection AcceptedReplay RemainingExecution ReplayRestoration
  StatementExecution ScanStart

variable {D R C : Type}

/-- A call on an open scan. -/
inductive Call
  | checkNext (enabledKinds : Finset ConflictKind) (ours theirs : LoggedTransaction)
    (staticResult : ConflictCheckResult)
  | acceptNext (other : LoggedTransaction) (acceptedResult : ConflictCheckResult)

def Call.other (currentBranch : BranchName) : Call → LoggedTransaction
  | .checkNext _ ours theirs _ => otherOf currentBranch ours theirs
  | .acceptNext other _ => other

def Call.run (engine : Engine D R) (context : ReplayContext C)
    (currentTransaction : LoggedTransaction) (currentBranch : BranchName) :
    Call → Program D R C ConflictCheckResult
  | .checkNext enabledKinds ours theirs staticResult =>
    RemainingExecution.checkNext engine context enabledKinds currentTransaction currentBranch ours
      theirs staticResult
  | .acceptNext other acceptedResult =>
    RemainingExecution.acceptNext engine context currentTransaction other acceptedResult

/-- States of a scan that was started in `w`, with the opposite transactions it advanced by.
A start may fail, and a call may report a conflict or raise. -/
inductive Scanned (engine : Engine D R) (context : ReplayContext C)
    (current : LoggedTransaction) (branch : BranchName) (w : Working D R C) :
    Bool → List LoggedTransaction → Working D R C → Prop
  | started {w'} : start engine context current branch w = .ok .empty w' →
    Scanned engine context current branch w true [] w'
  | notStarted : Scanned engine context current branch w false []
      (final (start engine context current branch w))
  | advanced {isStarted others w' result w''} (call : Call) :
    Scanned engine context current branch w isStarted others w' →
    call.run engine context current branch w' = .ok result w'' → result.hasConflict = false →
    Scanned engine context current branch w isStarted (others ++ [call.other branch]) w''
  | conflict {isStarted others w' result w''} (call : Call) :
    Scanned engine context current branch w isStarted others w' →
    call.run engine context current branch w' = .ok result w'' → result.hasConflict = true →
    Scanned engine context current branch w isStarted others w''
  | raised {isStarted others w' e w''} (call : Call) :
    Scanned engine context current branch w isStarted others w' →
    call.run engine context current branch w' = .error e w'' →
    Scanned engine context current branch w isStarted others w''

variable {engine : Engine D R} {context : ReplayContext C}
  {current : LoggedTransaction} {branch : BranchName}

lemma conflicts_of_clean {result : ConflictCheckResult} (h : ¬ result.hasConflict = true) :
    result.conflicts = [] := by
  simp only [ConflictCheckResult.hasConflict, Bool.not_eq_true', Bool.not_eq_false,
    List.isEmpty_iff] at h
  simp [ConflictCheckResult.conflicts, h]

lemma ok_of_orRollBack {α : Type} {name : String} {body : Program D R C α} {a : α}
    {w w' : Working D R C} (h : orRollBack engine name body w = .ok a w') :
    body w = .ok a w' := by
  unfold orRollBack catching at h
  cases hbody : body w with
  | ok b w1 =>
    rw [hbody] at h
    exact h
  | error e w1 =>
    rw [hbody] at h
    obtain ⟨u, w2, -, hthrow⟩ := ok_of_bind h
    cases hthrow

lemma advanced_release {stem : String} {current other : LoggedTransaction} {orderLabel : String}
    {scope : ConflictScope} {check : Bool} {result : ConflictCheckResult}
    {w w1 w2 w3 : Working D R C} (hrestored : Restored (w.enter stem) w1)
    (hadvance : advanceTransactionOnMainAndControl engine context current other orderLabel scope
      check w1 = .ok result w2) (hresult : result.conflicts = [])
    (hrelease : release engine (w.nextName stem) w2 = .ok () w3) :
    ReplayedOnBoth engine context other.statements w.copies w3.copies := by
  obtain ⟨hreplayed, hframed, -, -⟩ := advanceTransaction_empty hadvance hresult
  have hcopies : w1.copies = (w.enter stem).copies := congrArg Stack.current hrestored.stack
  rw [hcopies] at hreplayed
  have hwithin : Within engine (w.enter stem) w2 :=
    .inl ⟨hframed.saved.trans hrestored.framed.saved, hframed.scanner.trans hrestored.scanner⟩
  rcases framed_release hwithin with ⟨e, herror⟩ | ⟨w4, hok, -, hsame, -⟩
  · rw [herror] at hrelease
    cases hrelease
  · rw [hok] at hrelease
    cases hrelease
    exact hsame ▸ hreplayed

lemma checkNext_clean {enabledKinds : Finset ConflictKind}
    {ours theirs : LoggedTransaction} {staticResult result : ConflictCheckResult}
    {w w' : Working D R C}
    (h : checkNext engine context enabledKinds current branch ours theirs staticResult w =
      .ok result w') (hclean : result.hasConflict = false) :
    ReplayedOnBoth engine context (otherOf branch ours theirs).statements w.copies w'.copies := by
  rw [checkNext, inSavepoint_apply] at h
  obtain ⟨checked, w1, hpair, h⟩ := ok_of_bind (ok_of_orRollBack h)
  have hrestored := (scoped_checkPair _ _ _ _ _ _).ok hpair
  by_cases hconflict : checked.hasConflict = true
  · rw [if_pos hconflict] at h
    obtain ⟨u, w2, -, h⟩ := ok_of_bind h
    cases h
    rw [hclean] at hconflict
    cases hconflict
  · rw [if_neg hconflict] at h
    obtain ⟨advance, w2, hadvance, h⟩ := ok_of_bind h
    by_cases hfails : advance.hasConflict = true
    · rw [if_pos hfails] at h
      obtain ⟨u, w3, -, h⟩ := ok_of_bind h
      cases h
      rw [hclean] at hfails
      cases hfails
    · rw [if_neg hfails] at h
      obtain ⟨u, w3, hrelease, h⟩ := ok_of_bind h
      cases h
      exact advanced_release hrestored hadvance (conflicts_of_clean hfails) hrelease

lemma acceptNext_clean {other : LoggedTransaction} {acceptedResult result : ConflictCheckResult}
    {w w' : Working D R C}
    (h : acceptNext engine context current other acceptedResult w = .ok result w')
    (hclean : result.hasConflict = false) :
    ReplayedOnBoth engine context other.statements w.copies w'.copies := by
  rw [acceptNext, inSavepoint_apply] at h
  obtain ⟨advance, w1, hadvance, h⟩ := ok_of_bind (ok_of_orRollBack h)
  cases hconflicts : advance.conflicts with
  | cons conflict rest =>
    rw [hconflicts] at h
    obtain ⟨u, w2, -, h⟩ := ok_of_bind h
    cases h
    rw [hasConflict_addConflicts] at hclean
    cases hclean
  | nil =>
    rw [hconflicts] at h
    obtain ⟨u, w2, hrelease, h⟩ := ok_of_bind h
    cases h
    exact advanced_release (.refl _) hadvance hconflicts hrelease

lemma Call.replayed {call : Call} {result : ConflictCheckResult} {w w' : Working D R C}
    (h : call.run engine context current branch w = .ok result w')
    (hclean : result.hasConflict = false) :
    ReplayedOnBoth engine context (call.other branch).statements w.copies w'.copies := by
  cases call with
  | checkNext enabledKinds ours theirs staticResult => exact checkNext_clean h hclean
  | acceptNext other acceptedResult => exact acceptNext_clean h hclean

lemma Call.cases (call : Call) (w : Working D R C) :
    (∃ result w', call.run engine context current branch w = .ok result w' ∧
      (result.hasConflict = true → Restored w w') ∧ Framed w w') ∨
    ∃ e w', call.run engine context current branch w = .error e w' ∧ Restores engine w w' := by
  cases call with
  | checkNext enabledKinds ours theirs staticResult =>
    exact orRollBack_cases (closesFrom_checkInside _ _ _ _ _ _ _)
  | acceptNext other acceptedResult => exact orRollBack_cases (closesFrom_acceptInside _ _ _ _)

lemma Call.conflict_restored {call : Call} {result : ConflictCheckResult} {w w' : Working D R C}
    (h : call.run engine context current branch w = .ok result w') :
    (result.hasConflict = true → Restored w w') ∧ Framed w w' := by
  rcases call.cases w with ⟨result', w'', hok, hcases⟩ | ⟨e, w'', herror, -⟩
  · rw [hok] at h
    cases h
    exact hcases
  · rw [herror] at h
    cases h

/-- A call that raises restores everything, unless a statement rolled everything back. -/
lemma Call.raised_restores {call : Call} {e : Exn} {w w' : Working D R C}
    (h : call.run engine context current branch w = .error e w') : Restores engine w w' := by
  rcases call.cases w with ⟨result', w'', hok, -⟩ | ⟨e', w'', herror, hrestores⟩
  · rw [hok] at h
    cases h
  · rw [herror] at h
    cases h
    exact hrestores

variable {text : LoggedStatement → Option String}
  {replay : LoggedStatement → Database D → Option (Database D)} {known : Set LoggedStatement}

/-- The probe tables of `w` have the same rows in `w'`. -/
def KeepsTables (w w' : Working D R C) : Prop :=
  ∀ name rows, w.copies.temp name = some rows → w'.copies.temp name = some rows

instance : Std.Refl (KeepsTables (D := D) (R := R) (C := C)) := ⟨fun _ _ _ h => h⟩

instance : IsTrans (Working D R C) KeepsTables where
  trans _ _ _ h h' name rows hrows := h' name rows (h name rows hrows)

lemma keepsTables_of_temp {w w' : Working D R C} (h : w'.copies.temp = w.copies.temp) :
    KeepsTables w w' := by
  intro name rows hrows
  rwa [h]

lemma keepsTables_createProbeResultTable (name probe : String) :
    Moves KeepsTables (createProbeResultTable engine name probe : Program D R C Unit) := by
  intro w
  unfold createProbeResultTable
  cases htable : w.copies.temp name with
  | some rows => exact keepsTables_of_temp rfl
  | none =>
    cases engine.query probe w.copies with
    | error error => exact keepsTables_of_temp rfl
    | ok rows =>
      intro other otherRows hother
      have hne : other ≠ name := by
        intro heq
        rw [heq, htable] at hother
        cases hother
      change Function.update w.copies.temp name (some rows) other = some otherRows
      rw [Function.update_of_ne hne]
      exact hother

lemma keepsTables_saveWriteProbe (statement : LoggedStatement) (index : ℕ) :
    Moves KeepsTables (saveWriteProbe engine context statement index : Program D R C _) := by
  have hlookup : ∀ {α : Type} (f : C → α × C), Moves KeepsTables (lookup f : Program D R C α) :=
    fun f w => keepsTables_of_temp rfl
  have hsql : Moves KeepsTables (statementWriteProbeSql context statement true :
      Program D R C _) := by
    apply (hlookup _).bind
    intro probe
    cases probe with
    | none => exact moves_pure _
    | some probe => exact hlookup _
  have hcreate : ∀ name probe, Moves KeepsTables (tryCreateProbeResultTable engine name probe :
      Program D R C _) := by
    intro name probe
    apply Moves.catching
    · exact (keepsTables_createProbeResultTable _ _).bind fun _ => moves_pure _
    · intro e
      cases e with
      | sqlite error => exact moves_pure _
      | other message => exact moves_throw _
  have htable : Moves KeepsTables (statementWriteProbeTable engine context statement true :
      Program D R C _) := by
    apply hsql.bind
    intro probe
    cases probe with
    | none => exact moves_pure _
    | some probe =>
      have hname : Moves KeepsTables (tempProbeResultTableName : Program D R C String) :=
        fun w => keepsTables_of_temp rfl
      apply hname.bind
      intro name
      exact (hcreate _ _).bind fun _ => moves_pure _
  unfold saveWriteProbe
  split_ifs
  · apply htable.bind
    intro table
    cases table with
    | none => exact moves_pure _
    | some table => exact fun w => keepsTables_of_temp rfl
  · exact moves_pure _

/-- What a start did: the current transaction was replayed on control, main is unchanged, and
every probe table that was stored on the way is still there. -/
lemma startStatements_none (hsame : SameExecution engine context text replay known)
    {currentTransaction : LoggedTransaction} {currentBranch : BranchName}
    {statements : List LoggedStatement} (hknown : ∀ statement ∈ statements, statement ∈ known)
    {n : ℕ} {w w' : Working D R C}
    (h : startControlWithCurrentWriteProbes engine context currentTransaction currentBranch
      (statements.zipIdx n) w = .ok none w') :
    w'.copies.main = w.copies.main ∧
      replayStatements replay statements w.copies.control = some w'.copies.control ∧
      KeepsTables w w' := by
  induction statements generalizing n w with
  | nil =>
    cases h
    exact ⟨rfl, rfl, fun _ _ hrows => hrows⟩
  | cons statement rest ih =>
    rw [List.zipIdx_cons] at h
    obtain ⟨u, w1, hprobe, h⟩ := ok_of_bind h
    obtain ⟨failure, w2, hstep, h⟩ := ok_of_bind h
    cases failure with
    | some failure => cases h
    | none =>
      obtain ⟨u', w1', hprobe', hmain1, hcontrol1⟩ :=
        @harmless_saveWriteProbe D R C engine context statement n w
      rw [hprobe] at hprobe'
      cases hprobe'
      have htables1 := (keepsTables_saveWriteProbe statement n).ok hprobe
      obtain ⟨sql, caches, after, hsql, hdone, rfl, -⟩ := executeStatementOnControl_none hstep
      have hstatement := hknown statement List.mem_cons_self
      have htext : text statement = some sql := by
        rw [← hsame.controlSql statement hstatement w1.caches, hsql]
      obtain ⟨database, hreplay, rfl⟩ :=
        (hsame.onControl statement hstatement sql htext _ _).mp hdone
      obtain ⟨hmain, hcontrol, htables⟩ :=
        ih (fun s hs => hknown s (List.mem_cons_of_mem _ hs)) h
      refine ⟨hmain.trans hmain1, ?_, ?_⟩
      · rw [hcontrol1] at hreplay
        rw [replayStatements, hreplay]
        exact hcontrol
      · intro name rows hrows
        exact htables name rows (htables1 name rows hrows)

lemma start_empty (hsame : SameExecution engine context text replay known)
    (hknown : ∀ statement ∈ current.statements, statement ∈ known) {w w' : Working D R C}
    (h : start engine context current branch w = .ok .empty w') :
    w'.copies.main = w.copies.main ∧
      replayStatements replay current.statements w.copies.control = some w'.copies.control := by
  rw [start_apply] at h
  obtain ⟨failure, w1, hloop, hend⟩ := ok_of_bind h
  cases failure with
  | some failure => cases hend
  | none =>
    cases hend
    obtain ⟨hmain, hcontrol, -⟩ := startStatements_none hsame hknown hloop
    exact ⟨hmain, hcontrol⟩

lemma Scanned.scanOpen {isStarted : Bool} {others : List LoggedTransaction}
    {w scanned : Working D R C}
    (h : Scanned engine context current branch w isStarted others scanned) :
    ScanOpen engine w.copies w.saved scanned := by
  induction h with
  | started hstart =>
    have hopen : ScanOpen engine w.copies w.saved
        (final (start engine context current branch w)) := scanOpen_start current branch w
    rw [hstart] at hopen
    exact hopen
  | notStarted => exact scanOpen_start current branch w
  | advanced call _ hcall _ ih =>
    exact ih.keeps (keepsScan_of_within (.inl (call.conflict_restored hcall).2))
  | conflict call _ hcall _ ih =>
    exact ih.keeps (keepsScan_of_within (.inl (call.conflict_restored hcall).2))
  | raised call _ hcall ih =>
    exact ih.keeps (keepsScan_of_within (call.raised_restores hcall).within)

lemma Scanned.replayed (hsame : SameExecution engine context text replay known)
    (hrolls : ¬ RollsBack engine)
    (hcurrent : ∀ statement ∈ current.statements, statement ∈ known)
    {isStarted : Bool} {others : List LoggedTransaction} {w scanned : Working D R C}
    (h : Scanned engine context current branch w isStarted others scanned)
    (hstarted : isStarted = true)
    (hothers : ∀ other ∈ others, ∀ statement ∈ other.statements, statement ∈ known) :
    replayStatements replay (others.flatMap (·.statements)) w.copies.main =
        some scanned.copies.main ∧
      replayStatements replay (current.statements ++ others.flatMap (·.statements))
        w.copies.control = some scanned.copies.control := by
  induction h with
  | started hstart =>
    obtain ⟨hmain, hcontrol⟩ := start_empty hsame hcurrent hstart
    refine ⟨congrArg some hmain.symm, ?_⟩
    rw [List.flatMap_nil, List.append_nil]
    exact hcontrol
  | notStarted => cases hstarted
  | @advanced isStarted others w' result w'' call _ hcall hclean ih =>
    obtain ⟨hmain, hcontrol⟩ := ih hstarted fun o ho => hothers o (List.mem_append_left _ ho)
    obtain ⟨hmain', hcontrol', -, -⟩ := hsame.replayedOnBoth (call.replayed hcall hclean)
      (hothers _ (List.mem_append_right _ List.mem_cons_self))
    have hsplit : (others ++ [call.other branch]).flatMap (·.statements) =
        others.flatMap (·.statements) ++ (call.other branch).statements := by
      simp
    rw [hsplit, ← List.append_assoc, replayStatements_append, replayStatements_append, hmain,
      hcontrol]
    exact ⟨hmain', hcontrol'⟩
  | conflict call _ hcall hconflict ih =>
    have hrestored := (call.conflict_restored hcall).1 hconflict
    have hcopies := congrArg Stack.current hrestored.stack
    have hbefore := ih hstarted hothers
    simp only [Working.copies] at hbefore hcopies ⊢
    rwa [hcopies]
  | raised call _ hcall ih =>
    rcases call.raised_restores hcall with hrestored | hlost
    · have hcopies := congrArg Stack.current hrestored.stack
      have hbefore := ih hstarted hothers
      simp only [Working.copies] at hbefore hcopies ⊢
      rwa [hcopies]
    · exact absurd hlost.rollsBack hrolls

/-- Closing a scan never raises, and restores both copies and the savepoints. -/
lemma close_scanned (hrolls : ¬ RollsBack engine) {w scanned : Working D R C}
    (h : ScanOpen engine w.copies w.saved scanned) :
    ∃ w', close engine scanned = .ok () w' ∧ w'.stack = w.stack ∧
      w'.scanner.savepoint = none := by
  obtain ⟨name, hname, hsaved⟩ := h
  rcases hsaved with htop | ⟨hlost, -⟩
  · have hroll := @rollbackSavepoint_top D R C engine _ _ _ _ htop
    have hfields : (scannerFields : Program D R C ScannerFields) scanned =
        .ok scanned.scanner scanned := rfl
    have hclose : close engine scanned = .ok ()
        { scanned with
          stack := ⟨w.copies, w.saved⟩
          scanner := { scanned.scanner with savepoint := none } } := by
      unfold close
      rw [bind_ok hfields]
      simp only [hname]
      rw [bind_ok hroll]
      rfl
    exact ⟨_, hclose, rfl, rfl⟩
  · exact absurd hlost hrolls

/-- A scan equals replay from scratch and leaves no trace. Let statements be executed
deterministically and in the same way on both copies. After a start and calls, of which those
in `others` reported no conflict, main has the opposite transactions and control the current
transaction and then the opposite ones; a call that reports a conflict or raises leaves both
copies and the savepoints as they were; the probe tables keep their rows from the moment they
are stored; and closing restores the state before the start. -/
theorem scan_replays (hsame : SameExecution engine context text replay known)
    (hrolls : ¬ RollsBack engine)
    (hcurrent : ∀ statement ∈ current.statements, statement ∈ known)
    {isStarted : Bool} {others : List LoggedTransaction} {w scanned : Working D R C}
    (h : Scanned engine context current branch w isStarted others scanned)
    (hothers : ∀ other ∈ others, ∀ statement ∈ other.statements, statement ∈ known) :
    (isStarted = true →
      replayStatements replay (others.flatMap (·.statements)) w.copies.main =
          some scanned.copies.main ∧
        replayStatements replay (current.statements ++ others.flatMap (·.statements))
          w.copies.control = some scanned.copies.control) ∧
    (∀ (call : Call) result w', call.run engine context current branch scanned = .ok result w' →
      result.hasConflict = true → w'.stack = scanned.stack) ∧
    (∀ (call : Call) e w', call.run engine context current branch scanned = .error e w' →
      w'.stack = scanned.stack) ∧
    (∀ (call : Call), (∀ statement ∈ (call.other branch).statements, statement ∈ known) →
      (final (call.run engine context current branch scanned)).copies.temp =
          scanned.copies.temp ∧
        (final (call.run engine context current branch scanned)).scanner = scanned.scanner) ∧
    (∀ (statements : List LoggedStatement) n w1 w2, (∀ statement ∈ statements, statement ∈ known) →
      startControlWithCurrentWriteProbes engine context current branch (statements.zipIdx n) w1 =
        .ok none w2 → KeepsTables w1 w2) ∧
    ∃ w', close engine scanned = .ok () w' ∧ w'.stack = w.stack ∧
      w'.scanner.savepoint = none := by
  have hraised : ∀ {call : Call} {e w'},
      call.run engine context current branch scanned = .error e w' → Restored scanned w' := by
    intro call e w' hcall
    rcases call.raised_restores hcall with hrestored | hlost
    · exact hrestored
    · exact absurd hlost.rollsBack hrolls
  refine ⟨?_, ?_, ?_, ?_, ?_, close_scanned hrolls h.scanOpen⟩
  · intro hstarted
    exact h.replayed hsame hrolls hcurrent hstarted hothers
  · intro call result w' hcall hconflict
    exact ((call.conflict_restored hcall).1 hconflict).stack
  · intro call e w' hcall
    exact (hraised hcall).stack
  · intro call hother
    cases hcall : call.run engine context current branch scanned with
    | error e w' =>
      have hrestored := hraised hcall
      exact ⟨congrArg (·.current.temp) hrestored.stack, hrestored.scanner⟩
    | ok result w' =>
      obtain ⟨hconflict, hframed⟩ := call.conflict_restored hcall
      refine ⟨?_, hframed.scanner⟩
      cases hresult : result.hasConflict with
      | true => exact congrArg (·.current.temp) (hconflict hresult).stack
      | false =>
        obtain ⟨-, -, htemp, -⟩ := hsame.replayedOnBoth (call.replayed hcall hresult) hother
        exact htemp
  · intro statements n w1 w2 hknown hloop
    exact (startStatements_none hsame hknown hloop).2.2

section

open MergeConservation WorkingMerge

def insertScan : Working (List String) Unit Unit :=
  final (start twoInsertsEngine twoInsertsContext oursInsert .ours insertWorking)

def acceptOther : Call := .acceptNext theirsInsert .empty

def insertScanned : Working (List String) Unit Unit :=
  final (acceptOther.run twoInsertsEngine twoInsertsContext oursInsert .ours insertScan)

def insertScannedTwice : Working (List String) Unit Unit :=
  final (acceptOther.run twoInsertsEngine twoInsertsContext oursInsert .ours insertScanned)

lemma insertScannedTwice_scanned :
    Scanned twoInsertsEngine twoInsertsContext oursInsert .ours insertWorking true
      [theirsInsert] insertScannedTwice := by
  have hstart : start twoInsertsEngine twoInsertsContext oursInsert .ours insertWorking =
      .ok .empty insertScan :=
    ok_of_returned (by decide +kernel)
  have haccept : acceptOther.run twoInsertsEngine twoInsertsContext oursInsert .ours insertScan =
      .ok .empty insertScanned :=
    ok_of_returned (by decide +kernel)
  have hfails : (returned (acceptOther.run twoInsertsEngine twoInsertsContext oursInsert .ours
      insertScanned)).any (·.hasConflict) = true := by
    decide +kernel
  obtain ⟨result, hreturned, hconflict⟩ := (Option.any_eq_true _ _).mp hfails
  exact .conflict acceptOther (.advanced acceptOther (.started hstart) haccept rfl)
    (ok_of_returned hreturned) hconflict

lemma twoInserts_sameExecution :
    SameExecution twoInsertsEngine twoInsertsContext insertControlSql (insertReplay insertOf)
      {statement | statement ∈ oursInsert.statements ++ theirsInsert.statements} := by
  apply insertEngine_sameExecution
  intro statement hstatement
  have hcases : statement ∈ oursInsert.statements ∨ statement ∈ theirsInsert.statements :=
    List.mem_append.mp hstatement
  rcases hcases with hours | htheirs
  · cases List.mem_singleton.mp hours
    exact ⟨"a", _, rfl, rfl, rfl⟩
  · cases List.mem_singleton.mp htheirs
    exact ⟨"b", _, rfl, rfl, rfl⟩

/-- Main has the other insert alone, control has both, and closing restores the empty base. -/
theorem insert_scan_replays :
    insertScannedTwice.copies.main.tables = ["b"] ∧
      insertScannedTwice.copies.control.tables = ["a", "b"] ∧
      ∃ w', close twoInsertsEngine insertScannedTwice = .ok () w' ∧
        w'.stack = insertWorking.stack ∧ w'.scanner.savepoint = none := by
  have hrolls : ¬ RollsBack twoInsertsEngine := insertEngine_not_rollsBack
  obtain ⟨hreplayed, -, -, -, -, hclose⟩ := scan_replays twoInserts_sameExecution hrolls
    (fun s hs => List.mem_append_left _ hs) insertScannedTwice_scanned (by
      intro other hother statement hstatement
      cases List.mem_singleton.mp hother
      exact List.mem_append_right _ hstatement)
  obtain ⟨hmain, hcontrol⟩ := hreplayed rfl
  have hmainTables := congrArg (Option.map (·.tables)) hmain
  have hcontrolTables := congrArg (Option.map (·.tables)) hcontrol
  exact ⟨(Option.some.inj hmainTables).symm, (Option.some.inj hcontrolTables).symm, hclose⟩

end

end SqliteReconcile.RollingScan
