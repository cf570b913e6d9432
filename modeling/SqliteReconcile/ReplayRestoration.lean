import SqliteReconcile.RemainingExecution

/-!
# What the replay programs leave behind

No program closes a savepoint that it did not open. The strict probes and the scanner's
probes undo everything; a call that reports a conflict or raises does so too.
-/
namespace SqliteReconcile.ReplayRestoration
open Models StaticAnalysis Programs Savepoints Connection AcceptedReplay RemainingExecution

variable {D R C : Type} {engine : Engine D R} {context : ReplayContext C}

lemma moves_lookup {α : Type} (f : C → α × C) :
    Moves (Within engine) (lookup f : Program D R C α) := fun _ => framed_of_saved rfl rfl

lemma moves_executeSqlForReplay (statement : LoggedStatement) (sqlText : String)
    (scope : ConflictScope) (orderLabel : String) (schema : Option String) (deferred : Bool) :
    Moves (Within engine) (executeSqlForReplay engine statement sqlText scope orderLabel schema
      deferred : Program D R C _) := by
  apply (moves_execute sqlText).bind
  intro error
  cases error with
  | some error => exact moves_pure _
  | none =>
    cases deferred with
    | false => exact moves_pure _
    | true => exact (moves_foreignKeyCheckError schema).bind fun _ => moves_pure _

lemma moves_executeStatementOnMain (statement : LoggedStatement) (scope : ConflictScope)
    (orderLabel : String) (deferred : Bool) :
    Moves (Within engine)
      (executeStatementOnMain engine statement scope orderLabel deferred : Program D R C _) :=
  moves_executeSqlForReplay _ _ _ _ _ _

lemma moves_executeStatementOnControl (statement : LoggedStatement) (scope : ConflictScope)
    (orderLabel : String) (deferred : Bool) :
    Moves (Within engine)
      (executeStatementOnControl engine context statement scope orderLabel deferred) := by
  apply (moves_lookup _).bind
  intro sql
  cases sql with
  | none => exact moves_pure _
  | some sql => exact (moves_executeSqlForReplay _ _ _ _ _ _).bind fun _ => moves_pure _

lemma scoped_savepointStatementFailure (statement : LoggedStatement) (useControl : Bool)
    (scope : ConflictScope) (orderLabel : String) :
    Scoped engine
      (savepointStatementFailure engine context statement useControl scope orderLabel) := by
  apply scoped_discarding
  cases useControl with
  | true => exact moves_executeStatementOnControl _ _ _ _
  | false => exact moves_executeStatementOnMain _ _ _ _

lemma scoped_lookup {α : Type} (f : C → α × C) :
    Scoped engine (lookup f : Program D R C α) where
  ok h := by
    cases h
    exact ⟨rfl, rfl⟩
  error h := by cases h

lemma scoped_strictStatement (statement : LoggedStatement) :
    Scoped engine (strictStatement context statement : Program D R C _) := by
  unfold strictStatement
  split_ifs with hreviewable
  · apply (scoped_lookup _).bind
    intro strict
    cases strict with
    | ok strict => exact scoped_pure _
    | error message => exact scoped_throw _
  · exact scoped_pure _

lemma scoped_strictConstraintResolutionFailure (currentTransaction : LoggedTransaction)
    (statement : LoggedStatement) :
    Scoped engine
      (strictConstraintResolutionFailure engine context currentTransaction statement) := by
  apply (scoped_strictStatement statement).bind
  intro strict
  cases strict with
  | none => exact scoped_pure _
  | some strict =>
    apply (scoped_savepointStatementFailure _ _ _ _).bind
    intro beforeFailure
    apply (scoped_savepointStatementFailure _ _ _ _).bind
    intro afterFailure
    split_ifs
    · exact scoped_pure _
    · exact scoped_pure _

lemma scoped_checkedStrictFailure (check : Bool) (currentTransaction : LoggedTransaction)
    (statement : LoggedStatement) :
    Scoped engine (checkedStrictFailure engine context check currentTransaction statement) := by
  unfold checkedStrictFailure
  split_ifs
  · exact scoped_strictConstraintResolutionFailure _ _
  · exact scoped_pure _

lemma moves_advanceStatements (currentTransaction transaction : LoggedTransaction)
    (orderLabel : String) (scope : ConflictScope) (check : Bool)
    (statements : List LoggedStatement) :
    Moves (Within engine) (advanceStatements engine context currentTransaction transaction
      orderLabel scope check statements) := by
  induction statements with
  | nil => exact moves_pure _
  | cons statement rest ih =>
    apply (scoped_checkedStrictFailure _ _ _).moves.bind
    intro strictFailure
    apply (moves_executeStatementOnControl _ _ _ _).bind
    intro failure
    cases failure with
    | some failure => exact moves_pure _
    | none =>
      apply (moves_executeStatementOnMain _ _ _ _).bind
      intro failure
      cases failure with
      | some failure => exact moves_pure _
      | none =>
        cases strictFailure with
        | some failure => exact moves_pure _
        | none => exact ih

lemma moves_lastStatement (transaction : LoggedTransaction) :
    Moves (Within engine) (lastStatement transaction : Program D R C _) := by
  unfold lastStatement
  cases transaction.statements.getLast? with
  | some statement => exact moves_pure _
  | none => exact moves_throw _

lemma moves_foreignKeyFailure (schema : Option String) (transaction : LoggedTransaction)
    (scope : ConflictScope) (orderLabel : String) :
    Moves (Within engine)
      (foreignKeyFailure engine schema transaction scope orderLabel : Program D R C _) := by
  apply (moves_foreignKeyCheckError schema).bind
  intro message
  cases message with
  | none => exact moves_pure _
  | some message => exact (moves_lastStatement transaction).bind fun _ => moves_pure _

lemma moves_advanceTransaction (currentTransaction transaction : LoggedTransaction)
    (orderLabel : String) (scope : ConflictScope) (check : Bool) :
    Moves (Within engine) (advanceTransactionOnMainAndControl engine context currentTransaction
      transaction orderLabel scope check) := by
  apply (moves_advanceStatements _ _ _ _ _ _).bind
  intro conflict
  cases conflict with
  | some conflict => exact moves_pure _
  | none =>
    have hfailures : Moves (Within engine)
        (transactionForeignKeyFailures engine context transaction scope orderLabel) := by
      apply (moves_foreignKeyFailure _ _ _ _).bind
      intro mainFailures
      exact (moves_foreignKeyFailure _ _ _ _).bind fun _ => moves_pure _
    apply hfailures.bind
    intro failures
    cases failures with
    | nil => exact moves_pure _
    | cons failure rest => exact moves_pure _

lemma moves_insertRows (transactionId : ℕ) (statements : List LoggedStatement) :
    Moves (Within engine) (insertRows engine transactionId statements : Program D R C _) := by
  induction statements with
  | nil => exact moves_pure _
  | cons statement rest ih => exact (moves_insertLog _).bind fun _ => ih

lemma moves_appendReplayedLog (statements : List LoggedStatement) :
    Moves (Within engine) (appendReplayedLog engine statements : Program D R C _) := by
  apply (moves_insertLog _).bind
  intro _
  have hid : Moves (Within engine) (lastRowId : Program D R C ℕ) := fun _ => framed_of_saved rfl rfl
  exact hid.bind fun _ => moves_insertRows _ _

lemma closesFrom_applyInside {w : Working D R C} (stem : String)
    (transaction : LoggedTransaction) :
    ClosesFrom engine w stem (·.isSome)
      (applyInside engine context (w.nextName stem) transaction) := by
  apply ClosesFrom.bind (moves_advanceTransaction _ _ _ _ _)
  intro result
  cases result.conflicts with
  | cons conflict rest => exact closesFrom_rollback rfl
  | nil =>
    apply ClosesFrom.bind (moves_appendReplayedLog _)
    intro _
    exact closesFrom_release (by simp)

/-- A reported conflict leaves both copies, the log and the savepoints as they were. -/
lemma restored_of_apply_conflict {transaction : LoggedTransaction} {w w' : Working D R C}
    {conflict : StatementConflict}
    (h : applyAcceptedTransaction engine context transaction w = .ok (some conflict) w') :
    Restored w w' := by
  rw [applyAcceptedTransaction, inSavepoint_apply] at h
  have hinside : Closes engine w _ (·.isSome) (applyInside engine context _ transaction
      (w.enter "sqlite_merge_accept_")) :=
    (closesFrom_applyInside _ transaction).enter
  rcases ok_of_exceptSqlite h with hbody | ⟨error, w'', hbody, hhandler⟩
  · rw [hbody] at hinside
    cases hinside with
    | undone _ hrestored => exact hrestored
    | released hnot _ => exact absurd rfl hnot
  · rw [hbody] at hinside
    cases hinside with
    | raised hwithin =>
      have hclose : Closes engine w _ (fun _ => True)
          (EStateM.Result.ok (some conflict) w' : EStateM.Result _ _ (Option StatementConflict)) :=
        hhandler ▸ closesFrom_rollback trivial w'' hwithin
      cases hclose with
      | undone _ hrestored => exact hrestored
      | released hnot _ => exact absurd trivial hnot

/-- SQLite executed each statement on control and then on main, with the control SQL that
the context gave for it. -/
inductive ReplayedOnBoth (engine : Engine D R) (context : ReplayContext C) :
    List LoggedStatement → Copies D R → Copies D R → Prop
  | nil {copies} : ReplayedOnBoth engine context [] copies copies
  | cons {statement rest copies onControl onBoth last caches caches' sql} :
    context.controlSqlFor statement caches = (some sql, caches') →
    engine.execute sql copies = .done onControl →
    engine.execute statement.sqlText onControl = .done onBoth →
    ReplayedOnBoth engine context rest onBoth last →
    ReplayedOnBoth engine context (statement :: rest) copies last

lemma lookup_ok {α : Type} {f : C → α × C} {a : α} {w w' : Working D R C}
    (h : lookup f w = .ok a w') :
    ∃ caches, f w.caches = (a, caches) ∧ w' = { w with caches := caches } := by
  unfold lookup at h
  cases hf : f w.caches with
  | mk answer caches =>
    rw [hf] at h
    cases h
    exact ⟨caches, rfl, rfl⟩

lemma execute_none {sql : String} {w w' : Working D R C}
    (h : execute engine sql w = .ok none w') :
    ∃ after, engine.execute sql w.copies = .done after ∧ w' = w.withCopies after := by
  unfold execute at h
  cases hanswer : engine.execute sql w.copies with
  | done after =>
    rw [hanswer] at h
    cases h
    exact ⟨after, rfl, rfl⟩
  | fails error after =>
    rw [hanswer] at h
    cases h
  | refuses message =>
    rw [hanswer] at h
    cases h
  | rollsBack error =>
    rw [hanswer] at h
    cases hlast : w.saved.getLast? with
    | none =>
      simp only [hlast] at h
      cases h
    | some entry =>
      simp only [hlast] at h
      cases h

lemma foreignKeyCheckError_ok {schema : Option String} {w w' : Working D R C}
    {message : Option String} (h : foreignKeyCheckError engine schema w = .ok message w') :
    w' = w ∧ (message = none → (databaseOf w schema).foreignKeyCheck engine = .ok none) := by
  unfold foreignKeyCheckError at h
  cases hcheck : (databaseOf w schema).foreignKeyCheck engine with
  | error error =>
    rw [hcheck] at h
    cases h
  | ok row =>
    rw [hcheck] at h
    cases row with
    | none =>
      cases h
      exact ⟨rfl, fun _ => rfl⟩
    | some row =>
      cases h
      exact ⟨rfl, nofun⟩

lemma executeSqlForReplay_none {statement : LoggedStatement} {sql orderLabel : String}
    {scope : ConflictScope} {schema : Option String} {deferred : Bool} {w w' : Working D R C}
    (h : executeSqlForReplay engine statement sql scope orderLabel schema deferred w =
      .ok none w') :
    ∃ after, engine.execute sql w.copies = .done after ∧ w' = w.withCopies after ∧
      (deferred → (databaseOf w' schema).foreignKeyCheck engine = .ok none) := by
  obtain ⟨error, w1, hexecute, hrest⟩ := ok_of_bind h
  cases error with
  | some error => cases hrest
  | none =>
    obtain ⟨after, hdone, hw1⟩ := execute_none hexecute
    cases deferred with
    | false =>
      cases hrest
      exact ⟨after, hdone, hw1, by simp⟩
    | true =>
      obtain ⟨message, w2, hcheck, hend⟩ := ok_of_bind hrest
      obtain ⟨hsame, hnone⟩ := foreignKeyCheckError_ok hcheck
      cases message with
      | some message => cases hend
      | none =>
        cases hend
        subst hsame
        exact ⟨after, hdone, hw1, fun _ => hnone rfl⟩

lemma executeStatementOnControl_none {statement : LoggedStatement} {scope : ConflictScope}
    {orderLabel : String} {deferred : Bool} {w w' : Working D R C}
    (h : executeStatementOnControl engine context statement scope orderLabel deferred w =
      .ok none w') :
    ∃ sql caches after, context.controlSqlFor statement w.caches = (some sql, caches) ∧
      engine.execute sql w.copies = .done after ∧
      w' = { w.withCopies after with caches := caches } ∧
      (deferred → (databaseOf w' context.controlSchema).foreignKeyCheck engine = .ok none) := by
  obtain ⟨sql, w1, hlookup, hrest⟩ := ok_of_bind h
  cases sql with
  | none => cases hrest
  | some sql =>
    obtain ⟨failure, w2, hexecute, hend⟩ := ok_of_bind hrest
    cases failure with
    | some failure => cases hend
    | none =>
      cases hend
      obtain ⟨after, hdone, hw2, hcheck⟩ := executeSqlForReplay_none hexecute
      obtain ⟨caches, hsql, hw1⟩ := lookup_ok hlookup
      subst hw1
      exact ⟨sql, caches, after, hsql, hdone, hw2, hcheck⟩

lemma advanceStatements_none {currentTransaction transaction : LoggedTransaction}
    {orderLabel : String} {scope : ConflictScope} {check : Bool}
    {statements : List LoggedStatement} {w w' : Working D R C}
    (h : advanceStatements engine context currentTransaction transaction orderLabel scope check
      statements w = .ok none w') :
    ReplayedOnBoth engine context statements w.copies w'.copies ∧ Framed w w' := by
  induction statements generalizing w with
  | nil =>
    cases h
    exact ⟨.nil, rfl, rfl⟩
  | cons statement rest ih =>
    obtain ⟨strictFailure, w1, hstrict, h⟩ := ok_of_bind h
    have hrestored := (scoped_checkedStrictFailure _ _ _).ok hstrict
    obtain ⟨failure, w2, hcontrol, h⟩ := ok_of_bind h
    cases failure with
    | some failure => cases h
    | none =>
      obtain ⟨sql, caches, onControl, hsql, hdoneControl, rfl, -⟩ :=
        executeStatementOnControl_none hcontrol
      obtain ⟨failure, w3, hmain, h⟩ := ok_of_bind h
      cases failure with
      | some failure => cases h
      | none =>
        obtain ⟨onBoth, hdoneMain, rfl, -⟩ := executeSqlForReplay_none hmain
        cases strictFailure with
        | some failure => cases h
        | none =>
          obtain ⟨hrest, hframed⟩ := ih h
          have hcopies : w1.copies = w.copies := congrArg Stack.current hrestored.stack
          rw [hcopies] at hdoneControl
          exact ⟨.cons hsql hdoneControl hdoneMain hrest,
            hframed.saved.trans hrestored.framed.saved, hframed.scanner.trans hrestored.scanner⟩

lemma foreignKeyFailure_nil {schema : Option String} {transaction : LoggedTransaction}
    {scope : ConflictScope} {orderLabel : String} {w w' : Working D R C}
    (h : foreignKeyFailure engine schema transaction scope orderLabel w = .ok [] w') :
    w' = w ∧ (databaseOf w schema).foreignKeyCheck engine = .ok none := by
  obtain ⟨message, w1, hcheck, h⟩ := ok_of_bind h
  obtain ⟨rfl, hnone⟩ := foreignKeyCheckError_ok hcheck
  cases message with
  | none =>
    cases h
    exact ⟨rfl, hnone rfl⟩
  | some message =>
    obtain ⟨statement, w2, -, h⟩ := ok_of_bind h
    cases h

/-- A transaction that advances without conflict was executed on both copies, which then
have no foreign-key violation. -/
lemma advanceTransaction_empty {currentTransaction transaction : LoggedTransaction}
    {orderLabel : String} {scope : ConflictScope} {check : Bool} {result : ConflictCheckResult}
    {w w' : Working D R C}
    (h : advanceTransactionOnMainAndControl engine context currentTransaction transaction
      orderLabel scope check w = .ok result w') (hresult : result.conflicts = []) :
    ReplayedOnBoth engine context transaction.statements w.copies w'.copies ∧ Framed w w' ∧
      w'.copies.main.foreignKeyCheck engine = .ok none ∧
      (databaseOf w' context.controlSchema).foreignKeyCheck engine = .ok none := by
  obtain ⟨conflict, w1, hstatements, h⟩ := ok_of_bind h
  cases conflict with
  | some conflict =>
    cases h
    cases hresult
  | none =>
    obtain ⟨hreplayed, hframed⟩ := advanceStatements_none hstatements
    obtain ⟨failures, w2, hfailures, h⟩ := ok_of_bind h
    cases failures with
    | cons failure rest =>
      cases h
      cases hresult
    | nil =>
      cases h
      obtain ⟨mainFailures, w3, hmain, hfailures⟩ := ok_of_bind hfailures
      obtain ⟨controlFailures, w4, hcontrol, hfailures⟩ := ok_of_bind hfailures
      cases mainFailures with
      | cons failure rest => cases hfailures
      | nil =>
        cases controlFailures with
        | cons failure rest => cases hfailures
        | nil =>
          cases hfailures
          obtain ⟨rfl, hmainCheck⟩ := foreignKeyFailure_nil hmain
          obtain ⟨rfl, hcontrolCheck⟩ := foreignKeyFailure_nil hcontrol
          exact ⟨hreplayed, hframed, hmainCheck, hcontrolCheck⟩

lemma insertLog_ok {insert : MergeLog → MergeLog} {w w' : Working D R C}
    (h : insertLog engine insert w = .ok () w') :
    w' = w.withCopies (w.copies.withLog (insert w.copies.main.log)) := by
  unfold insertLog at h
  cases hlog : engine.logError w.copies with
  | some error =>
    rw [hlog] at h
    cases h
  | none =>
    rw [hlog] at h
    cases h
    rfl

lemma insertRows_ok {transactionId : ℕ} {statements : List LoggedStatement}
    {w w' : Working D R C} (h : insertRows engine transactionId statements w = .ok () w') :
    w' = w.withCopies (w.copies.withLog
      (w.copies.main.log.insertRows transactionId (statements.map logEntry))) := by
  induction statements generalizing w with
  | nil =>
    cases h
    simp only [MergeLog.insertRows, List.map_nil, List.append_nil]
    rfl
  | cons statement rest ih =>
    obtain ⟨u, w1, hinsert, h⟩ := ok_of_bind h
    have hw1 := insertLog_ok hinsert
    subst hw1
    rw [ih h]
    simp [MergeLog.insertRows, Copies.withLog, MergeLog.insertRow, Working.withCopies,
      Working.copies, Stack.set]

lemma appendReplayedLog_ok {statements : List LoggedStatement} {w w' : Working D R C}
    (h : appendReplayedLog engine statements w = .ok () w') :
    w' = w.withCopies
      (w.copies.withLog (w.copies.main.log.append (statements.map logEntry))) := by
  obtain ⟨u, w1, hinsert, h⟩ := ok_of_bind h
  have hw1 := insertLog_ok hinsert
  subst hw1
  obtain ⟨transactionId, w2, hid, h⟩ := ok_of_bind h
  cases hid
  rw [insertRows_ok h]
  rfl

lemma databaseOf_control {w : Working D R C} (h : context.controlSchema ≠ none) :
    databaseOf w context.controlSchema = w.copies.control := by
  cases hschema : context.controlSchema with
  | none => exact absurd hschema h
  | some schema => rfl

/-- A transaction applied without conflict was executed on both copies, which then have no
foreign-key violation, and appended to the log as one transaction. -/
lemma apply_none {transaction : LoggedTransaction} {w w' : Working D R C}
    (h : applyAcceptedTransaction engine context transaction w = .ok none w') :
    ∃ last, ReplayedOnBoth engine context transaction.statements w.copies last ∧
      last.main.foreignKeyCheck engine = .ok none ∧
      (context.controlSchema ≠ none → last.control.foreignKeyCheck engine = .ok none) ∧
      w'.copies = last.withLog (last.main.log.append (transaction.statements.map logEntry)) ∧
      Framed w w' := by
  rw [applyAcceptedTransaction, inSavepoint_apply] at h
  rcases ok_of_exceptSqlite h with hinside | ⟨error, w1, -, hhandler⟩
  · obtain ⟨result, w1, hadvance, hinside⟩ := ok_of_bind hinside
    cases hconflicts : result.conflicts with
    | cons conflict rest =>
      rw [hconflicts] at hinside
      obtain ⟨u, w2, -, hend⟩ := ok_of_bind hinside
      cases hend
    | nil =>
      rw [hconflicts] at hinside
      obtain ⟨hreplayed, hframed, hcheck, hcontrol⟩ :=
        advanceTransaction_empty hadvance hconflicts
      obtain ⟨u, w2, happend, hinside⟩ := ok_of_bind hinside
      have hw2 := appendReplayedLog_ok happend
      subst hw2
      obtain ⟨u', w3, hrelease, hend⟩ := ok_of_bind hinside
      cases hend
      have hwithin : Within engine (w.enter "sqlite_merge_accept_") (w1.withCopies
          (w1.copies.withLog (w1.copies.main.log.append (transaction.statements.map logEntry)))) :=
        .inl ⟨hframed.saved, hframed.scanner⟩
      rcases framed_release hwithin with ⟨e, herror⟩ | ⟨w4, hok, hframed', hcopies, -⟩
      · rw [herror] at hrelease
        cases hrelease
      · rw [hok] at hrelease
        cases hrelease
        refine ⟨w1.copies, hreplayed, hcheck, ?_, hcopies, hframed'⟩
        intro hattached
        rwa [databaseOf_control hattached] at hcontrol
  · obtain ⟨u, w2, -, hend⟩ := ok_of_bind hhandler
    cases hend

lemma moves_tryCreateProbeResultTable (name probe : String) :
    Moves (Within engine) (tryCreateProbeResultTable engine name probe : Program D R C _) := by
  apply moves_exceptSqlite
  · exact (moves_createProbeResultTable _ _).bind fun _ => moves_pure _
  · exact fun _ => moves_pure _

lemma scoped_statementWriteProbeSql (statement : LoggedStatement) (useControl : Bool) :
    Scoped engine
      (statementWriteProbeSql context statement useControl : Program D R C _) := by
  apply (scoped_lookup _).bind
  intro probe
  cases probe with
  | none => exact scoped_pure _
  | some probe =>
    cases useControl with
    | true => exact scoped_lookup _
    | false => exact scoped_pure _

lemma moves_statementWriteProbeTable (statement : LoggedStatement) (useControl : Bool) :
    Moves (Within engine)
      (statementWriteProbeTable engine context statement useControl : Program D R C _) := by
  apply (scoped_statementWriteProbeSql _ _).moves.bind
  intro probe
  cases probe with
  | none => exact moves_pure _
  | some probe =>
    apply (moves_drawName _).bind
    intro name
    exact (moves_tryCreateProbeResultTable _ _).bind fun _ => moves_pure _

lemma moves_tryQueryHasRow (sql : String) :
    Moves (Within engine) (tryQueryHasRow engine sql : Program D R C _) := by
  apply moves_exceptSqlite
  · exact (moves_query _).bind fun _ => moves_pure _
  · exact fun _ => moves_pure _

lemma moves_comparePairs (currentBranch : BranchName) (ours theirs : LoggedTransaction)
    (probeTables : List WriteProbeTable) (otherSelect : String) (pairs : List (ℕ × ℕ)) :
    Moves (Within engine) (comparePairs engine currentBranch ours theirs probeTables otherSelect
      pairs : Program D R C _) := by
  induction pairs with
  | nil => exact moves_pure _
  | cons pair rest ih =>
    unfold comparePairs
    cases probeTables.find? (·.statementIndex = currentIndex currentBranch pair) with
    | none => exact moves_pure _
    | some currentTable =>
      apply (moves_tryQueryHasRow _).bind
      intro overlap
      cases overlap with
      | none => exact moves_pure _
      | some overlap =>
        cases overlap with
        | false => exact ih
        | true =>
          cases ours.statements[pair.1]? with
          | none => exact moves_throw _
          | some first =>
            cases theirs.statements[pair.2]? with
            | none => exact moves_throw _
            | some second => exact moves_pure _

lemma moves_compareOtherStatement (currentBranch : BranchName) (ours theirs : LoggedTransaction)
    (tables : List WriteProbeTable) (statement : LoggedStatement) (pairs : List (ℕ × ℕ)) :
    Moves (Within engine)
      (compareOtherStatement engine context currentBranch ours theirs tables statement pairs) := by
  unfold compareOtherStatement
  dsimp only
  by_cases hpairs : pairs = []
  · rw [if_pos hpairs]
    exact moves_pure _
  rw [if_neg hpairs]
  by_cases htables : tables.filter
      (·.targetTable = requiredUpdatedTable statement.metadata) = []
  · rw [if_pos htables]
    exact moves_pure _
  · rw [if_neg htables]
    apply (scoped_statementWriteProbeSql _ _).moves.bind
    intro probe
    cases probe with
    | none => exact moves_pure _
    | some probe =>
      split_ifs with hmany
      · apply (moves_drawName _).bind
        intro otherTable
        apply Moves.withCleanup _ (moves_dropTable _)
        apply (moves_tryCreateProbeResultTable _ _).bind
        intro created
        cases created with
        | true => exact moves_comparePairs _ _ _ _ _ _
        | false => exact moves_pure _
      · exact moves_comparePairs _ _ _ _ _ _

lemma moves_overlapStatements (currentBranch : BranchName) (ours theirs : LoggedTransaction)
    (tables : List WriteProbeTable) (candidatePairs : List (ℕ × ℕ)) (orderLabel : String)
    (statements : List (LoggedStatement × ℕ)) :
    Moves (Within engine) (overlapStatements engine context currentBranch ours theirs tables
      candidatePairs orderLabel statements) := by
  induction statements with
  | nil => exact moves_pure _
  | cons statement rest ih =>
    apply (moves_compareOtherStatement _ _ _ _ _ _).bind
    intro found
    cases found with
    | some found => exact moves_pure _
    | none =>
      apply (moves_executeStatementOnMain _ _ _ _).bind
      intro failure
      cases failure with
      | some failure => exact moves_pure _
      | none => exact ih

lemma scoped_scannerFields :
    Scoped engine (scannerFields : Program D R C ScannerFields) where
  ok h := by
    cases h
    exact .refl _
  error h := by cases h

lemma scoped_checkWriteWrite (currentBranch : BranchName) (ours theirs : LoggedTransaction)
    (result : ConflictCheckResult) :
    Scoped engine (checkWriteWrite engine context currentBranch ours theirs result) := by
  unfold checkWriteWrite
  dsimp only
  split_ifs with hskip hpairs
  · exact scoped_pure _
  · exact scoped_pure _
  · apply scoped_scannerFields.bind
    intro fields
    cases fields.currentWriteProbeTables with
    | none => exact scoped_pure _
    | some tables =>
      dsimp only
      split_ifs with hknown
      · have hscoped : Scoped engine (findWriteWriteOverlap engine context currentBranch ours
            theirs tables (writeWriteCandidatePairs ours.metadata theirs.metadata)) :=
          scoped_discarding (moves_overlapStatements _ _ _ _ _ _ _)
        apply hscoped.bind
        intro overlap
        cases overlap with
        | overlaps first second => exact scoped_pure _
        | disjoint => exact scoped_pure _
        | notRefined => exact scoped_pure _
      · exact scoped_pure _

lemma moves_probeHasDuplicateTargetRows (metadata : StatementMetadata) (probe : String) :
    Moves (Within engine)
      (probeHasDuplicateTargetRows engine context metadata probe : Program D R C _) := by
  unfold probeHasDuplicateTargetRows
  dsimp only
  split_ifs
  · exact moves_pure _
  · exact (moves_query _).bind fun _ => moves_pure _

lemma moves_readerHasDuplicates (metadata : StatementMetadata) (probe controlProbe : String) :
    Moves (Within engine)
      (readerHasDuplicates engine context metadata probe controlProbe : Program D R C _) := by
  unfold readerHasDuplicates
  split_ifs
  · apply (moves_probeHasDuplicateTargetRows _ _).bind
    intro duplicated
    cases duplicated with
    | true => exact moves_pure _
    | false => exact moves_probeHasDuplicateTargetRows _ _
  · exact moves_pure _

lemma moves_compareReads (metadata : StatementMetadata) (probe : String) :
    Moves (Within engine)
      (compareReads engine context metadata probe : Program D R C _) := by
  apply (moves_lookup _).bind
  intro controlProbe
  cases controlProbe with
  | none => exact moves_pure _
  | some controlProbe =>
    apply (moves_readerHasDuplicates _ _ _).bind
    intro duplicated
    cases duplicated with
    | true => exact moves_pure _
    | false =>
      apply (moves_drawName _).bind
      intro beforeTable
      apply (moves_drawName _).bind
      intro afterTable
      apply Moves.withCleanup
      · apply moves_exceptSqlite
        · apply (moves_createProbeResultTable _ _).bind
          intro _
          apply (moves_createProbeResultTable _ _).bind
          intro _
          exact (moves_query _).bind fun _ => moves_pure _
        · exact fun _ => moves_pure _
      · exact (moves_dropTable _).bind fun _ => moves_dropTable _

lemma moves_readerAffected (indexes : List ℕ) (statement : LoggedStatement) (index : ℕ) :
    Moves (Within engine)
      (readerAffected engine context indexes statement index : Program D R C _) := by
  unfold readerAffected
  split_ifs
  · apply (moves_lookup _).bind
    intro probe
    cases probe with
    | ok sql => exact moves_compareReads _ _
    | noReadDependency => exact moves_pure _
    | notRefined reason => exact moves_pure _
  · exact moves_pure _

lemma moves_readStatements (indexes : List ℕ) (orderLabel : String)
    (statements : List (LoggedStatement × ℕ)) (affected : List ℕ) :
    Moves (Within engine)
      (readStatements engine context indexes orderLabel statements affected) := by
  induction statements generalizing affected with
  | nil => exact moves_pure _
  | cons statement rest ih =>
    apply (moves_readerAffected _ _ _).bind
    intro reads
    cases reads with
    | error reason => exact moves_pure _
    | ok reads =>
      apply (moves_executeStatementOnMain _ _ _ _).bind
      intro failure
      cases failure with
      | some failure => exact moves_pure _
      | none =>
        apply (moves_executeStatementOnControl _ _ _ _).bind
        intro failure
        cases failure with
        | some failure => exact moves_pure _
        | none => exact ih _

lemma scoped_checkWriteRead (currentTransaction other : LoggedTransaction)
    (result : ConflictCheckResult) :
    Scoped engine (checkWriteRead engine context currentTransaction other result) := by
  unfold checkWriteRead
  split_ifs with hskip
  · exact scoped_pure _
  · have hscoped : Scoped engine
        (rollingWriteReadDependency engine context currentTransaction other) := by
      unfold rollingWriteReadDependency
      dsimp only
      split_ifs
      · exact scoped_pure _
      · exact scoped_discarding (moves_readStatements _ _ _ _)
    apply hscoped.bind
    intro dependency
    cases dependency with
    | affected indexes => exact scoped_pure _
    | unaffected => exact scoped_pure _
    | notRefined reason => exact scoped_pure _

lemma scoped_checkPair (enabledKinds : Finset ConflictKind)
    (currentTransaction : LoggedTransaction) (currentBranch : BranchName)
    (ours theirs : LoggedTransaction) (staticResult : ConflictCheckResult) :
    Scoped engine (checkPair engine context enabledKinds currentTransaction currentBranch ours
      theirs staticResult) := by
  have hreads : ∀ result, Scoped engine (checkReads engine context enabledKinds
      currentTransaction (otherOf currentBranch ours theirs) result) := by
    intro result
    unfold checkReads
    split_ifs
    · exact scoped_checkWriteRead _ _ _
    · exact scoped_pure _
  unfold checkPair
  split_ifs with hwriteWrite
  · apply (scoped_checkWriteWrite _ _ _ _).bind
    intro result
    split_ifs
    · exact scoped_pure _
    · exact hreads result
  · exact hreads staticResult

lemma hasConflict_addConflicts (result : ConflictCheckResult) (conflict : StatementConflict)
    (rest : List StatementConflict) :
    (result.addConflicts (conflict :: rest)).hasConflict = true := by
  rw [ConflictCheckResult.hasConflict_iff]
  refine ⟨conflict.kind, ?_⟩
  rw [ConflictCheckResult.hasKind_addConflicts]
  exact .inr ⟨conflict, List.mem_cons_self, rfl⟩

lemma closesFrom_checkInside {w : Working D R C} (stem : String)
    (enabledKinds : Finset ConflictKind) (currentTransaction : LoggedTransaction)
    (currentBranch : BranchName) (ours theirs : LoggedTransaction)
    (staticResult : ConflictCheckResult) :
    ClosesFrom engine w stem (fun result => result.hasConflict = true)
      (checkInside engine context (w.nextName stem) enabledKinds currentTransaction currentBranch
        ours theirs staticResult) := by
  apply ClosesFrom.bind (scoped_checkPair _ _ _ _ _ _).moves
  intro result
  split_ifs with hresult
  · exact closesFrom_rollback hresult
  · apply ClosesFrom.bind (moves_advanceTransaction _ _ _ _ _)
    intro advanceResult
    split_ifs with hadvance
    · exact closesFrom_rollback hadvance
    · exact closesFrom_release hresult

lemma closesFrom_acceptInside {w : Working D R C} (stem : String)
    (currentTransaction other : LoggedTransaction) (acceptedResult : ConflictCheckResult) :
    ClosesFrom engine w stem (fun result => result.hasConflict = true)
      (acceptInside engine context (w.nextName stem) currentTransaction other
        acceptedResult) := by
  apply ClosesFrom.bind (moves_advanceTransaction _ _ _ _ _)
  intro result
  cases result.conflicts with
  | cons conflict rest => exact closesFrom_rollback (hasConflict_addConflicts _ _ _)
  | nil => exact closesFrom_release (by simp)

/-- A call that closes its savepoint, and rolls back to it at an exception. -/
lemma orRollBack_cases {w : Working D R C} {stem : String}
    {body : Program D R C ConflictCheckResult}
    (h : ClosesFrom engine w stem (fun result => result.hasConflict = true) body) :
    (∃ result w', orRollBack engine (w.nextName stem) body (w.enter stem) = .ok result w' ∧
      (result.hasConflict = true → Restored w w') ∧ Framed w w') ∨
    ∃ e w', orRollBack engine (w.nextName stem) body (w.enter stem) = .error e w' ∧
      Restores engine w w' := by
  have hclose := h.enter
  unfold orRollBack catching
  cases hbody : body (w.enter stem) with
  | ok result w' =>
    rw [hbody] at hclose
    cases hclose with
    | undone hconflict hrestored =>
      exact .inl ⟨result, w', rfl, fun _ => hrestored, hrestored.framed⟩
    | released hclean hframed =>
      exact .inl ⟨result, w', rfl, fun hconflict => absurd hconflict hclean, hframed⟩
  | error e w' =>
    rw [hbody] at hclose
    cases hclose with
    | raised hwithin =>
      rcases restores_rollback hwithin with ⟨w'', hroll, hrestored⟩ | ⟨e', hroll, hlost⟩
      · exact .inr ⟨e, w'', bind_ok hroll, .inl hrestored⟩
      · exact .inr ⟨e', w', bind_error hroll, .inr hlost⟩

/-- A scan is open over a state of the copies, unless a statement rolled everything back. -/
def ScanOpen (engine : Engine D R) (before : Copies D R) (outer : List (String × Copies D R))
    (w : Working D R C) : Prop :=
  ∃ name, w.scanner.savepoint = some name ∧
    (w.saved = (name, before) :: outer ∨ RollsBack engine ∧ w.saved = [])

/-- The open savepoints and the scanner's savepoint are kept. -/
def KeepsScan (engine : Engine D R) (w w' : Working D R C) : Prop :=
  w'.scanner.savepoint = w.scanner.savepoint ∧
    (w'.saved = w.saved ∨ RollsBack engine ∧ w'.saved = [])

instance : Std.Refl (KeepsScan engine (C := C)) := ⟨fun _ => ⟨rfl, .inl rfl⟩⟩

instance : IsTrans (Working D R C) (KeepsScan engine) where
  trans := by
    intro w w' w'' ⟨hname, hsaved⟩ ⟨hname', hsaved'⟩
    refine ⟨hname'.trans hname, ?_⟩
    rcases hsaved' with heq' | hlost'
    · rcases hsaved with heq | ⟨hrolls, hnil⟩
      · exact .inl (heq'.trans heq)
      · exact .inr ⟨hrolls, heq'.trans hnil⟩
    · exact .inr hlost'

lemma keepsScan_of_within {w w' : Working D R C} (h : Within engine w w') :
    KeepsScan engine w w' := by
  rcases h with hframed | hlost
  · exact ⟨congrArg _ hframed.scanner, .inl hframed.saved⟩
  · exact ⟨congrArg _ hlost.scanner, .inr ⟨hlost.rollsBack, hlost.saved⟩⟩

lemma keepsScan_of_moves {α : Type} {x : Program D R C α} (h : Moves (Within engine) x) :
    Moves (KeepsScan engine) x :=
  h.mono fun _ _ => keepsScan_of_within

lemma ScanOpen.keeps {before : Copies D R} {outer : List (String × Copies D R)}
    {w w' : Working D R C} (h : ScanOpen engine before outer w) (hkeeps : KeepsScan engine w w') :
    ScanOpen engine before outer w' := by
  obtain ⟨name, hname, hsaved⟩ := h
  obtain ⟨hname', hsaved'⟩ := hkeeps
  refine ⟨name, hname'.trans hname, ?_⟩
  rcases hsaved' with heq' | hlost'
  · rcases hsaved with heq | ⟨hrolls, hnil⟩
    · exact .inl (heq'.trans heq)
    · exact .inr ⟨hrolls, heq'.trans hnil⟩
  · exact .inr hlost'

lemma keepsScan_saveWriteProbe (statement : LoggedStatement) (index : ℕ) :
    Moves (KeepsScan engine) (saveWriteProbe engine context statement index : Program D R C _) := by
  unfold saveWriteProbe
  split_ifs
  · apply (keepsScan_of_moves (moves_statementWriteProbeTable _ _)).bind
    intro table
    cases table with
    | none => exact moves_pure _
    | some table => exact fun w => ⟨rfl, .inl rfl⟩
  · exact moves_pure _

lemma keepsScan_startStatements (currentTransaction : LoggedTransaction)
    (currentBranch : BranchName) (statements : List (LoggedStatement × ℕ)) :
    Moves (KeepsScan engine) (startControlWithCurrentWriteProbes engine context
      currentTransaction currentBranch statements) := by
  induction statements with
  | nil => exact moves_pure _
  | cons statement rest ih =>
    apply (keepsScan_saveWriteProbe _ _).bind
    intro _
    apply (keepsScan_of_moves (moves_executeStatementOnControl _ _ _ _)).bind
    intro failure
    cases failure with
    | some failure => exact moves_pure _
    | none => exact ih

lemma scanOpen_start (currentTransaction : LoggedTransaction) (currentBranch : BranchName)
    (w : Working D R C) :
    ScanOpen engine w.copies w.saved
      (final (start engine context currentTransaction currentBranch w)) := by
  have hopened : ScanOpen engine w.copies w.saved (openScan w) := ⟨_, rfl, .inl rfl⟩
  have hmoves : Moves (KeepsScan engine)
      (startControlWithCurrentWriteProbes engine context currentTransaction currentBranch
        currentTransaction.statements.zipIdx >>= startResult) := by
    apply (keepsScan_startStatements _ _ _).bind
    intro failure
    cases failure with
    | some failure => exact moves_pure _
    | none => exact moves_pure _
  rw [start_apply]
  exact hopened.keeps (hmoves (openScan w))

lemma close_scanOpen {before : Copies D R} {outer : List (String × Copies D R)}
    {w w' : Working D R C} (h : ScanOpen engine before outer w)
    (hclose : close engine w = .ok () w') :
    w'.copies = before ∧ w'.saved = outer ∧ w'.scanner.savepoint = none := by
  obtain ⟨name, hname, hsaved⟩ := h
  obtain ⟨fields, w1, hfields, hclose⟩ := ok_of_bind hclose
  cases hfields
  simp only [hname] at hclose
  obtain ⟨u, w2, hroll, hclose⟩ := ok_of_bind hclose
  cases hclose
  rcases hsaved with htop | ⟨-, hnil⟩
  · rw [rollbackSavepoint_top htop] at hroll
    cases hroll
    exact ⟨rfl, rfl, rfl⟩
  · rw [rollbackSavepoint_nil hnil] at hroll
    cases hroll

lemma close_idle {w : Working D R C} (h : w.scanner.savepoint = none) :
    close engine w = .ok () w := by
  have hfields : (scannerFields : Program D R C ScannerFields) w = .ok w.scanner w := rfl
  unfold close
  rw [bind_ok hfields, h]
  rfl

lemma framed_checkNext {enabledKinds : Finset ConflictKind}
    {currentTransaction ours theirs : LoggedTransaction} {currentBranch : BranchName}
    {staticResult result : ConflictCheckResult} {w w' : Working D R C}
    (h : checkNext engine context enabledKinds currentTransaction currentBranch ours theirs
      staticResult w = .ok result w') :
    (result.hasConflict = true → Restored w w') ∧ Framed w w' := by
  rcases orRollBack_cases (@closesFrom_checkInside D R C engine context w _ enabledKinds
      currentTransaction currentBranch ours theirs staticResult) with
    ⟨result', w'', hok, hcases⟩ | ⟨e, w'', herror, -⟩
  · have heq := h.symm.trans hok
    cases heq
    exact hcases
  · have heq := h.symm.trans herror
    cases heq

lemma framed_acceptNext {currentTransaction other : LoggedTransaction}
    {acceptedResult result : ConflictCheckResult} {w w' : Working D R C}
    (h : acceptNext engine context currentTransaction other acceptedResult w = .ok result w') :
    (result.hasConflict = true → Restored w w') ∧ Framed w w' := by
  rcases orRollBack_cases (@closesFrom_acceptInside D R C engine context w _ currentTransaction
      other acceptedResult) with ⟨result', w'', hok, hcases⟩ | ⟨e, w'', herror, -⟩
  · have heq := h.symm.trans hok
    cases heq
    exact hcases
  · have heq := h.symm.trans herror
    cases heq

end SqliteReconcile.ReplayRestoration
