import SqliteReconcile.BranchWarnings

/-!
# The loop over the warnings of a branch transaction

Every attempt starts from the same database, so a statement is always examined in the same
state, whatever was accepted before. An accepted warning is not asked about again, and each
statement has finitely many.
-/
namespace SqliteReconcile.BranchWarningLoop
open Models LogMerge Programs Savepoints Connection AcceptedReplay RemainingExecution
open EditCommands BranchWarnings

inductive ProbeAnswer
  | raises
  | fails (error : SqliteError)
  | warns (warning : Option String)

section

variable {D R C : Type} (engine : Engine D R) (context : BranchContext C)

def strictAnswer (statement : LoggedStatement) (copies : Copies D R) : ProbeAnswer :=
  match strictConflictResolutionStatement context statement with
  | .error _ => .raises
  | .ok none => .warns none
  | .ok (some (strict, label)) =>
    match engine.execute strict.sqlText copies with
    | .done after =>
      match after.main.foreignKeyCheck engine with
      | .error error => .fails error
      | .ok row => .warns (row.map fun row =>
          conflictResolutionAlreadyActiveWarning label ("foreign_key_check failed: " ++ row))
    | .fails error _ => .warns (if error.integrity then
        some (conflictResolutionAlreadyActiveWarning label error.message) else none)
    | .rollsBack _ => .raises
    | .refuses _ => .raises

/-- The statement has a block reason that the user cannot accept. -/
def Blocked (statement : LoggedStatement) : Prop :=
  statement.isReplaySafe = false ∧ replayWarningReason statement = none

/-- The strict replay is refused or rolls the whole transaction back, or the statement does. -/
def RaisesAt (statement : LoggedStatement) (copies : Copies D R) : Prop :=
  ¬ Blocked statement ∧
    (strictAnswer engine context statement copies = .raises ∨
      ∃ warning, strictAnswer engine context statement copies = .warns warning ∧
        ((∃ error, engine.execute statement.sqlText copies = .rollsBack error) ∨
          ∃ message, engine.execute statement.sqlText copies = .refuses message))

/-- The statement is executed once its warnings are accepted. -/
def PassesAt (statement : LoggedStatement) (copies after : Copies D R) : Prop :=
  ¬ Blocked statement ∧
    (∃ warning, strictAnswer engine context statement copies = .warns warning) ∧
    engine.execute statement.sqlText copies = .done after

/-- Some statement that the loop gets to breaks the savepoint of the attempt. -/
def Breaks : List LoggedStatement → Copies D R → Prop
  | [], _ => False
  | statement :: rest, copies =>
    RaisesAt engine context statement copies ∨
      ∃ after, PassesAt engine context statement copies after ∧ Breaks rest after

def Executes : List LoggedStatement → Copies D R → Copies D R → Prop
  | [], copies, last => last = copies
  | statement :: rest, copies, last =>
    ∃ after, PassesAt engine context statement copies after ∧ Executes rest after last

def warningsAt (statement : LoggedStatement) (copies : Copies D R) : Finset String :=
  (replayWarningReason statement).toFinset ∪ statement.replayWarnings.toFinset ∪
    {updateFromDuplicateTargetWarning} ∪
    match strictAnswer engine context statement copies with
    | .warns warning => warning.toFinset
    | _ => ∅

/-- The statement at a place, reached by an attempt, has a warning that is not accepted. -/
def AsksAt : List LoggedStatement → Copies D R → ℕ → String → Prop
  | [], _, _, _ => False
  | statement :: _, copies, 0, warning =>
    warning ∈ warningsAt engine context statement copies ∧
      warning ∉ statement.acceptedReplayWarnings
  | statement :: rest, copies, place + 1, warning =>
    ∃ after, PassesAt engine context statement copies after ∧ AsksAt rest after place warning

variable {engine context}

lemma updateFromHasDuplicateTargetRows_returns (metadata : StatementMetadata)
    (w : Working D R C) :
    ∃ duplicated w', updateFromHasDuplicateTargetRows engine context metadata w =
      .ok duplicated w' ∧ w'.stack = w.stack := by
  unfold updateFromHasDuplicateTargetRows
  split
  · cases hprobe : context.affectedPrimaryKeySelect metadata w.caches with
    | mk answer caches =>
      have hlookup : (lookup (context.affectedPrimaryKeySelect metadata) : Program D R C _) w =
          .ok answer { w with caches := caches } := by
        simp only [lookup, hprobe]
      rw [bind_ok hlookup]
      cases answer with
      | none => exact ⟨false, _, rfl, rfl⟩
      | some probe =>
        simp only
        unfold exceptSqlite catching probeHasDuplicateTargetRows
        dsimp only
        split_ifs
        · exact ⟨true, _, rfl, rfl⟩
        · cases hquery : engine.query (duplicateRowsQuery probe
              (context.replay.primaryKeyColumns (requiredUpdatedTable metadata)).length)
              w.copies with
          | ok rows =>
            have hrows : query engine (duplicateRowsQuery probe
                (context.replay.primaryKeyColumns (requiredUpdatedTable metadata)).length)
                ({ w with caches := caches } : Working D R C) =
                .ok rows { w with caches := caches } := by
              unfold query
              rw [show ({ w with caches := caches } : Working D R C).copies = w.copies from rfl,
                hquery]
            rw [bind_ok hrows]
            exact ⟨_, _, rfl, rfl⟩
          | error error =>
            have hrows : query engine (duplicateRowsQuery probe
                (context.replay.primaryKeyColumns (requiredUpdatedTable metadata)).length)
                ({ w with caches := caches } : Working D R C) =
                .error (.sqlite error) { w with caches := caches } := by
              unfold query
              rw [show ({ w with caches := caches } : Working D R C).copies = w.copies from rfl,
                hquery]
            rw [bind_error hrows]
            exact ⟨false, _, rfl, rfl⟩
  · exact ⟨false, w, rfl, rfl⟩

/-- An exception that the handler of the attempt does not turn into an issue: it is not
SQLite's, or the savepoint of the attempt is gone. -/
def Escapes (e : Exn) (w : Working D R C) : Prop :=
  (∃ message, e = .other message) ∨ w.saved = []

/-- What the strict replay of a statement answers, and that it leaves no trace. -/
inductive Probes (w : Working D R C) :
    ProbeAnswer → EStateM.Result Exn (Working D R C) (Option String) → Prop
  | raises {e w'} : Escapes e w' → Probes w .raises (.error e w')
  | fails {error w'} : w'.stack = w.stack → Probes w (.fails error) (.error (.sqlite error) w')
  | warns {warning w'} : w'.stack = w.stack → Probes w (.warns warning) (.ok warning w')

variable (context) in
lemma strictStatement_apply (statement : LoggedStatement) (w : Working D R C) :
    strictStatement context.replay statement w =
      match strictConflictResolutionStatement context statement with
      | .ok strict => .ok strict w
      | .error message => .error (.other message) w := by
  unfold strictStatement
  by_cases h : statement.metadata.hasReviewableConstraintResolution
  · have hlookup : (lookup (context.replay.strictConflictResolutionStatement statement) :
        Program D R C _) w = .ok (strictConflictResolutionStatement context statement) w := rfl
    rw [if_pos h, bind_ok hlookup]
    cases strictConflictResolutionStatement context statement <;> rfl
  · rw [if_neg h, strictConflictResolutionStatement, if_neg h]
    rfl

variable (engine) in
lemma executeStatementOnMain_apply (statement : LoggedStatement) (scope : ConflictScope)
    (label : String) (w : Working D R C) :
    executeStatementOnMain engine statement scope label true w =
      match engine.execute statement.sqlText w.copies with
      | .done after =>
        match after.main.foreignKeyCheck engine with
        | .error error => .error (.sqlite error) (w.withCopies after)
        | .ok row => .ok (row.map fun row =>
            ⟨.integrity, scope, "foreign_key_check failed: " ++ row, label, some statement⟩)
            (w.withCopies after)
      | .fails error after => .ok (some ⟨sqliteErrorConflictKind error, scope, error.message,
          label, some statement⟩) (w.withCopies after)
      | .rollsBack error =>
        match w.saved.getLast? with
        | none => .ok (some ⟨sqliteErrorConflictKind error, scope, error.message, label,
            some statement⟩) w
        | some (_, before) => .ok (some ⟨sqliteErrorConflictKind error, scope, error.message,
            label, some statement⟩) { w with stack := .new before }
      | .refuses message => .error (.other message) w := by
  unfold executeStatementOnMain executeSqlForReplay
  cases hanswer : engine.execute statement.sqlText w.copies with
  | done after =>
    have hexecute : execute engine statement.sqlText w = .ok none (w.withCopies after) := by
      unfold execute
      rw [hanswer]
    rw [bind_ok hexecute]
    simp only [if_true]
    cases hcheck : after.main.foreignKeyCheck engine with
    | error error =>
      have hforeign : foreignKeyCheckError engine none (w.withCopies after) =
          .error (.sqlite error) (w.withCopies after) := by
        unfold foreignKeyCheckError databaseOf
        simp only [Working.copies_withCopies, hcheck]
      rw [bind_error hforeign]
    | ok row =>
      have hforeign : foreignKeyCheckError engine none (w.withCopies after) =
          .ok (row.map ("foreign_key_check failed: " ++ ·)) (w.withCopies after) := by
        unfold foreignKeyCheckError databaseOf
        simp only [Working.copies_withCopies, hcheck]
      rw [bind_ok hforeign]
      cases row <;> rfl
  | fails error after =>
    have hexecute : execute engine statement.sqlText w = .ok (some error) (w.withCopies after) := by
      unfold execute
      rw [hanswer]
    rw [bind_ok hexecute]
    rfl
  | rollsBack error =>
    simp only
    cases hlast : w.saved.getLast? with
    | none =>
      have hexecute : execute engine statement.sqlText w = .ok (some error) w := by
        unfold execute
        rw [hanswer]
        simp only [hlast]
      rw [bind_ok hexecute]
      rfl
    | some last =>
      have hexecute : execute engine statement.sqlText w =
          .ok (some error) { w with stack := .new last.2 } := by
        unfold execute
        rw [hanswer]
        simp only [hlast]
      rw [bind_ok hexecute]
      rfl
  | refuses message =>
    have hexecute : execute engine statement.sqlText w = .error (.other message) w := by
      unfold execute
      rw [hanswer]
    rw [bind_error hexecute]

variable (engine context) in
/-- The probe answers as the strict replay on the database that the attempt has reached. -/
lemma probes_conflictResolutionBranchWarning (statement : LoggedStatement)
    (w : Working D R C) :
    Probes w (strictAnswer engine context statement w.copies)
      (conflictResolutionBranchWarning engine context statement w) := by
  have hstrict := strictStatement_apply context statement w
  unfold strictAnswer conflictResolutionBranchWarning
  cases hrewrite : strictConflictResolutionStatement context statement with
  | error message =>
    rw [hrewrite] at hstrict
    rw [bind_error hstrict]
    exact .raises (.inl ⟨message, rfl⟩)
  | ok strict =>
    rw [hrewrite] at hstrict
    rw [bind_ok hstrict]
    cases strict with
    | none => exact .warns rfl
    | some strict =>
      obtain ⟨strict, label⟩ := strict
      have hbody := executeStatementOnMain_apply engine strict
        statement.branch.scope ("strict " ++ statementLabel statement)
        (w.enter "sqlite_merge_remaining_stmt_probe_")
      rw [show (w.enter "sqlite_merge_remaining_stmt_probe_").copies = w.copies from rfl] at hbody
      simp only [savepointStatementFailure, Bool.false_eq_true, if_false]
      cases hanswer : engine.execute strict.sqlText w.copies with
      | done after =>
        simp only [hanswer] at hbody
        cases hcheck : after.main.foreignKeyCheck engine with
        | error error =>
          simp only [hcheck] at hbody
          obtain ⟨w', hprobe, hrestored⟩ := discarding_error hbody ⟨rfl, rfl⟩
          rw [bind_error hprobe]
          simp only [hcheck]
          exact .fails hrestored.stack
        | ok row =>
          simp only [hcheck] at hbody
          obtain ⟨w', hprobe, hrestored⟩ := discarding_ok hbody ⟨rfl, rfl⟩
          rw [bind_ok hprobe]
          simp only [hcheck]
          cases row with
          | none => exact .warns hrestored.stack
          | some row => exact .warns hrestored.stack
      | fails error after =>
        simp only [hanswer] at hbody
        obtain ⟨w', hprobe, hrestored⟩ := discarding_ok hbody ⟨rfl, rfl⟩
        rw [bind_ok hprobe]
        by_cases herror : error.integrity = true
        · simp only [sqliteErrorConflictKind, herror, if_true]
          exact .warns hrestored.stack
        · simp only [sqliteErrorConflictKind, herror, Bool.false_eq_true, if_false, reduceCtorEq]
          exact .warns hrestored.stack
      | rollsBack error =>
        have hlast : ∃ last, (w.enter "sqlite_merge_remaining_stmt_probe_").saved.getLast? =
            some last := by
          refine ⟨(w.enter "sqlite_merge_remaining_stmt_probe_").saved.getLast
            (List.cons_ne_nil _ _), List.getLast?_eq_some_getLast _⟩
        obtain ⟨last, hlast⟩ := hlast
        simp only [hanswer, hlast] at hbody
        have hprobe := discarding_lost engine hbody rfl
        rw [bind_error hprobe]
        exact .raises (.inr rfl)
      | refuses message =>
        simp only [hanswer] at hbody
        obtain ⟨w', hprobe, hrestored⟩ := discarding_error hbody ⟨rfl, rfl⟩
        rw [bind_error hprobe]
        exact .raises (.inl ⟨message, rfl⟩)

lemma statementReplayWarning_eq_some {statement : LoggedStatement} {warning : String}
    (h : statementReplayWarning statement = some warning) :
    (warning ∈ (replayWarningReason statement).toFinset ∨ warning ∈ statement.replayWarnings) ∧
      warning ∉ statement.acceptedReplayWarnings := by
  unfold statementReplayWarning pendingReplayWarning at h
  cases hreason : replayWarningReason statement with
  | none =>
    simp only [hreason] at h
    have hfound := List.find?_some h
    simp only [decide_eq_true_eq] at hfound
    exact ⟨.inr (List.mem_of_find?_eq_some h), hfound.2⟩
  | some reason =>
    simp only [hreason] at h
    by_cases haccepted : reason ∈ statement.acceptedReplayWarnings
    · simp only [if_pos haccepted] at h
      have hfound := List.find?_some h
      simp only [decide_eq_true_eq] at hfound
      exact ⟨.inr (List.mem_of_find?_eq_some h), hfound.2⟩
    · simp only [if_neg haccepted, Option.some.injEq] at h
      subst h
      exact ⟨.inl (by simp), haccepted⟩

/-- Once its stored warnings are accepted, a statement is blocked by the reasons that cannot
be accepted, and by them alone. -/
lemma unresolvedReplayBlockReason_iff {statement : LoggedStatement}
    (h : statementReplayWarning statement = none) :
    unresolvedReplayBlockReason statement = none ↔ ¬ Blocked statement := by
  have hpending : pendingReplayWarning statement = none := by
    unfold statementReplayWarning at h
    cases hpending : pendingReplayWarning statement with
    | none => rfl
    | some warning =>
      rw [hpending] at h
      cases h
  unfold pendingReplayWarning at hpending
  unfold unresolvedReplayBlockReason Blocked
  by_cases hsafe : statement.isReplaySafe = true
  · simp [hsafe]
  · simp only [hsafe, Bool.false_eq_true, if_false]
    cases hreason : replayWarningReason statement with
    | none => simp [unresolvedReplayBlockReason.blockReason]
    | some reason =>
      simp only [hreason] at hpending
      by_cases haccepted : reason ∈ statement.acceptedReplayWarnings
      · simp [haccepted]
      · simp [haccepted] at hpending

lemma exceptSqlite_ok {α : Type} {body : Program D R C α} {handler : SqliteError → Program D R C α}
    {a : α} {w w' : Working D R C} (h : body w = .ok a w') :
    exceptSqlite body handler w = .ok a w' := by
  unfold exceptSqlite catching
  rw [h]

lemma exceptSqlite_sqlite {α : Type} {body : Program D R C α}
    {handler : SqliteError → Program D R C α} {error : SqliteError} {w w' : Working D R C}
    (h : body w = .error (.sqlite error) w') :
    exceptSqlite body handler w = handler error w' := by
  unfold exceptSqlite catching
  rw [h]

variable {savepoint : String} {before : Copies D R} {outer : List (String × Copies D R)}
  {w : Working D R C}

lemma undoWith_apply (hsaved : w.saved = (savepoint, before) :: outer)
    (issue : BranchReplayIssue) :
    undoWith engine savepoint issue w = .ok (some issue) { w with stack := ⟨before, outer⟩ } := by
  unfold undoWith
  rw [bind_ok (@rollbackSavepoint_top D R C engine w _ _ _ hsaved)]
  rfl

/-- The handler has no savepoint to go back to. -/
lemma exceptSqlite_escapes {body : Program D R C (Option BranchReplayIssue)}
    {branch : BranchName} {last : Option LoggedStatement} {e : Exn} {w' : Working D R C}
    (h : body w = .error e w') (hescapes : Escapes e w') :
    ∃ e' w'', exceptSqlite body (replayError engine savepoint branch last) w = .error e' w'' := by
  cases e with
  | other message =>
    refine ⟨.other message, w', ?_⟩
    unfold exceptSqlite catching
    rw [h]
    rfl
  | sqlite error =>
    have hlost : w'.saved = [] := by
      rcases hescapes with ⟨message, hmessage⟩ | hlost
      · cases hmessage
      · exact hlost
    refine ⟨noSuchSavepoint savepoint, w', ?_⟩
    rw [exceptSqlite_sqlite h]
    unfold replayError undoWith
    rw [bind_error (@rollbackSavepoint_nil D R C engine w' savepoint hlost)]

inductive Examined (engine : Engine D R) (context : BranchContext C) (branch : BranchName)
    (object : StatementObject) (before : Copies D R) (outer : List (String × Copies D R))
    (w : Working D R C) : EStateM.Result Exn (Working D R C) (Option BranchReplayIssue) → Prop
  /-- At a warning that is not accepted yet. -/
  | asks {warning w'} : warning ∈ warningsAt engine context object.statement w.copies →
    warning ∉ object.statement.acceptedReplayWarnings → w'.stack = ⟨before, outer⟩ →
    Examined engine context branch object before outer w
      (.ok (some (branchReplayWarningIssue branch object warning)) w')
  | stops {issue w'} : issue.warning = none →
    ¬ RaisesAt engine context object.statement w.copies →
    (∀ after, ¬ PassesAt engine context object.statement w.copies after) →
    w'.stack = ⟨before, outer⟩ →
    Examined engine context branch object before outer w (.ok (some issue) w')
  | raises {e w'} : RaisesAt engine context object.statement w.copies →
    Examined engine context branch object before outer w (.error e w')
  | passes {w'} : PassesAt engine context object.statement w.copies w'.copies →
    w'.saved = w.saved → Examined engine context branch object before outer w (.ok none w')

lemma examined_execute (branch : BranchName) (object : StatementObject)
    (hsaved : w.saved = (savepoint, before) :: outer) (hblocked : ¬ Blocked object.statement)
    {warning : Option String}
    (hprobe : strictAnswer engine context object.statement w.copies = .warns warning) :
    Examined engine context branch object before outer w
      (exceptSqlite (do
          executeRaising engine object.statement.sqlText
          return none)
        (replayError engine savepoint branch (some object.statement)) w) := by
  cases hanswer : engine.execute object.statement.sqlText w.copies with
  | done after =>
    have hexecute : executeRaising engine object.statement.sqlText w =
        .ok () (w.withCopies after) := by
      unfold executeRaising
      rw [bind_ok (show execute engine object.statement.sqlText w = .ok none (w.withCopies after) by
        unfold execute
        rw [hanswer])]
      rfl
    have hrun : (do
        executeRaising engine object.statement.sqlText
        return none : Program D R C (Option BranchReplayIssue)) w = .ok none (w.withCopies after) :=
      bind_ok hexecute
    rw [exceptSqlite_ok hrun]
    exact .passes ⟨hblocked, ⟨warning, hprobe⟩, hanswer⟩ rfl
  | fails error after =>
    have hexecute : executeRaising engine object.statement.sqlText w =
        .error (.sqlite error) (w.withCopies after) := by
      unfold executeRaising
      rw [bind_ok (show execute engine object.statement.sqlText w =
          .ok (some error) (w.withCopies after) by
        unfold execute
        rw [hanswer])]
      rfl
    rw [exceptSqlite_sqlite (bind_error hexecute), replayError,
      undoWith_apply (w := w.withCopies after) hsaved]
    refine .stops rfl ?_ ?_ rfl
    · rintro ⟨-, hraises | ⟨warning', -, ⟨error', hrolls⟩ | ⟨message, hrefuses⟩⟩⟩
      · rw [hprobe] at hraises
        cases hraises
      · rw [hanswer] at hrolls
        cases hrolls
      · rw [hanswer] at hrefuses
        cases hrefuses
    · rintro after' ⟨-, -, hdone⟩
      rw [hanswer] at hdone
      cases hdone
  | rollsBack error =>
    have hlast : w.saved.getLast? = some (w.saved.getLast (by simp [hsaved])) :=
      List.getLast?_eq_some_getLast _
    have hexecute : executeRaising engine object.statement.sqlText w =
        .error (.sqlite error)
          { w with stack := .new (w.saved.getLast (by simp [hsaved])).2 } := by
      unfold executeRaising
      rw [bind_ok (show execute engine object.statement.sqlText w = .ok (some error)
          { w with stack := .new (w.saved.getLast (by simp [hsaved])).2 } by
        unfold execute
        rw [hanswer]
        simp only [hlast])]
      rfl
    obtain ⟨e', w'', hescaped⟩ := exceptSqlite_escapes
     
      (bind_error (f := fun _ => (return none : Program D R C _)) hexecute) (.inr rfl)
    rw [hescaped]
    exact .raises ⟨hblocked, .inr ⟨warning, hprobe, .inl ⟨error, hanswer⟩⟩⟩
  | refuses message =>
    have hexecute : executeRaising engine object.statement.sqlText w = .error (.other message) w := by
      unfold executeRaising
      rw [bind_error (show execute engine object.statement.sqlText w = .error (.other message) w by
        unfold execute
        rw [hanswer])]
    obtain ⟨e', w'', hescaped⟩ := exceptSqlite_escapes
     
      (bind_error (f := fun _ => (return none : Program D R C _)) hexecute) (.inl ⟨message, rfl⟩)
    rw [hescaped]
    exact .raises ⟨hblocked, .inr ⟨warning, hprobe, .inr ⟨message, hanswer⟩⟩⟩

lemma exceptSqlite_bind {α β : Type} {x : Program D R C β} {f : β → Program D R C α}
    {handler : SqliteError → Program D R C α} {b : β} {w' : Working D R C}
    (h : x w = .ok b w') : exceptSqlite (x >>= f) handler w = exceptSqlite (f b) handler w' := by
  unfold exceptSqlite catching
  rw [bind_ok h]

lemma Examined.congr {branch : BranchName} {object : StatementObject} {w' : Working D R C}
    {result : EStateM.Result Exn (Working D R C) (Option BranchReplayIssue)}
    (hstack : w'.stack = w.stack)
    (h : Examined engine context branch object before outer w' result) :
    Examined engine context branch object before outer w result := by
  have hcopies : w'.copies = w.copies := congrArg Stack.current hstack
  have hsaved : w'.saved = w.saved := congrArg Stack.saved hstack
  cases h with
  | asks hwarning haccepted hundone => exact .asks (hcopies ▸ hwarning) haccepted hundone
  | stops hissue hraises hpasses hundone =>
    exact .stops hissue (hcopies ▸ hraises) (hcopies ▸ hpasses) hundone
  | raises hraises => exact .raises (hcopies ▸ hraises)
  | passes hpasses hkept => exact .passes (hcopies ▸ hpasses) (hkept.trans hsaved)

lemma not_raisesAt_of_blocked {statement : LoggedStatement} {copies : Copies D R}
    (h : Blocked statement) : ¬ RaisesAt engine context statement copies := fun hraises =>
  hraises.1 h

lemma not_passesAt_of_blocked {statement : LoggedStatement} {copies after : Copies D R}
    (h : Blocked statement) : ¬ PassesAt engine context statement copies after := fun hpasses =>
  hpasses.1 h

lemma examined_probe (branch : BranchName) (object : StatementObject)
    (hsaved : w.saved = (savepoint, before) :: outer) (hblocked : ¬ Blocked object.statement) :
    Examined engine context branch object before outer w
      (exceptSqlite (do
          let warning ← conflictResolutionBranchWarning engine context object.statement
          match warning.filter (· ∉ object.statement.acceptedReplayWarnings) with
          | some warning =>
            undoWith engine savepoint (branchReplayWarningIssue branch object warning)
          | none =>
            executeRaising engine object.statement.sqlText
            return none)
        (replayError engine savepoint branch (some object.statement)) w) := by
  have hprobes := probes_conflictResolutionBranchWarning engine context
    object.statement w
  generalize hanswer : strictAnswer engine context object.statement w.copies = answer at hprobes
  generalize hrun : conflictResolutionBranchWarning engine context object.statement w = result
    at hprobes
  cases hprobes with
  | raises hescapes =>
    obtain ⟨e', w'', hescaped⟩ := exceptSqlite_escapes
      (bind_error (f := _) hrun) hescapes
    rw [hescaped]
    exact .raises ⟨hblocked, .inl hanswer⟩
  | @fails error w' hstack =>
    have hsaved' : w'.saved = (savepoint, before) :: outer :=
      (congrArg Stack.saved hstack).trans hsaved
    rw [exceptSqlite_sqlite (bind_error (f := _) hrun), replayError, undoWith_apply hsaved']
    refine .stops rfl ?_ ?_ rfl
    · rintro ⟨-, hraises | ⟨warning, hwarns, -⟩⟩
      · rw [hanswer] at hraises
        cases hraises
      · rw [hanswer] at hwarns
        cases hwarns
    · rintro after ⟨-, ⟨warning, hwarns⟩, -⟩
      rw [hanswer] at hwarns
      cases hwarns
  | @warns warning w' hstack =>
    have hcopies : w'.copies = w.copies := congrArg Stack.current hstack
    have hsaved' : w'.saved = (savepoint, before) :: outer :=
      (congrArg Stack.saved hstack).trans hsaved
    rw [exceptSqlite_bind hrun]
    cases hfilter : warning.filter (· ∉ object.statement.acceptedReplayWarnings) with
    | none => exact (examined_execute branch object hsaved' hblocked (hcopies ▸ hanswer)).congr hstack
    | some warning' =>
      obtain ⟨hwarning, haccepted⟩ := Option.filter_eq_some_iff.mp hfilter
      simp only [decide_eq_true_eq] at haccepted
      simp only
      rw [exceptSqlite_ok (undoWith_apply hsaved' _)]
      refine .asks ?_ haccepted rfl
      simp [warningsAt, hanswer, hwarning]

variable (engine context) in
lemma examined_replayStatement (branch : BranchName) (object : StatementObject)
    (hsaved : w.saved = (savepoint, before) :: outer) :
    Examined engine context branch object before outer w
      (exceptSqlite (replayStatement engine context savepoint branch object)
        (replayError engine savepoint branch (some object.statement)) w) := by
  unfold replayStatement
  dsimp only
  cases hstored : statementReplayWarning object.statement with
  | some warning =>
    obtain ⟨hwarning, haccepted⟩ := statementReplayWarning_eq_some hstored
    simp only
    rw [exceptSqlite_ok (undoWith_apply hsaved _)]
    refine .asks ?_ haccepted rfl
    rcases hwarning with hwarning | hwarning <;> simp_all [warningsAt]
  | none =>
    have hblocked := unresolvedReplayBlockReason_iff hstored
    cases hreason : unresolvedReplayBlockReason object.statement with
    | some reason =>
      have hblock : Blocked object.statement := by
        by_contra hnot
        rw [hblocked.mpr hnot] at hreason
        cases hreason
      simp only
      rw [exceptSqlite_ok (undoWith_apply hsaved _)]
      exact .stops rfl (not_raisesAt_of_blocked hblock)
        (fun _ => not_passesAt_of_blocked hblock) rfl
    | none =>
      have hnot := hblocked.mp hreason
      simp only
      split_ifs with haccepted
      · have hpure : (pure false : Program D R C Bool) w = .ok false w := rfl
        rw [exceptSqlite_bind hpure]
        simp only [Bool.false_eq_true, if_false]
        exact examined_probe branch object hsaved hnot
      · obtain ⟨duplicated, w', hduplicated, hstack⟩ :=
          updateFromHasDuplicateTargetRows_returns
            object.statement.metadata w
        have hsaved' : w'.saved = (savepoint, before) :: outer :=
          (congrArg Stack.saved hstack).trans hsaved
        rw [exceptSqlite_bind hduplicated]
        cases duplicated with
        | true =>
          simp only [if_true]
          rw [exceptSqlite_ok (undoWith_apply hsaved' _)]
          exact .asks (by simp [warningsAt]) haccepted rfl
        | false =>
          simp only [Bool.false_eq_true, if_false]
          exact (examined_probe branch object hsaved' hnot).congr hstack

lemma not_raisesAt_of_passesAt {statement : LoggedStatement} {copies after : Copies D R}
    (h : PassesAt engine context statement copies after) :
    ¬ RaisesAt engine context statement copies := by
  obtain ⟨-, ⟨warning, hprobe⟩, hdone⟩ := h
  rintro ⟨-, hraises | ⟨warning', -, ⟨error, hrolls⟩ | ⟨message, hrefuses⟩⟩⟩
  · rw [hprobe] at hraises
    cases hraises
  · rw [hdone] at hrolls
    cases hrolls
  · rw [hdone] at hrefuses
    cases hrefuses

lemma passesAt_unique {statement : LoggedStatement} {copies after after' : Copies D R}
    (h : PassesAt engine context statement copies after)
    (h' : PassesAt engine context statement copies after') : after = after' := by
  have hdone := h.2.2.symm.trans h'.2.2
  cases hdone
  rfl

lemma breaks_cons_of_passesAt {statement : LoggedStatement} {copies after : Copies D R}
    (h : PassesAt engine context statement copies after) (rest : List LoggedStatement) :
    Breaks engine context (statement :: rest) copies ↔ Breaks engine context rest after := by
  constructor
  · rintro (hraises | ⟨after', hpasses, hbreaks⟩)
    · exact absurd hraises (not_raisesAt_of_passesAt h)
    · rwa [passesAt_unique h hpasses]
  · intro hbreaks
    exact .inr ⟨after, h, hbreaks⟩

inductive Attempted (engine : Engine D R) (context : BranchContext C) (branch : BranchName)
    (objects : List StatementObject) (before : Copies D R) (w : Working D R C) :
    EStateM.Result Exn (Working D R C) (Option BranchReplayIssue) → Prop
  | asks {place object warning w'} : objects[place]? = some object →
    AsksAt engine context (objects.map (·.statement)) w.copies place warning →
    w'.stack = ⟨before, []⟩ →
    Attempted engine context branch objects before w
      (.ok (some (branchReplayWarningIssue branch object warning)) w')
  | stops {issue w'} : issue.warning = none →
    ¬ Breaks engine context (objects.map (·.statement)) w.copies →
    w'.stack = ⟨before, []⟩ →
    Attempted engine context branch objects before w (.ok (some issue) w')
  | raises {e w'} : Breaks engine context (objects.map (·.statement)) w.copies →
    Attempted engine context branch objects before w (.error e w')
  | applied {w'} : ¬ Breaks engine context (objects.map (·.statement)) w.copies →
    Executes engine context (objects.map (·.statement)) w.copies w'.copies →
    w'.saved = [] → Attempted engine context branch objects before w (.ok none w')

lemma attempted_finish (integrityCheck : Database D → Option String) (branch : BranchName)
    (last : Option LoggedStatement) (hsaved : w.saved = [(savepoint, before)]) :
    Attempted engine context branch [] before w
      (exceptSqlite (finishTransaction engine savepoint branch integrityCheck)
        (replayError engine savepoint branch last) w) := by
  have hget : (get : Program D R C (Working D R C)) w = .ok w w := rfl
  unfold finishTransaction
  rw [exceptSqlite_bind hget]
  have hbreaks : ¬ Breaks engine context (([] : List StatementObject).map (·.statement)) w.copies :=
    fun h => h
  cases hcheck : WorkingMerge.validateDatabase engine integrityCheck w.copies.main with
  | error error =>
    simp only
    rw [exceptSqlite_sqlite (throw_apply _ w), replayError, undoWith_apply hsaved]
    exact .stops rfl hbreaks rfl
  | ok errors =>
    cases errors with
    | cons error errors =>
      simp only
      rw [exceptSqlite_ok (undoWith_apply hsaved _)]
      exact .stops rfl hbreaks rfl
    | nil =>
      simp only
      have hstack : w.stack.release savepoint = some ⟨w.copies, []⟩ := by
        have hinner := @innermost_top D R w.stack savepoint before [] hsaved
        simp [Stack.release, hinner, Working.copies]
      cases hcommit : engine.commitError before w.copies with
      | some error =>
        have hrelease : release engine savepoint w = .error (.sqlite error) w := by
          unfold release
          simp [hstack, hsaved, hcommit]
        rw [exceptSqlite_sqlite (bind_error (f := _) hrelease), replayError, undoWith_apply hsaved]
        exact .stops rfl hbreaks rfl
      | none =>
        have hrelease : release engine savepoint w =
            .ok () { w with stack := ⟨w.copies, []⟩ } := by
          unfold release
          simp [hstack, hsaved, hcommit]
        rw [exceptSqlite_bind hrelease]
        have hcommitted : commit engine ({ w with stack := ⟨w.copies, []⟩ } : Working D R C) =
            .ok () { w with stack := ⟨w.copies, []⟩ } := rfl
        rw [exceptSqlite_bind hcommitted]
        exact .applied hbreaks rfl rfl

lemma Attempted.cons {branch : BranchName} {object : StatementObject}
    {rest : List StatementObject} {w' : Working D R C}
    {result : EStateM.Result Exn (Working D R C) (Option BranchReplayIssue)}
    (hpasses : PassesAt engine context object.statement w.copies w'.copies)
    (h : Attempted engine context branch rest before w' result) :
    Attempted engine context branch (object :: rest) before w result := by
  have hbreaks := breaks_cons_of_passesAt hpasses (rest.map (·.statement))
  cases h with
  | @asks place object' warning w'' hobject hasks hundone =>
    have hobject' : (object :: rest)[place + 1]? = some object' := by simpa using hobject
    exact .asks hobject' ⟨_, hpasses, hasks⟩ hundone
  | stops hissue hnot hundone => exact .stops hissue (fun h => hnot (hbreaks.mp h)) hundone
  | raises hbroken => exact .raises (hbreaks.mpr hbroken)
  | applied hnot hexecutes hsaved =>
    exact .applied (fun h => hnot (hbreaks.mp h)) ⟨_, hpasses, hexecutes⟩ hsaved

variable (engine context) in
lemma attempted_replayStatements (integrityCheck : Database D → Option String)
    (branch : BranchName) (objects : List StatementObject) :
    ∀ (last : Option LoggedStatement) (w : Working D R C), w.saved = [(savepoint, before)] →
      Attempted engine context branch objects before w
        (replayStatements engine context savepoint branch integrityCheck objects last w) := by
  induction objects with
  | nil =>
    intro last w hsaved
    exact attempted_finish integrityCheck branch last hsaved
  | cons object rest ih =>
    intro last w hsaved
    unfold replayStatements
    have hexamined := examined_replayStatement engine context branch
      object hsaved
    generalize hrun : exceptSqlite (replayStatement engine context savepoint branch object)
      (replayError engine savepoint branch (some object.statement)) w = result at hexamined
    cases hexamined with
    | asks hwarning haccepted hundone =>
      rw [bind_ok hrun]
      have hfirst : (object :: rest)[0]? = some object := rfl
      exact .asks hfirst ⟨hwarning, haccepted⟩ hundone
    | stops hissue hraises hpasses hundone =>
      rw [bind_ok hrun]
      refine .stops hissue ?_ hundone
      rintro (hbroken | ⟨after, hpass, -⟩)
      · exact hraises hbroken
      · exact hpasses after hpass
    | raises hraises =>
      rw [bind_error hrun]
      exact .raises (.inl hraises)
    | @passes w' hpasses hkept =>
      rw [bind_ok hrun]
      exact (ih (some object.statement) w' (hkept.trans hsaved)).cons hpasses

variable (engine context) in
lemma attempted_branchTransactionReplayIssue (integrityCheck : Database D → Option String)
    (transaction : ShownTransaction) (hidle : w.saved = []) :
    Attempted engine context transaction.branch transaction.statements w.copies w
      (branchTransactionReplayIssue engine context integrityCheck transaction w) := by
  unfold branchTransactionReplayIssue
  rw [inSavepoint_apply]
  have hentered : (w.enter "sqlite_merge_branch_").saved =
      [(w.nextName "sqlite_merge_branch_", w.copies)] :=
    congrArg ((w.nextName "sqlite_merge_branch_", w.copies) :: ·) hidle
  have hattempt := attempted_replayStatements engine context integrityCheck
    transaction.branch transaction.statements none (w.enter "sqlite_merge_branch_") hentered
  generalize replayStatements engine context (w.nextName "sqlite_merge_branch_")
    transaction.branch integrityCheck transaction.statements none
    (w.enter "sqlite_merge_branch_") = result at hattempt ⊢
  cases hattempt with
  | asks hobject hasks hundone => exact .asks hobject hasks hundone
  | stops hissue hnot hundone => exact .stops hissue hnot hundone
  | raises hbroken => exact .raises hbroken
  | applied hnot hexecutes hsaved => exact .applied hnot hexecutes hsaved

end

section

variable {D R C : Type} {engine : Engine D R} {context : BranchContext C}

@[simp] lemma withoutAccepted_accept (ref : ℕ) (object : StatementObject) (warning : String) :
    withoutAccepted ⟨ref, acceptReplayWarning object.statement warning⟩ =
      withoutAccepted object := rfl

lemma strictAnswer_withoutAccepted (object : StatementObject) (copies : Copies D R) :
    strictAnswer engine context (withoutAccepted object) copies =
      strictAnswer engine context object.statement copies := by
  unfold strictAnswer strictConflictResolutionStatement withoutAccepted
  by_cases h : object.statement.metadata.hasReviewableConstraintResolution
  · simp only [h, if_true, LoggedStatement.sqlText]
    cases ConflictSyntax.strictConflictResolutionRewrite context.characters
        object.statement.toReplaySqlText.toList with
    | none => rfl
    | some rewrite =>
      simp only
      cases context.parseStatementMetadata (String.ofList rewrite.sql) <;> rfl
  · simp only [h]
    rfl

lemma passesAt_withoutAccepted (object : StatementObject) (copies after : Copies D R) :
    PassesAt engine context (withoutAccepted object) copies after ↔
      PassesAt engine context object.statement copies after := by
  unfold PassesAt
  rw [strictAnswer_withoutAccepted]
  rfl

lemma breaks_withoutAccepted (objects : List StatementObject) (copies : Copies D R) :
    Breaks engine context (objects.map withoutAccepted) copies ↔
      Breaks engine context (objects.map (·.statement)) copies := by
  induction objects generalizing copies with
  | nil => rfl
  | cons object rest ih =>
    simp only [List.map_cons, Breaks, passesAt_withoutAccepted, ih]
    refine or_congr_left ?_
    unfold RaisesAt
    rw [strictAnswer_withoutAccepted]
    rfl

lemma executes_withoutAccepted (objects : List StatementObject) (copies last : Copies D R) :
    Executes engine context (objects.map withoutAccepted) copies last ↔
      Executes engine context (objects.map (·.statement)) copies last := by
  induction objects generalizing copies with
  | nil => rfl
  | cons object rest ih => simp only [List.map_cons, Executes, passesAt_withoutAccepted, ih]

lemma warningsAt_withoutAccepted (object : StatementObject) (copies : Copies D R) :
    warningsAt engine context (withoutAccepted object) copies =
      warningsAt engine context object.statement copies := by
  unfold warningsAt
  rw [strictAnswer_withoutAccepted]
  rfl

variable (engine context)

/-- How many warnings of the statements were not accepted yet. -/
def unasked : List LoggedStatement → Copies D R → ℕ
  | [], _ => 0
  | statement :: rest, copies =>
    (warningsAt engine context statement copies \ statement.acceptedReplayWarnings).card +
      match engine.execute statement.sqlText copies with
      | .done after => unasked rest after
      | _ => 0

variable {engine context}

lemma unasked_set {objects : List StatementObject} {ref : ℕ} {warning : String} :
    ∀ {copies : Copies D R} {place : ℕ} {object : StatementObject},
      objects[place]? = some object →
      AsksAt engine context (objects.map (·.statement)) copies place warning →
      unasked engine context ((objects.set place
          ⟨ref, acceptReplayWarning object.statement warning⟩).map (·.statement)) copies <
        unasked engine context (objects.map (·.statement)) copies := by
  induction objects with
  | nil =>
    intro copies place object hobject
    cases hobject
  | cons first rest ih =>
    intro copies place object hobject hasks
    cases place with
    | zero =>
      obtain rfl : first = object := by simpa using hobject
      obtain ⟨hwarning, hnot⟩ := hasks
      have hwarnings : warningsAt engine context (acceptReplayWarning first.statement warning)
          copies = warningsAt engine context first.statement copies := by
        rw [← warningsAt_withoutAccepted first,
          ← warningsAt_withoutAccepted ⟨ref, acceptReplayWarning first.statement warning⟩,
          withoutAccepted_accept]
      have hcard : (warningsAt engine context first.statement copies \
            insert warning first.statement.acceptedReplayWarnings).card <
          (warningsAt engine context first.statement copies \
            first.statement.acceptedReplayWarnings).card := by
        apply Finset.card_lt_card
        rw [Finset.ssubset_iff_of_subset
          (Finset.sdiff_subset_sdiff le_rfl (Finset.subset_insert _ _))]
        exact ⟨warning, Finset.mem_sdiff.mpr ⟨hwarning, hnot⟩, by simp⟩
      simp only [List.set_cons_zero, List.map_cons, unasked, hwarnings]
      exact Nat.add_lt_add_right hcard _
    | succ place =>
      obtain ⟨after, hpasses, hrest⟩ := hasks
      have hless := ih (by simpa using hobject) hrest
      simp only [List.set_cons_succ, List.map_cons, unasked, hpasses.2.2]
      exact Nat.add_lt_add_left hless _

lemma card_toFinset_le_one (warning : Option String) : warning.toFinset.card ≤ 1 := by
  cases warning with
  | none => simp
  | some warning => simp

lemma card_warningsAt_le (statement : LoggedStatement) (copies : Copies D R) :
    (warningsAt engine context statement copies).card ≤ statement.replayWarnings.length + 3 := by
  have hreason := card_toFinset_le_one (replayWarningReason statement)
  have hstored := List.toFinset_card_le statement.replayWarnings
  have hprobe : (match strictAnswer engine context statement copies with
      | .warns warning => warning.toFinset
      | _ => (∅ : Finset String)).card ≤ 1 := by
    split
    · exact card_toFinset_le_one _
    · simp
  unfold warningsAt
  refine (Finset.card_union_le _ _).trans ?_
  have hthree := Finset.card_union_le
    ((replayWarningReason statement).toFinset ∪ statement.replayWarnings.toFinset)
    {updateFromDuplicateTargetWarning}
  have htwo := Finset.card_union_le (replayWarningReason statement).toFinset
    statement.replayWarnings.toFinset
  rw [Finset.card_singleton] at hthree
  omega

variable (engine context) in
lemma unasked_le (statements : List LoggedStatement) (copies : Copies D R) :
    unasked engine context statements copies ≤
      (statements.map fun statement => statement.replayWarnings.length + 3).sum := by
  induction statements generalizing copies with
  | nil => exact Nat.le_refl _
  | cons statement rest ih =>
    have hfirst : (warningsAt engine context statement copies \
        statement.acceptedReplayWarnings).card ≤ statement.replayWarnings.length + 3 :=
      (Finset.card_le_card Finset.sdiff_subset).trans (card_warningsAt_le statement copies)
    simp only [unasked, List.map_cons, List.sum_cons]
    split
    · rename_i after hdone
      have hrest := ih after
      omega
    · omega

end

lemma acceptWarningIfStatementStillPresent_eq {objects : List StatementObject}
    {object : StatementObject} {warning : String} {place : ℕ} (nextRef : ℕ)
    (hrefs : (objects.map (·.ref)).Nodup) (hobject : objects[place]? = some object)
    (hwarning : warning ∉ object.statement.acceptedReplayWarnings) :
    acceptWarningIfStatementStillPresent nextRef object warning objects =
      objects.set place ⟨nextRef, acceptReplayWarning object.statement warning⟩ := by
  induction objects generalizing place with
  | nil => cases hobject
  | cons first rest ih =>
    rw [List.map_cons, List.nodup_cons] at hrefs
    cases place with
    | zero =>
      obtain rfl : first = object := by simpa using hobject
      simp [acceptWarningIfStatementStillPresent, acceptedObject, hwarning]
    | succ place =>
      have hmem : object ∈ rest := List.mem_of_getElem? (by simpa using hobject)
      have hne : first.ref ≠ object.ref := by
        intro heq
        exact hrefs.1 (heq ▸ List.mem_map_of_mem hmem)
      rw [acceptWarningIfStatementStillPresent, if_neg hne, ih hrefs.2 (by simpa using hobject),
        List.set_cons_succ]

/-- The statements of the transaction are different objects. -/
structure ApartObjects (transaction : ShownTransaction) (nextRef : ℕ) : Prop where
  refs : (transaction.statements.map (·.ref)).Nodup
  allocated : ∀ object ∈ transaction.statements, object.ref < nextRef

lemma apartObjects_set {transaction : ShownTransaction} {nextRef place : ℕ}
    (h : ApartObjects transaction nextRef) (statement : LoggedStatement) :
    ApartObjects (transaction.withStatements (transaction.statements.set place ⟨nextRef, statement⟩))
      (nextRef + 1) where
  refs := by
    have hfresh : nextRef ∉ transaction.statements.map (·.ref) := by
      intro hmem
      obtain ⟨object, hobject, heq⟩ := List.mem_map.mp hmem
      have hlt := h.allocated object hobject
      omega
    simp only [ShownTransaction.withStatements, List.map_set]
    exact h.refs.set hfresh
  allocated object hobject := by
    rcases List.mem_or_eq_of_mem_set hobject with hold | hnew
    · have hlt := h.allocated object hold
      omega
    · rw [hnew]
      exact Nat.lt_succ_self _

lemma place_of_object {transaction : ShownTransaction} {nextRef place place' : ℕ}
    {object : StatementObject} (h : ApartObjects transaction nextRef)
    (hobject : transaction.statements[place]? = some object)
    (hobject' : transaction.statements[place']? = some object) : place = place' := by
  have hlt := (List.getElem?_eq_some_iff.mp hobject).1
  apply (List.getElem?_inj (by simpa using hlt) h.refs).mp
  rw [List.getElem?_map, List.getElem?_map, hobject, hobject']

section

variable {D R C : Type} {engine : Engine D R} {context : BranchContext C}
  {integrityCheck : Database D → Option String} {start state next : LoopState D R C}

/-- What is kept from the start of the loop to the start of each iteration. -/
structure Kept (start state : LoopState D R C) : Prop where
  statements : state.transaction.statements.map withoutAccepted =
    start.transaction.statements.map withoutAccepted
  stack : state.working.stack = start.working.stack
  apart : ApartObjects state.transaction state.nextRef

/-- How a round ends; a failed attempt leaves the database as it was. -/
inductive RoundEnds (engine : Engine D R) (context : BranchContext C)
    (state : LoopState D R C) : Round D R C → Prop
  | asks {place object warning next} : state.transaction.statements[place]? = some object →
    AsksAt engine context (state.transaction.statements.map (·.statement)) state.working.copies
      place warning →
    warning ∉ object.statement.acceptedReplayWarnings →
    next.transaction.statements = state.transaction.statements.set place
      ⟨state.nextRef, acceptReplayWarning object.statement warning⟩ →
    next.working.stack = state.working.stack →
    ApartObjects next.transaction next.nextRef →
    RoundEnds engine context state (.asks object warning next)
  | stops {issue w} :
    ¬ Breaks engine context (state.transaction.statements.map (·.statement))
      state.working.copies → w.stack = state.working.stack →
    RoundEnds engine context state (.stops issue w)
  | raises {e w} :
    Breaks engine context (state.transaction.statements.map (·.statement))
      state.working.copies → RoundEnds engine context state (.raises e w)
  | applied {w} :
    ¬ Breaks engine context (state.transaction.statements.map (·.statement))
      state.working.copies →
    Executes engine context (state.transaction.statements.map (·.statement))
      state.working.copies w.copies → w.saved = [] →
    RoundEnds engine context state (.applied w)

lemma not_mem_of_asksAt {objects : List StatementObject} {warning : String} :
    ∀ {copies : Copies D R} {place : ℕ} {object : StatementObject},
      objects[place]? = some object →
      AsksAt engine context (objects.map (·.statement)) copies place warning →
      warning ∉ object.statement.acceptedReplayWarnings := by
  induction objects with
  | nil =>
    intro copies place object hobject
    cases hobject
  | cons first rest ih =>
    intro copies place object hobject hasks
    cases place with
    | zero =>
      obtain rfl : first = object := by simpa using hobject
      exact hasks.2
    | succ place =>
      obtain ⟨after, -, hrest⟩ := hasks
      exact ih (by simpa using hobject) hrest

variable (engine context integrityCheck) in
lemma roundEnds_loopRound (hidle : state.working.saved = [])
    (hapart : ApartObjects state.transaction state.nextRef) :
    RoundEnds engine context state (loopRound engine context integrityCheck state) := by
  have hstack : (⟨state.working.copies, []⟩ : Stack String (Copies D R)) =
      state.working.stack := by
    have hsaved : state.working.stack.saved = [] := hidle
    rw [← hsaved]
    rfl
  have hattempt := attempted_branchTransactionReplayIssue engine context
    integrityCheck state.transaction hidle
  unfold loopRound
  generalize branchTransactionReplayIssue engine context integrityCheck state.transaction
    state.working = result at hattempt
  cases hattempt with
  | @asks place object warning w' hobject hasks hundone =>
    have hnot := not_mem_of_asksAt hobject hasks
    have hset := acceptWarningIfStatementStillPresent_eq state.nextRef hapart.refs
      hobject hnot
    simp only [branchReplayWarningIssue, hset]
    exact .asks hobject hasks hnot rfl (hundone.trans hstack) (apartObjects_set hapart _)
  | @stops issue w' hissue hnot hundone =>
    simp only [hissue]
    exact .stops hnot (hundone.trans hstack)
  | raises hbroken => exact .raises hbroken
  | applied hnot hexecutes hsaved => exact .applied hnot hexecutes hsaved

/-- The user's answers end the loop at a transaction that is applied, or at an issue that is
not an acceptable warning. -/
structure Resolves (engine : Engine D R) (context : BranchContext C)
    (integrityCheck : Database D → Option String) (start : LoopState D R C) : Prop where
  /-- Some iteration applies the transaction, all of its statements in order, or stops. -/
  ends : ∃ last, Relation.ReflTransGen (Accepts engine context integrityCheck) start last ∧
    ((∃ w, loopRound engine context integrityCheck last = .applied w ∧
        Executes engine context (start.transaction.statements.map (·.statement))
          start.working.copies w.copies ∧ w.saved = []) ∨
      ∃ issue w, loopRound engine context integrityCheck last = .stops issue w ∧
        w.stack = start.working.stack)
  bounded : ∀ (states : ℕ → LoopState D R C) (n : ℕ), states 0 = start →
    (∀ i < n, Accepts engine context integrityCheck (states i) (states (i + 1))) →
    n ≤ (start.transaction.statements.map fun object =>
      object.statement.replayWarnings.length + 3).sum
  /-- A failed attempt leaves the database, and the statements but for the accepted warnings. -/
  kept : ∀ state, Relation.ReflTransGen (Accepts engine context integrityCheck) start state →
    state.transaction.statements.map withoutAccepted =
      start.transaction.statements.map withoutAccepted ∧
    state.working.stack = start.working.stack
  /-- Every iteration but the last asks about a pair of a statement and a warning. -/
  asks : ∀ state next,
    Relation.ReflTransGen (Accepts engine context integrityCheck) start state →
    Accepts engine context integrityCheck state next →
    ∃ pair, AsksPair engine context integrityCheck state pair next
  grows : ∀ state next,
    Relation.ReflTransGen (Accepts engine context integrityCheck) start state →
    Accepts engine context integrityCheck state next →
    acceptedPairs state.transaction ⊂ acceptedPairs next.transaction
  /-- No pair is asked about twice. -/
  once : ∀ state pair next later next',
    Relation.ReflTransGen (Accepts engine context integrityCheck) start state →
    AsksPair engine context integrityCheck state pair next →
    Relation.ReflTransGen (Accepts engine context integrityCheck) next later →
    ¬ AsksPair engine context integrityCheck later pair next'

lemma Kept.refl (hapart : ApartObjects start.transaction start.nextRef) : Kept start start :=
  ⟨rfl, rfl, hapart⟩

lemma Kept.copies (h : Kept start state) : state.working.copies = start.working.copies :=
  congrArg Stack.current h.stack

lemma Kept.saved (h : Kept start state) : state.working.saved = start.working.saved :=
  congrArg Stack.saved h.stack

lemma Kept.breaks (h : Kept start state) :
    Breaks engine context (state.transaction.statements.map (·.statement))
        state.working.copies ↔
      Breaks engine context (start.transaction.statements.map (·.statement))
        start.working.copies := by
  rw [← breaks_withoutAccepted, ← breaks_withoutAccepted, h.statements, h.copies]

lemma Kept.executes (h : Kept start state) (last : Copies D R) :
    Executes engine context (state.transaction.statements.map (·.statement))
        state.working.copies last ↔
      Executes engine context (start.transaction.statements.map (·.statement))
        start.working.copies last := by
  rw [← executes_withoutAccepted, ← executes_withoutAccepted, h.statements, h.copies]

/-- What an iteration that asks about a warning does. -/
structure Asked (engine : Engine D R) (context : BranchContext C)
    (integrityCheck : Database D → Option String) (state next : LoopState D R C) (place : ℕ)
    (warning : String) : Prop where
  pair : AsksPair engine context integrityCheck state (place, warning) next
  asked : (place, warning) ∉ acceptedPairs state.transaction
  accepted : acceptedPairs next.transaction =
    insert (place, warning) (acceptedPairs state.transaction)
  statements : next.transaction.statements.map withoutAccepted =
    state.transaction.statements.map withoutAccepted
  stack : next.working.stack = state.working.stack
  apart : ApartObjects next.transaction next.nextRef
  fewer : unasked engine context (next.transaction.statements.map (·.statement))
      next.working.copies <
    unasked engine context (state.transaction.statements.map (·.statement))
      state.working.copies

lemma acceptedPairs_set {transaction next : ShownTransaction} {place ref : ℕ}
    {object : StatementObject} {warning : String}
    (hobject : transaction.statements[place]? = some object)
    (hnext : next.statements = transaction.statements.set place
      ⟨ref, acceptReplayWarning object.statement warning⟩) :
    acceptedPairs next = insert (place, warning) (acceptedPairs transaction) := by
  have hlt : place < transaction.statements.length := (List.getElem?_eq_some_iff.mp hobject).1
  ext ⟨place', warning'⟩
  simp only [acceptedPairs, Set.mem_ofPred_eq, Set.mem_insert_iff, Prod.mk.injEq, hnext]
  by_cases hplace : place' = place
  · subst hplace
    simp [List.getElem?_set_self hlt, hobject, acceptReplayWarning]
  · rw [List.getElem?_set_ne (Ne.symm hplace)]
    simp [hplace]

lemma asked_of_accepts (hidle : state.working.saved = [])
    (hapart : ApartObjects state.transaction state.nextRef)
    (h : Accepts engine context integrityCheck state next) :
    ∃ place warning, Asked engine context integrityCheck state next place warning := by
  obtain ⟨object, warning, hround⟩ := h
  have hends := roundEnds_loopRound engine context integrityCheck
    hidle hapart
  rw [hround] at hends
  cases hends with
  | @asks place _ _ _ hobject hasks hnot hset hstack hnext =>
    refine ⟨place, warning, ⟨object, hobject, hround⟩, ?_, acceptedPairs_set hobject hset, ?_,
      hstack, hnext, ?_⟩
    · rintro ⟨object', hobject', haccepted⟩
      rw [hobject] at hobject'
      cases hobject'
      exact hnot haccepted
    · have hsame : (state.transaction.statements.map withoutAccepted)[place]? =
          some (withoutAccepted object) := by simp [hobject]
      obtain ⟨hlt, hget⟩ := List.getElem?_eq_some_iff.mp hsame
      rw [hset, List.map_set, withoutAccepted_accept, ← hget, List.set_getElem_self]
    · have hcopies : next.working.copies = state.working.copies := congrArg Stack.current hstack
      rw [hset, hcopies]
      exact unasked_set hobject hasks

lemma Kept.step (h : Kept start state) (hidle : start.working.saved = [])
    (hstep : Accepts engine context integrityCheck state next) : Kept start next := by
  obtain ⟨place, warning, hasked⟩ := asked_of_accepts (h.saved.trans hidle) h.apart hstep
  exact ⟨hasked.statements.trans h.statements, hasked.stack.trans h.stack, hasked.apart⟩

lemma kept_of_reaches (hidle : start.working.saved = [])
    (hapart : ApartObjects start.transaction start.nextRef)
    (h : Relation.ReflTransGen (Accepts engine context integrityCheck) start state) :
    Kept start state := by
  induction h with
  | refl => exact Kept.refl hapart
  | tail hreach hstep ih => exact ih.step hidle hstep

lemma acceptedPairs_mono (hidle : start.working.saved = [])
    (hapart : ApartObjects start.transaction start.nextRef)
    (h : Relation.ReflTransGen (Accepts engine context integrityCheck) start state) :
    acceptedPairs start.transaction ⊆ acceptedPairs state.transaction := by
  induction h with
  | refl => exact Set.Subset.rfl
  | tail hreach hstep ih =>
    have hkept := kept_of_reaches hidle hapart hreach
    obtain ⟨place, warning, hasked⟩ := asked_of_accepts (hkept.saved.trans hidle) hkept.apart hstep
    rw [hasked.accepted]
    exact ih.trans (Set.subset_insert _ _)

/-- Each accepted warning leaves fewer, so some iteration does not ask. -/
lemma exists_last (hidle : start.working.saved = [])
    (hapart : ApartObjects start.transaction start.nextRef) :
    ∃ last, Relation.ReflTransGen (Accepts engine context integrityCheck) start last ∧
      ∀ next, ¬ Accepts engine context integrityCheck last next := by
  induction hcount : unasked engine context (start.transaction.statements.map (·.statement))
    start.working.copies using Nat.strong_induction_on generalizing start with
  | _ count ih =>
    by_cases hasks : ∃ next, Accepts engine context integrityCheck start next
    · obtain ⟨next, hnext⟩ := hasks
      obtain ⟨place, warning, hasked⟩ := asked_of_accepts hidle hapart hnext
      have hsaved : next.working.saved = [] := (congrArg Stack.saved hasked.stack).trans hidle
      obtain ⟨last, hreach, hlast⟩ := ih _ (hcount ▸ hasked.fewer) hsaved hasked.apart rfl
      exact ⟨last, hreach.head hnext, hlast⟩
    · exact ⟨start, .refl, fun next hnext => hasks ⟨next, hnext⟩⟩

lemma reaches_of_chain {states : ℕ → LoopState D R C} {n : ℕ}
    (hstep : ∀ i < n, Accepts engine context integrityCheck (states i) (states (i + 1))) :
    Relation.ReflTransGen (Accepts engine context integrityCheck) (states 0) (states n) := by
  induction n with
  | zero => exact .refl
  | succ n ih => exact (ih fun i hi => hstep i (by omega)).tail (hstep n (by omega))

/-- A chain of iterations is no longer than there are warnings. -/
lemma length_add_unasked_le {states : ℕ → LoopState D R C} {n : ℕ}
    (hidle : (states 0).working.saved = [])
    (hapart : ApartObjects (states 0).transaction (states 0).nextRef)
    (hstep : ∀ i < n, Accepts engine context integrityCheck (states i) (states (i + 1))) :
    n + unasked engine context ((states n).transaction.statements.map (·.statement))
        (states n).working.copies ≤
      unasked engine context ((states 0).transaction.statements.map (·.statement))
        (states 0).working.copies := by
  induction n with
  | zero => omega
  | succ n ih =>
    have hbefore : ∀ i < n, Accepts engine context integrityCheck (states i) (states (i + 1)) :=
      fun i hi => hstep i (by omega)
    have hkept := kept_of_reaches hidle hapart (reaches_of_chain hbefore)
    obtain ⟨place, warning, hasked⟩ :=
      asked_of_accepts (hkept.saved.trans hidle) hkept.apart (hstep n (by omega))
    have hcount := ih hbefore
    have hfewer := hasked.fewer
    omega

lemma once_of_asked (hidle : start.working.saved = [])
    (hapart : ApartObjects start.transaction start.nextRef) {pair : ℕ × String}
    {later next' : LoopState D R C}
    (hreach : Relation.ReflTransGen (Accepts engine context integrityCheck) start state)
    (hpair : AsksPair engine context integrityCheck state pair next)
    (hlater : Relation.ReflTransGen (Accepts engine context integrityCheck) next later) :
    ¬ AsksPair engine context integrityCheck later pair next' := by
  obtain ⟨object, hobject, hround⟩ := hpair
  have hkept := kept_of_reaches hidle hapart hreach
  have hstep : Accepts engine context integrityCheck state next := ⟨object, pair.2, hround⟩
  have hkeptNext := hkept.step hidle hstep
  have hends := roundEnds_loopRound engine context integrityCheck
    (hkept.saved.trans hidle) hkept.apart
  rintro ⟨object', hobject', hround'⟩
  have hkeptLater := kept_of_reaches (hkeptNext.saved.trans hidle) hkeptNext.apart hlater
  have hmono := acceptedPairs_mono (hkeptNext.saved.trans hidle) hkeptNext.apart hlater
  have hends' := roundEnds_loopRound engine context integrityCheck
    ((hkeptLater.saved.trans hkeptNext.saved).trans hidle) hkeptLater.apart
  rw [hround] at hends
  rw [hround'] at hends'
  cases hends with
  | @asks place _ _ _ hfound hasks hnot hset _ _ =>
    have hplace : place = pair.1 := by
      have hlt := (List.getElem?_eq_some_iff.mp hobject).1
      exact place_of_object hkept.apart hfound hobject
    cases hends' with
    | @asks place' _ _ _ hfound' hasks' hnot' _ _ _ =>
      have hplace' : place' = pair.1 := place_of_object hkeptLater.apart hfound' hobject'
      have haccepted : pair ∈ acceptedPairs next.transaction := by
        rw [acceptedPairs_set hfound hset, hplace]
        exact Set.mem_insert _ _
      obtain ⟨object'', hobject'', hwarning⟩ := hmono haccepted
      rw [hobject'] at hobject''
      cases hobject''
      exact hnot' hwarning

/-- In a loop that ends with the transaction applied or at an issue, nothing broke the
savepoint of an attempt. -/
lemma not_resolves_of_breaks (hidle : start.working.saved = [])
    (hapart : ApartObjects start.transaction start.nextRef)
    (hbreaks : Breaks engine context (start.transaction.statements.map (·.statement))
      start.working.copies) :
    ¬ Resolves engine context integrityCheck start := by
  intro h
  obtain ⟨last, hreach, hend⟩ := h.ends
  have hkept := kept_of_reaches hidle hapart hreach
  have hends := roundEnds_loopRound engine context integrityCheck
    (hkept.saved.trans hidle) hkept.apart
  rcases hend with ⟨w, hround, -⟩ | ⟨issue, w, hround, -⟩
  · rw [hround] at hends
    cases hends with
    | applied hnot => exact hnot (hkept.breaks.mpr hbreaks)
  · rw [hround] at hends
    cases hends with
    | stops hnot => exact hnot (hkept.breaks.mpr hbreaks)

lemma ends_of_not_breaks (hidle : start.working.saved = [])
    (hapart : ApartObjects start.transaction start.nextRef)
    (hbreaks : ¬ Breaks engine context (start.transaction.statements.map (·.statement))
      start.working.copies) :
    ∃ last, Relation.ReflTransGen (Accepts engine context integrityCheck) start last ∧
      ((∃ w, loopRound engine context integrityCheck last = .applied w ∧
          Executes engine context (start.transaction.statements.map (·.statement))
            start.working.copies w.copies ∧ w.saved = []) ∨
        ∃ issue w, loopRound engine context integrityCheck last = .stops issue w ∧
          w.stack = start.working.stack) := by
  obtain ⟨last, hreach, hlast⟩ := exists_last
    hidle hapart
  refine ⟨last, hreach, ?_⟩
  have hkept := kept_of_reaches hidle hapart hreach
  have hends := roundEnds_loopRound engine context integrityCheck
    (hkept.saved.trans hidle) hkept.apart
  cases hround : loopRound engine context integrityCheck last with
  | asks object warning next => exact absurd ⟨object, warning, hround⟩ (hlast next)
  | raises e w =>
    rw [hround] at hends
    cases hends with
    | raises hbroken => exact absurd (hkept.breaks.mp hbroken) hbreaks
  | stops issue w =>
    rw [hround] at hends
    cases hends with
    | stops hnot hstack => exact .inr ⟨issue, w, rfl, hstack.trans hkept.stack⟩
  | applied w =>
    rw [hround] at hends
    cases hends with
    | applied hnot hexecutes hsaved =>
      exact .inl ⟨w, rfl, (hkept.executes w.copies).mp hexecutes, hsaved⟩

/-- The loop resolves a transaction exactly when no statement that it gets to breaks the
savepoint of the attempt. -/
theorem resolves_iff (hidle : start.working.saved = [])
    (hapart : ApartObjects start.transaction start.nextRef) :
    Resolves engine context integrityCheck start ↔
      ¬ Breaks engine context (start.transaction.statements.map (·.statement))
        start.working.copies := by
  constructor
  · intro h hbreaks
    exact not_resolves_of_breaks hidle hapart hbreaks h
  · intro hbreaks
    refine ⟨ends_of_not_breaks hidle hapart hbreaks, ?_, ?_, ?_, ?_, ?_⟩
    · rintro states n rfl hstep
      have hcount := length_add_unasked_le hidle hapart hstep
      have hbound := unasked_le engine context
        ((states 0).transaction.statements.map (·.statement)) (states 0).working.copies
      rw [List.map_map] at hbound
      exact (Nat.le_add_right _ _).trans (hcount.trans hbound)
    · intro state hreach
      have hkept := kept_of_reaches hidle hapart hreach
      exact ⟨hkept.statements, hkept.stack⟩
    · intro state next hreach hstep
      have hkept := kept_of_reaches hidle hapart hreach
      obtain ⟨place, warning, hasked⟩ :=
        asked_of_accepts (hkept.saved.trans hidle) hkept.apart hstep
      exact ⟨(place, warning), hasked.pair⟩
    · intro state next hreach hstep
      have hkept := kept_of_reaches hidle hapart hreach
      obtain ⟨place, warning, hasked⟩ :=
        asked_of_accepts (hkept.saved.trans hidle) hkept.apart hstep
      rw [hasked.accepted]
      exact Set.ssubset_insert hasked.asked
    · intro state pair next later next' hreach hpair hlater
      exact once_of_asked hidle hapart hreach hpair hlater

end

/-- A table with the key column `id INTEGER PRIMARY KEY ON CONFLICT ROLLBACK`, by its keys. -/
def rollbackEngine : Engine (List ℕ) Unit where
  execute _ copies :=
    if 1 ∈ copies.main.tables then .rollsBack ⟨true, "UNIQUE constraint failed: t.id"⟩
    else .done { copies with main := { copies.main with tables := 1 :: copies.main.tables } }
  query _ _ := .ok []
  foreignKeyCheck _ := .ok none
  logError _ := none
  commitError _ _ := none
  commitError_self _ := rfl

def plainContext : BranchContext Unit where
  characters := ConflictSyntax.asciiCharacters
  parseStatementMetadata _ := .error "Invalid expression"
  affectedPrimaryKeySelect _ caches := (none, caches)
  isUpdateFromStatement _ := false
  primaryKeyColumns _ := []

def insertMetadata : StatementMetadata :=
  SqlMetadata.parseStatementMetadata none ⟨"INSERT INTO t VALUES (1)", none, false⟩
    ⟨.insert, some "t", [], none, ∅, by simp⟩

def insertReader : SqlReader := ⟨id, fun _ => .ok insertMetadata, fun _ => insertMetadata⟩

/-- An INSERT whose values the wrapper could not make deterministic. -/
def unsafeInsert : StatementObject :=
  ⟨0, makeLoggedStatement insertReader .ours 0 1 "2026-01-01"
    ⟨"INSERT INTO t VALUES (1)", "INSERT INTO t VALUES (1)", false,
      some "nondeterministic expression cannot be safely materialized"⟩⟩

def insertState (keys : List ℕ) : LoopState (List ℕ) Unit Unit where
  transaction := ShownTransaction.withStatements
    ⟨.ours, 0, 1, "2026-01-01", [], SqlMetadata.transactionMetadata []⟩ [unsafeInsert]
  nextRef := 1
  working := ⟨.new ⟨⟨keys, ⟨0, [], []⟩⟩, ⟨keys, ⟨0, [], []⟩⟩, fun _ => none⟩, 0, (), ⟨none, none⟩⟩

lemma apartObjects_insertState (keys : List ℕ) :
    ApartObjects (insertState keys).transaction (insertState keys).nextRef :=
  ⟨List.nodup_singleton _, by
    intro object hobject
    rw [List.mem_singleton.mp hobject]
    exact Nat.zero_lt_one⟩

lemma not_blocked_unsafeInsert : ¬ Blocked unsafeInsert.statement := by
  rintro ⟨-, hreason⟩
  have hsome : (replayWarningReason unsafeInsert.statement).isSome = true := by decide +kernel
  rw [hreason] at hsome
  cases hsome

theorem resolves_unsafeInsert :
    Resolves rollbackEngine plainContext (fun _ => none) (insertState []) := by
  refine (resolves_iff rfl (apartObjects_insertState [])).mpr ?_
  rintro (⟨-, hraises | ⟨warning, -, ⟨error, hrolls⟩ | ⟨message, hrefuses⟩⟩⟩ |
    ⟨after, -, hbreaks⟩)
  · cases hraises
  · cases hrolls
  · cases hrefuses
  · exact hbreaks

/-- A conflict on such a key rolls back the savepoint that the attempt goes back to: the loop
raises after the warning was accepted. -/
theorem rollback_not_resolved :
    ¬ Resolves rollbackEngine plainContext (fun _ => none) (insertState [1]) := by
  apply not_resolves_of_breaks rfl (apartObjects_insertState [1])
  exact .inl ⟨not_blocked_unsafeInsert, .inr ⟨none, rfl, .inl ⟨_, rfl⟩⟩⟩

end SqliteReconcile.BranchWarningLoop
