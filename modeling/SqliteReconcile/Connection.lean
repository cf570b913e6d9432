import SqliteReconcile.Models
import SqliteReconcile.Programs
import SqliteReconcile.Wrapper

/-!
# The working connection

The merge works on one connection with two copies of the base database, `main` and
`control`, and temporary probe tables. What SQLite answers is a parameter; the savepoint
stack and the merge log are modelled.
-/
namespace SqliteReconcile.Connection
open Programs Savepoints Wrapper

/-- A `sqlite3.Error`; `integrity` tells the `IntegrityError`s apart. -/
structure SqliteError where
  integrity : Bool
  message : String
  deriving DecidableEq

inductive Exn
  | sqlite (error : SqliteError)
  | other (message : String)
  deriving DecidableEq

/-- The two log tables of a database: transaction ids, the last id that was ever given, and
the log rows with the transaction they belong to. -/
structure MergeLog where
  lastTransactionId : ℕ
  transactions : List ℕ
  rows : List (ℕ × LogEntry)
  deriving DecidableEq

namespace MergeLog

def insertTransaction (log : MergeLog) : MergeLog :=
  { log with
    lastTransactionId := log.lastTransactionId + 1
    transactions := log.transactions ++ [log.lastTransactionId + 1] }

def insertRow (log : MergeLog) (row : ℕ × LogEntry) : MergeLog :=
  { log with rows := log.rows ++ [row] }

def insertRows (log : MergeLog) (transactionId : ℕ) (entries : List LogEntry) : MergeLog :=
  { log with rows := log.rows ++ entries.map (transactionId, ·) }

def append (log : MergeLog) (entries : List LogEntry) : MergeLog :=
  log.insertTransaction.insertRows (log.lastTransactionId + 1) entries

/-- A log row whose transaction is missing violates the foreign key of the log table. -/
def foreignKeyCheck (log : MergeLog) : Option String :=
  (log.rows.find? fun row => row.1 ∉ log.transactions).map fun row =>
    "_sqlite_merge_log, " ++ toString row.1

lemma foreignKeyCheck_append {log : MergeLog} (h : log.foreignKeyCheck = none)
    (entries : List LogEntry) : (log.append entries).foreignKeyCheck = none := by
  simp only [foreignKeyCheck, Option.map_eq_none_iff, List.find?_eq_none, decide_eq_true_eq,
    Decidable.not_not] at h ⊢
  intro row hrow
  simp only [append, insertRows, insertTransaction] at hrow ⊢
  rcases List.mem_append.mp hrow with hrow | hrow
  · exact List.mem_append_left _ (h row hrow)
  · obtain ⟨entry, -, rfl⟩ := List.mem_map.mp hrow
    simp

end MergeLog

structure Database (D : Type) where
  tables : D
  log : MergeLog
  deriving DecidableEq

/-- What a savepoint saves: both copies, and the rows of the temporary tables. -/
structure Copies (D R : Type) where
  main : Database D
  control : Database D
  temp : String → Option (List R)

def Copies.withLog {D R : Type} (copies : Copies D R) (log : MergeLog) : Copies D R :=
  { copies with main := { copies.main with log := log } }

/-- How SQLite answers a statement. A failing statement may keep the rows it had changed
(OR FAIL), or roll the whole transaction back (OR ROLLBACK). Some texts do not reach SQLite:
two statements in one text raise a `sqlite3.Warning`. -/
inductive Answer (σ : Type)
  | done (after : σ)
  | fails (error : SqliteError) (after : σ)
  | rollsBack (error : SqliteError)
  | refuses (message : String)

/-- SQLite, as far as it is not modelled here. -/
structure Engine (D R : Type) where
  execute : String → Copies D R → Answer (Copies D R)
  query : String → Copies D R → Except SqliteError (List R)
  /-- The first row of `PRAGMA foreign_key_check` over the user tables, as text. -/
  foreignKeyCheck : D → Except SqliteError (Option String)
  /-- An INSERT into a log table can fail, as on a full disk. -/
  logError : Copies D R → Option SqliteError
  /-- Why SQLite refuses to commit the second state over the first. -/
  commitError : Copies D R → Copies D R → Option SqliteError
  commitError_self : ∀ copies, commitError copies copies = none

/-- A temporary table with the keys that one statement of the current transaction writes. -/
structure WriteProbeTable where
  targetTable : String
  statementIndex : ℕ
  name : String
  deriving DecidableEq

/-- The fields that the execution scanner changes. -/
structure ScannerFields where
  savepoint : Option String
  currentWriteProbeTables : Option (List WriteProbeTable)
  deriving DecidableEq

/-- The connection, and the Python state beside it: how many uuids were drawn, the caches
of the context, and the scanner. -/
structure Working (D R C : Type) where
  stack : Stack String (Copies D R)
  drawn : ℕ
  caches : C
  scanner : ScannerFields

namespace Working

variable {D R C : Type}

def copies (w : Working D R C) : Copies D R := w.stack.current

def saved (w : Working D R C) : List (String × Copies D R) := w.stack.saved

def withCopies (w : Working D R C) (copies : Copies D R) : Working D R C :=
  { w with stack := w.stack.set copies }

@[simp] lemma copies_withCopies (w : Working D R C) (copies : Copies D R) :
    (w.withCopies copies).copies = copies := rfl

end Working

abbrev Program (D R C : Type) := EStateM Exn (Working D R C)

section Programs

variable {D R C : Type}

/-- `try: ... except sqlite3.Error`. -/
def exceptSqlite {α : Type} (body : Program D R C α) (handler : SqliteError → Program D R C α) :
    Program D R C α :=
  catching body fun
    | .sqlite error => handler error
    | .other message => throw (.other message)

/-- A name that was never used before, as `uuid.uuid4().hex` gives one. -/
def drawName (stem : String) : Program D R C String := fun w =>
  .ok (stem ++ toString w.drawn) { w with drawn := w.drawn + 1 }

def savepoint (name : String) : Program D R C Unit :=
  modify fun w => { w with stack := w.stack.save name }

def noSuchSavepoint (name : String) : Exn := .sqlite ⟨false, "no such savepoint: " ++ name⟩

def rollbackTo (name : String) : Program D R C Unit := fun w =>
  match w.stack.rollbackTo name with
  | none => .error (noSuchSavepoint name) w
  | some stack => .ok () { w with stack := stack }

variable (engine : Engine D R)

/-- Releasing the outermost savepoint commits. -/
def release (name : String) : Program D R C Unit := fun w =>
  match w.stack.release name with
  | none => .error (noSuchSavepoint name) w
  | some stack =>
    match stack.saved, w.saved.getLast? with
    | [], some (_, before) =>
      match engine.commitError before w.copies with
      | some error => .error (.sqlite error) w
      | none => .ok () { w with stack := stack }
    | _, _ => .ok () { w with stack := stack }

def rollbackSavepoint (name : String) : Program D R C Unit :=
  withCleanup (rollbackTo name) (release engine name)

def execute (sql : String) : Program D R C (Option SqliteError) := fun w =>
  match engine.execute sql w.copies with
  | .done after => .ok none (w.withCopies after)
  | .fails error after => .ok (some error) (w.withCopies after)
  | .rollsBack error =>
    match w.saved.getLast? with
    | none => .ok (some error) w
    | some (_, before) => .ok (some error) { w with stack := .new before }
  | .refuses message => .error (.other message) w

def query (sql : String) : Program D R C (List R) := fun w =>
  match engine.query sql w.copies with
  | .ok rows => .ok rows w
  | .error error => .error (.sqlite error) w

/-- `CREATE TEMP TABLE name AS SELECT * FROM (probe)`. -/
def createProbeResultTable (name probe : String) : Program D R C Unit := fun w =>
  match w.copies.temp name with
  | some _ => .error (.sqlite ⟨false, "table " ++ name ++ " already exists"⟩) w
  | none =>
    match engine.query probe w.copies with
    | .error error => .error (.sqlite error) w
    | .ok rows =>
      .ok () (w.withCopies
        { w.copies with temp := Function.update w.copies.temp name (some rows) })

def dropTable (name : String) : Program D R C Unit :=
  modify fun w => w.withCopies
    { w.copies with temp := Function.update w.copies.temp name none }

/-- The schemas that `PRAGMA foreign_key_check` is asked about. -/
def databaseOf (w : Working D R C) : Option String → Database D
  | none => w.copies.main
  | some _ => w.copies.control

/-- The first violation in one copy, its log tables included. -/
def Database.foreignKeyCheck (database : Database D) : Except SqliteError (Option String) :=
  match engine.foreignKeyCheck database.tables with
  | .ok none => .ok database.log.foreignKeyCheck
  | answer => answer

def foreignKeyCheckError (schema : Option String) : Program D R C (Option String) := fun w =>
  match (databaseOf w schema).foreignKeyCheck engine with
  | .error error => .error (.sqlite error) w
  | .ok row => .ok (row.map ("foreign_key_check failed: " ++ ·)) w

/-- An INSERT into a log table of main. -/
def insertLog (insert : MergeLog → MergeLog) : Program D R C Unit := fun w =>
  match engine.logError w.copies with
  | some error => .error (.sqlite error) w
  | none => .ok () (w.withCopies (w.copies.withLog (insert w.copies.main.log)))

end Programs

section Scopes

variable {D R C : Type} {engine : Engine D R} {w w' : Working D R C} {α : Type}

/-- Some statement can roll the whole transaction back. -/
def RollsBack (engine : Engine D R) : Prop :=
  ∃ sql copies error, engine.execute sql copies = .rollsBack error

/-- A statement rolled the whole transaction back. -/
structure Lost (engine : Engine D R) (w w' : Working D R C) : Prop where
  rollsBack : RollsBack engine
  saved : w'.saved = []
  scanner : w'.scanner = w.scanner

structure Framed (w w' : Working D R C) : Prop where
  saved : w'.saved = w.saved
  scanner : w'.scanner = w.scanner

/-- Both copies, the log, the probe tables and the savepoints are as they were. -/
structure Restored (w w' : Working D R C) : Prop where
  stack : w'.stack = w.stack
  scanner : w'.scanner = w.scanner

def Within (engine : Engine D R) (w w' : Working D R C) : Prop :=
  Framed w w' ∨ Lost engine w w'

def Restores (engine : Engine D R) (w w' : Working D R C) : Prop :=
  Restored w w' ∨ Lost engine w w'

/-- A program that restores everything when it returns. -/
structure Scoped (engine : Engine D R) (x : Program D R C α) : Prop where
  ok : ∀ {w a w'}, x w = .ok a w' → Restored w w'
  error : ∀ {w e w'}, x w = .error e w' → Restores engine w w'

lemma framed_of_saved (hsaved : w'.saved = w.saved) (hscanner : w'.scanner = w.scanner) :
    Within engine w w' :=
  .inl ⟨hsaved, hscanner⟩

instance : Std.Refl (Within engine (C := C)) := ⟨fun _ => .inl ⟨rfl, rfl⟩⟩

lemma Within.trans {w'' : Working D R C} (h : Within engine w w') (h' : Within engine w' w'') :
    Within engine w w'' := by
  rcases h' with hframed' | hlost'
  · rcases h with hframed | hlost
    · exact .inl ⟨hframed'.saved.trans hframed.saved, hframed'.scanner.trans hframed.scanner⟩
    · exact .inr ⟨hlost.rollsBack, hframed'.saved.trans hlost.saved,
        hframed'.scanner.trans hlost.scanner⟩
  · have hscanner : w'.scanner = w.scanner := by
      rcases h with hframed | hlost
      · exact hframed.scanner
      · exact hlost.scanner
    exact .inr ⟨hlost'.rollsBack, hlost'.saved, hlost'.scanner.trans hscanner⟩

instance : IsTrans (Working D R C) (Within engine) := ⟨fun _ _ _ => Within.trans⟩

lemma Restored.refl (w : Working D R C) : Restored w w := ⟨rfl, rfl⟩

lemma Restored.trans {w'' : Working D R C} (h : Restored w w') (h' : Restored w' w'') :
    Restored w w'' :=
  ⟨h'.stack.trans h.stack, h'.scanner.trans h.scanner⟩

lemma Restored.framed (h : Restored w w') : Framed w w' :=
  ⟨congrArg Stack.saved h.stack, h.scanner⟩

lemma Restores.within (h : Restores engine w w') : Within engine w w' := by
  rcases h with hrestored | hlost
  · exact .inl hrestored.framed
  · exact .inr hlost

lemma Scoped.moves {x : Program D R C α} (h : Scoped engine x) : Moves (Within engine) x := by
  intro w
  cases hx : x w with
  | ok a w' => exact .inl (h.ok hx).framed
  | error e w' => exact (h.error hx).within

lemma scoped_pure (a : α) : Scoped engine (pure a : Program D R C α) where
  ok h := by
    cases h
    exact .refl _
  error h := by cases h

lemma scoped_throw (e : Exn) : Scoped engine (throw e : Program D R C α) where
  ok h := by cases h
  error h := by
    cases h
    exact .inl (.refl _)

lemma Scoped.bind {β : Type} {x : Program D R C α} {f : α → Program D R C β}
    (hx : Scoped engine x) (hf : ∀ a, Scoped engine (f a)) : Scoped engine (x >>= f) where
  ok h := by
    obtain ⟨a, w', hfirst, hsecond⟩ := ok_of_bind h
    exact (hx.ok hfirst).trans ((hf a).ok hsecond)
  error h := by
    rcases error_of_bind h with hfirst | ⟨a, w', hfirst, hsecond⟩
    · exact hx.error hfirst
    · have hrestored := hx.ok hfirst
      rcases (hf a).error hsecond with hrestored' | hlost
      · exact .inl (hrestored.trans hrestored')
      · exact .inr ⟨hlost.rollsBack, hlost.saved, hlost.scanner.trans hrestored.scanner⟩

lemma innermost_top {stack : Stack String (Copies D R)} {name : String} {before : Copies D R}
    {outer : List (String × Copies D R)} (h : stack.saved = (name, before) :: outer) :
    stack.innermost name = (name, before) :: outer := by
  simp [Stack.innermost, h]

lemma rollbackSavepoint_top {name : String} {before : Copies D R}
    {outer : List (String × Copies D R)} (h : w.saved = (name, before) :: outer) :
    rollbackSavepoint engine name w = .ok () { w with stack := ⟨before, outer⟩ } := by
  have hroll : rollbackTo name w =
      .ok () { w with stack := ⟨before, (name, before) :: outer⟩ } := by
    simp only [rollbackTo, Stack.rollbackTo, innermost_top h]
  have hrelease : release engine name
      { w with stack := ⟨before, (name, before) :: outer⟩ } =
      .ok () { w with stack := ⟨before, outer⟩ } := by
    have htop : Stack.release (⟨before, (name, before) :: outer⟩ : Stack String (Copies D R))
        name = some ⟨before, outer⟩ := by
      simp [Stack.release, Stack.innermost]
    cases outer with
    | nil => simp [release, htop, Working.saved, Working.copies, engine.commitError_self]
    | cons entry rest => simp [release, htop]
  unfold rollbackSavepoint Programs.withCleanup
  rw [hroll]
  simp only [hrelease]

lemma rollbackSavepoint_nil {name : String} (h : w.saved = []) :
    rollbackSavepoint engine name w = .error (noSuchSavepoint name) w := by
  have hinner : w.stack.innermost name = [] := by
    have hsaved : w.stack.saved = [] := h
    simp [Stack.innermost, hsaved]
  have hroll : rollbackTo name w = .error (noSuchSavepoint name) w := by
    simp only [rollbackTo, Stack.rollbackTo, hinner]
  have hrelease : release engine name w = .error (noSuchSavepoint name) w := by
    simp only [release, Stack.release, hinner]
  unfold rollbackSavepoint Programs.withCleanup
  rw [hroll]
  simp only [hrelease]

lemma release_cases (name : String) (w : Working D R C) :
    (∃ e, release engine name w = .error e w) ∨
      ∃ stack, w.stack.release name = some stack ∧
        release engine name w = .ok () { w with stack := stack } := by
  unfold release
  cases hstack : w.stack.release name with
  | none => exact .inl ⟨_, rfl⟩
  | some stack =>
    cases hsaved : stack.saved with
    | cons entry rest => exact .inr ⟨stack, rfl, by simp only [hsaved]⟩
    | nil =>
      cases hlast : w.saved.getLast? with
      | none => exact .inr ⟨stack, rfl, by simp only [hsaved]⟩
      | some last =>
        cases hcommit : engine.commitError last.2 w.copies with
        | some error => exact .inl ⟨.sqlite error, by simp only [hsaved, hcommit]⟩
        | none => exact .inr ⟨stack, rfl, by simp only [hsaved, hcommit]⟩

/-- Open a savepoint with a new name, which `body` closes. -/
def inSavepoint (stem : String) (body : String → Program D R C α) : Program D R C α := do
  let name ← drawName stem
  savepoint name
  body name

def Working.nextName (w : Working D R C) (stem : String) : String := stem ++ toString w.drawn

def Working.enter (w : Working D R C) (stem : String) : Working D R C :=
  { w with
    stack := w.stack.save (w.nextName stem)
    drawn := w.drawn + 1 }

lemma inSavepoint_apply (stem : String) (body : String → Program D R C α) (w : Working D R C) :
    inSavepoint stem body w = body (w.nextName stem) (w.enter stem) :=
  rfl

/-- Whatever a program did inside a savepoint, rolling back to it restores everything. -/
lemma restores_rollback {stem : String} (h : Within engine (w.enter stem) w') :
    (∃ w'', rollbackSavepoint engine (w.nextName stem) w' = .ok () w'' ∧ Restored w w'') ∨
      ∃ e, rollbackSavepoint engine (w.nextName stem) w' = .error e w' ∧ Lost engine w w' := by
  rcases h with hframed | hlost
  · exact .inl ⟨_, rollbackSavepoint_top hframed.saved, rfl, hframed.scanner⟩
  · exact .inr ⟨_, rollbackSavepoint_nil hlost.saved, hlost.rollsBack, hlost.saved,
      hlost.scanner⟩

lemma framed_release {stem : String} (h : Within engine (w.enter stem) w') :
    (∃ e, release engine (w.nextName stem) w' = .error e w') ∨
      ∃ w'', release engine (w.nextName stem) w' = .ok () w'' ∧ Framed w w'' ∧
        w''.copies = w'.copies ∧ w''.caches = w'.caches := by
  rcases @release_cases D R C engine (w.nextName stem) w' with herror | ⟨stack, hstack, hok⟩
  · exact .inl herror
  · obtain ⟨head, hinner, hcurrent⟩ := Stack.release_eq_some hstack
    rcases h with hframed | hlost
    · rw [innermost_top hframed.saved] at hinner
      have hsaved : stack.saved = w.saved := (List.cons.inj hinner).2.symm
      exact .inr ⟨_, hok, ⟨hsaved, hframed.scanner⟩, hcurrent, rfl⟩
    · have hnil : w'.stack.saved = [] := hlost.saved
      rw [Stack.innermost, hnil] at hinner
      cases hinner

/-! What the single calls do. -/

lemma moves_drawName (stem : String) : Moves (Within engine) (drawName stem : Program D R C _) :=
  fun _ => framed_of_saved rfl rfl

lemma moves_execute (sql : String) :
    Moves (Within engine) (execute engine sql : Program D R C _) := by
  intro w
  unfold execute
  cases hanswer : engine.execute sql w.copies with
  | done after => exact framed_of_saved rfl rfl
  | fails error after => exact framed_of_saved rfl rfl
  | refuses message => exact framed_of_saved rfl rfl
  | rollsBack error =>
    have hrolls : RollsBack engine := ⟨sql, w.copies, error, hanswer⟩
    cases hlast : w.saved.getLast? with
    | none => exact framed_of_saved rfl rfl
    | some entry => exact .inr ⟨hrolls, rfl, rfl⟩

lemma moves_query (sql : String) :
    Moves (Within engine) (query engine sql : Program D R C _) := by
  intro w
  unfold query
  cases engine.query sql w.copies <;> exact framed_of_saved rfl rfl

lemma moves_createProbeResultTable (name probe : String) :
    Moves (Within engine) (createProbeResultTable engine name probe : Program D R C _) := by
  intro w
  unfold createProbeResultTable
  cases w.copies.temp name with
  | some rows => exact framed_of_saved rfl rfl
  | none => cases engine.query probe w.copies <;> exact framed_of_saved rfl rfl

lemma ok_of_exceptSqlite {body : Program D R C α} {handler : SqliteError → Program D R C α}
    {a : α} (h : exceptSqlite body handler w = .ok a w') :
    body w = .ok a w' ∨
      ∃ error w'', body w = .error (.sqlite error) w'' ∧ handler error w'' = .ok a w' := by
  unfold exceptSqlite catching at h
  cases hbody : body w with
  | ok b w'' =>
    rw [hbody] at h
    exact .inl h
  | error e w'' =>
    rw [hbody] at h
    cases e with
    | sqlite error => exact .inr ⟨error, w'', rfl, h⟩
    | other message => cases h

lemma moves_exceptSqlite {body : Program D R C α} {handler : SqliteError → Program D R C α}
    (hbody : Moves (Within engine) body) (hhandler : ∀ e, Moves (Within engine) (handler e)) :
    Moves (Within engine) (exceptSqlite body handler) := by
  apply hbody.catching
  intro e
  cases e with
  | sqlite error => exact hhandler error
  | other message => exact moves_throw _

lemma moves_dropTable (name : String) :
    Moves (Within engine) (dropTable name : Program D R C _) := fun _ => framed_of_saved rfl rfl

lemma moves_foreignKeyCheckError (schema : Option String) :
    Moves (Within engine) (foreignKeyCheckError engine schema : Program D R C _) := by
  intro w
  unfold foreignKeyCheckError
  cases (databaseOf w schema).foreignKeyCheck engine <;> exact framed_of_saved rfl rfl

lemma moves_insertLog (insert : MergeLog → MergeLog) :
    Moves (Within engine) (insertLog engine insert : Program D R C _) := by
  intro w
  unfold insertLog
  cases engine.logError w.copies <;> exact framed_of_saved rfl rfl

/-- Run a program inside a savepoint and undo it. -/
def discarding (engine : Engine D R) (stem : String) (body : Program D R C α) :
    Program D R C α :=
  inSavepoint stem fun name => withCleanup body (rollbackSavepoint engine name)

lemma discarding_cases {stem : String} {body : Program D R C α}
    (h : Moves (Within engine) body) (w : Working D R C) :
    (∃ a w', discarding engine stem body w = .ok a w' ∧ Restored w w') ∨
      ∃ e w', discarding engine stem body w = .error e w' ∧ Restores engine w w' := by
  rw [discarding, inSavepoint_apply]
  unfold Programs.withCleanup
  cases hx : body (w.enter stem) with
  | ok a w' =>
    rcases restores_rollback (h.ok hx) with ⟨w'', hclean, hrestored⟩ | ⟨e, hclean, hlost⟩
    · exact .inl ⟨a, w'', by simp only [hclean], hrestored⟩
    · exact .inr ⟨e, w', by simp only [hclean], .inr hlost⟩
  | error e w' =>
    rcases restores_rollback (h.error hx) with ⟨w'', hclean, hrestored⟩ | ⟨e', hclean, hlost⟩
    · exact .inr ⟨e, w'', by simp only [hclean], .inl hrestored⟩
    · exact .inr ⟨e', w', by simp only [hclean], .inr hlost⟩

lemma discarding_ok {stem : String} {body : Program D R C α} {a : α}
    (h : body (w.enter stem) = .ok a w') (hframed : Framed (w.enter stem) w') :
    ∃ w'', discarding engine stem body w = .ok a w'' ∧ Restored w w'' := by
  have hroll := @rollbackSavepoint_top D R C engine w' _ _ _ hframed.saved
  refine ⟨{ w' with stack := ⟨w.copies, w.saved⟩ }, ?_, rfl, hframed.scanner⟩
  rw [discarding, inSavepoint_apply]
  unfold Programs.withCleanup
  simp only [h]
  rw [hroll]
  rfl

lemma discarding_error {stem : String} {body : Program D R C α} {e : Exn}
    (h : body (w.enter stem) = .error e w') (hframed : Framed (w.enter stem) w') :
    ∃ w'', discarding engine stem body w = .error e w'' ∧ Restored w w'' := by
  have hroll := @rollbackSavepoint_top D R C engine w' _ _ _ hframed.saved
  refine ⟨{ w' with stack := ⟨w.copies, w.saved⟩ }, ?_, rfl, hframed.scanner⟩
  rw [discarding, inSavepoint_apply]
  unfold Programs.withCleanup
  simp only [h]
  rw [hroll]
  rfl

variable (engine) in
/-- After a rollback of the whole transaction the savepoint cannot be undone. -/
lemma discarding_lost {stem : String} {body : Program D R C α} {a : α}
    (h : body (w.enter stem) = .ok a w') (hlost : w'.saved = []) :
    discarding engine stem body w = .error (noSuchSavepoint (w.nextName stem)) w' := by
  have hroll := @rollbackSavepoint_nil D R C engine w' (w.nextName stem) hlost
  rw [discarding, inSavepoint_apply]
  unfold Programs.withCleanup
  simp only [h, hroll]

lemma scoped_discarding {stem : String} {body : Program D R C α}
    (h : Moves (Within engine) body) : Scoped engine (discarding engine stem body) where
  ok {w a w'} hw := by
    rcases discarding_cases h w with ⟨a', w'', hok, hrestored⟩ | ⟨e, w'', herror, -⟩
    · rw [hok] at hw
      cases hw
      exact hrestored
    · rw [herror] at hw
      cases hw
  error {w e w'} hw := by
    rcases discarding_cases h w with ⟨a, w'', hok, -⟩ | ⟨e', w'', herror, hrestores⟩
    · rw [hok] at hw
      cases hw
    · rw [herror] at hw
      cases hw
      exact hrestores

/-- How a program may leave the savepoint it runs in: undone, released, or still open at an
exception. -/
inductive Closes (engine : Engine D R) (w : Working D R C) (stem : String)
    (undone : α → Prop) : EStateM.Result Exn (Working D R C) α → Prop
  | undone {a w'} : undone a → Restored w w' → Closes engine w stem undone (.ok a w')
  | released {a w'} : ¬ undone a → Framed w w' → Closes engine w stem undone (.ok a w')
  | raised {e w'} : Within engine (w.enter stem) w' → Closes engine w stem undone (.error e w')

/-- A program that runs inside a savepoint and closes it. -/
def ClosesFrom (engine : Engine D R) (w : Working D R C) (stem : String) (undone : α → Prop)
    (x : Program D R C α) : Prop :=
  ∀ w', Within engine (w.enter stem) w' → Closes engine w stem undone (x w')

section

variable {stem : String} {undone : α → Prop}

lemma ClosesFrom.bind {β : Type} {x : Program D R C β} {f : β → Program D R C α}
    (hx : Moves (Within engine) x) (hf : ∀ b, ClosesFrom engine w stem undone (f b)) :
    ClosesFrom engine w stem undone (x >>= f) := by
  intro w' hw
  cases hrun : x w' with
  | ok b w'' =>
    rw [bind_ok hrun]
    exact hf b w'' (hw.trans (hx.ok hrun))
  | error e w'' =>
    rw [bind_error hrun]
    exact .raised (hw.trans (hx.error hrun))

lemma ClosesFrom.enter {x : Program D R C α} (h : ClosesFrom engine w stem undone x) :
    Closes engine w stem undone (x (w.enter stem)) :=
  h (w.enter stem) (framed_of_saved rfl rfl)

lemma closesFrom_rollback {a : α} (ha : undone a) :
    ClosesFrom engine w stem undone
      (do rollbackSavepoint engine (w.nextName stem); return a) := by
  intro w' hw
  rcases restores_rollback hw with ⟨w'', hroll, hrestored⟩ | ⟨e, hroll, -⟩
  · rw [bind_ok hroll]
    exact .undone ha hrestored
  · rw [bind_error hroll]
    exact .raised hw

lemma closesFrom_release {a : α} (ha : ¬ undone a) :
    ClosesFrom engine w stem undone (do release engine (w.nextName stem); return a) := by
  intro w' hw
  rcases framed_release hw with ⟨e, hrelease⟩ | ⟨w'', hrelease, hframed, -⟩
  · rw [bind_error hrelease]
    exact .raised hw
  · rw [bind_ok hrelease]
    exact .released ha hframed

end

end Scopes

end SqliteReconcile.Connection
