import SqliteReconcile.ReplayRestoration

/-!
# Deterministic execution of statements

A statement is a partial function on a database, and its control SQL is the same function
on the control copy.
-/
namespace SqliteReconcile.StatementExecution
open Models Programs Connection AcceptedReplay RemainingExecution ReplayRestoration

variable {D R C : Type}

/-- The statements of one transaction, in order. -/
def replayStatements (replay : LoggedStatement → D → Option D) :
    List LoggedStatement → D → Option D
  | [], tables => some tables
  | statement :: rest, tables => replay statement tables >>= replayStatements replay rest

lemma replayStatements_append (replay : LoggedStatement → D → Option D)
    (statements others : List LoggedStatement) (tables : D) :
    replayStatements replay (statements ++ others) tables =
      replayStatements replay statements tables >>= replayStatements replay others := by
  induction statements generalizing tables with
  | nil => rfl
  | cons statement rest ih =>
    cases hreplay : replay statement tables with
    | none => simp [replayStatements, hreplay]
    | some next =>
      have hnext := ih next
      simpa [replayStatements, hreplay] using hnext

/-- SQLite executes these statements as `replay` says, in main, and their control SQL `text`
in the same way in control. -/
structure SameExecution (engine : Engine D R) (context : ReplayContext C)
    (text : LoggedStatement → Option String)
    (replay : LoggedStatement → Database D → Option (Database D))
    (statements : Set LoggedStatement) : Prop where
  onMain : ∀ statement ∈ statements, ∀ copies after,
    engine.execute statement.sqlText copies = .done after ↔
      ∃ database, replay statement copies.main = some database ∧
        after = { copies with main := database }
  controlSql : ∀ statement ∈ statements, ∀ caches,
    (context.controlSqlFor statement caches).1 = text statement
  onControl : ∀ statement ∈ statements, ∀ sql, text statement = some sql → ∀ copies after,
    engine.execute sql copies = .done after ↔
      ∃ database, replay statement copies.control = some database ∧
        after = { copies with control := database }

section

variable {engine : Engine D R} {context : ReplayContext C}
  {text : LoggedStatement → Option String}
  {replay : LoggedStatement → Database D → Option (Database D)} {known : Set LoggedStatement}

/-- Statements executed on both copies were replayed on each of them. -/
lemma SameExecution.replayedOnBoth (hsame : SameExecution engine context text replay known)
    {statements : List LoggedStatement} {copies last : Copies D R}
    (h : ReplayedOnBoth engine context statements copies last)
    (hknown : ∀ statement ∈ statements, statement ∈ known) :
    replayStatements replay statements copies.main = some last.main ∧
      replayStatements replay statements copies.control = some last.control ∧
      last.temp = copies.temp ∧ ∀ statement ∈ statements, (text statement).isSome := by
  induction h with
  | nil => exact ⟨rfl, rfl, rfl, fun s hs => absurd hs List.not_mem_nil⟩
  | @cons statement rest copies onControl onBoth last caches caches' sql hsql hcontrol hmain hrest
      ih =>
    have hstatement := hknown statement List.mem_cons_self
    obtain ⟨hmainRest, hcontrolRest, htemp, htexts⟩ :=
      ih fun s hs => hknown s (List.mem_cons_of_mem _ hs)
    have htext : text statement = some sql := by
      rw [← hsame.controlSql statement hstatement caches, hsql]
    obtain ⟨control, hreplayControl, rfl⟩ :=
      (hsame.onControl statement hstatement sql htext _ _).mp hcontrol
    obtain ⟨main, hreplayMain, rfl⟩ := (hsame.onMain statement hstatement _ _).mp hmain
    refine ⟨?_, ?_, htemp, ?_⟩
    · rw [replayStatements, hreplayMain]
      exact hmainRest
    · rw [replayStatements, hreplayControl]
      exact hcontrolRest
    · intro s hs
      rcases List.mem_cons.mp hs with rfl | hs
      · exact Option.isSome_of_mem htext
      · exact htexts s hs

lemma SameExecution.executeStatementOnControl_iff
    (hsame : SameExecution engine context text replay known)
    (hattached : context.controlSchema ≠ none) {statement : LoggedStatement}
    (hstatement : statement ∈ known) (htext : (text statement).isSome) (scope : ConflictScope)
    (orderLabel : String) (w : Working D R C) (database : Database D) :
    (∃ w', executeStatementOnControl engine context statement scope orderLabel true w =
        .ok none w' ∧ w'.copies.control = database) ↔
      replay statement w.copies.control = some database ∧
        database.foreignKeyCheck engine = .ok none := by
  obtain ⟨sql, hsql⟩ := Option.isSome_iff_exists.mp htext
  constructor
  · intro ⟨w', hrun, hcontrol⟩
    obtain ⟨sql', caches, after, hlookup, hdone, rfl, hcheck⟩ :=
      executeStatementOnControl_none hrun
    have hsql' : text statement = some sql' := by
      rw [← hsame.controlSql statement hstatement w.caches, hlookup]
    obtain ⟨database', hreplay, rfl⟩ :=
      (hsame.onControl statement hstatement sql' hsql' _ _).mp hdone
    have hchecked := hcheck rfl
    rw [databaseOf_control hattached] at hchecked
    rw [← hcontrol]
    exact ⟨hreplay, hchecked⟩
  · intro ⟨hreplay, hcheck⟩
    let after : Copies D R := { w.copies with control := database }
    have hdone : engine.execute sql w.copies = .done after :=
      (hsame.onControl statement hstatement sql hsql _ _).mpr ⟨database, hreplay, rfl⟩
    cases hlookup : context.controlSqlFor statement w.caches with
    | mk answer caches =>
      have hanswer : answer = some sql := by
        rw [← hsql, ← hsame.controlSql statement hstatement w.caches, hlookup]
      let w1 : Working D R C := { w with caches := caches }
      have hlooked : lookup (context.controlSqlFor statement) w = .ok (some sql) w1 := by
        simp only [lookup, hlookup, hanswer]
        rfl
      have hexecuted : execute engine sql w1 = .ok none (w1.withCopies after) := by
        have hdone' : engine.execute sql w1.copies = .done after := hdone
        simp only [execute, hdone']
      have hchecked : foreignKeyCheckError engine context.controlSchema (w1.withCopies after) =
          .ok none (w1.withCopies after) := by
        have hdatabase : databaseOf (w1.withCopies after) context.controlSchema = database :=
          databaseOf_control hattached
        simp only [foreignKeyCheckError, hdatabase, hcheck]
        rfl
      refine ⟨w1.withCopies after, ?_, rfl⟩
      unfold executeStatementOnControl
      rw [bind_ok hlooked]
      dsimp only
      have hreplayed : executeSqlForReplay engine statement sql scope orderLabel
          context.controlSchema true w1 = .ok none (w1.withCopies after) := by
        unfold executeSqlForReplay
        rw [bind_ok hexecuted]
        dsimp only
        rw [if_pos rfl, bind_ok hchecked]
        rfl
      rw [bind_ok hreplayed]
      rfl

end

def insertNew (name : String) (database : Database (List String)) :
    Option (Database (List String)) :=
  if name ∈ database.tables then none
  else some { database with tables := database.tables ++ [name] }

def uniqueError : SqliteError := ⟨true, "UNIQUE constraint failed"⟩

/-- SQLite for a few INSERT texts: the name that a text inserts, and whether into control. -/
def insertEngine (insertOf : String → Option (String × Bool))
    (violation : List String → Option String) : Engine (List String) Unit where
  execute sql copies :=
    match insertOf sql with
    | some (name, false) =>
      match insertNew name copies.main with
      | some database => .done { copies with main := database }
      | none => .fails uniqueError copies
    | some (name, true) =>
      match insertNew name copies.control with
      | some database => .done { copies with control := database }
      | none => .fails uniqueError copies
    | none => .refuses "You can only execute one statement at a time."
  query _ _ := .ok []
  foreignKeyCheck tables := .ok (violation tables)
  logError _ := none
  commitError _ _ := none
  commitError_self _ := rfl

def insertContext (text : LoggedStatement → Option String) : ReplayContext Unit where
  controlSchema := some "control"
  controlSqlFor statement caches := (text statement, caches)
  controlSqlForProbe _ caches := (none, caches)
  strictConflictResolutionStatement _ caches := (.ok none, caches)
  affectedPrimaryKeySelect _ caches := (none, caches)
  readProbeResult _ caches := (.noReadDependency, caches)
  isUpdateFromStatement _ := false
  primaryKeyColumns _ := []

section

variable {insertOf : String → Option (String × Bool)} {violation : List String → Option String}
  {sql name : String} {copies after : Copies (List String) Unit}

lemma insertEngine_main (h : insertOf sql = some (name, false)) :
    (insertEngine insertOf violation).execute sql copies = .done after ↔
      ∃ database, insertNew name copies.main = some database ∧
        after = { copies with main := database } := by
  simp only [insertEngine, h]
  cases insertNew name copies.main with
  | none => simp
  | some database => simp [eq_comm]

lemma insertEngine_control (h : insertOf sql = some (name, true)) :
    (insertEngine insertOf violation).execute sql copies = .done after ↔
      ∃ database, insertNew name copies.control = some database ∧
        after = { copies with control := database } := by
  simp only [insertEngine, h]
  cases insertNew name copies.control with
  | none => simp
  | some database => simp [eq_comm]

lemma insertEngine_not_rollsBack : ¬ RollsBack (insertEngine insertOf violation) := by
  intro ⟨sql, copies, error, h⟩
  simp only [insertEngine] at h
  cases hsql : insertOf sql with
  | none =>
    rw [hsql] at h
    cases h
  | some target =>
    obtain ⟨name, onControl⟩ := target
    rw [hsql] at h
    cases onControl with
    | false => cases hinsert : insertNew name copies.main <;> simp [hinsert] at h
    | true => cases hinsert : insertNew name copies.control <;> simp [hinsert] at h

def insertReplay (insertOf : String → Option (String × Bool)) (statement : LoggedStatement) :
    Database (List String) → Option (Database (List String)) :=
  match insertOf statement.sqlText with
  | some (name, false) => insertNew name
  | _ => some

/-- A text and its control SQL insert the same name. -/
def InsertsTheSame (insertOf : String → Option (String × Bool))
    (text : LoggedStatement → Option String) (statement : LoggedStatement) : Prop :=
  ∃ name sql, insertOf statement.sqlText = some (name, false) ∧
    text statement = some sql ∧ insertOf sql = some (name, true)

lemma insertEngine_sameExecution {text : LoggedStatement → Option String}
    {known : Set LoggedStatement}
    (h : ∀ statement ∈ known, InsertsTheSame insertOf text statement) :
    SameExecution (insertEngine insertOf violation) (insertContext text) text
      (insertReplay insertOf) known where
  onMain statement hstatement copies after := by
    obtain ⟨name, sql, hmain, htext, hcontrol⟩ := h statement hstatement
    rw [insertReplay, hmain]
    exact insertEngine_main hmain
  controlSql statement hstatement caches := rfl
  onControl statement hstatement sql hsql copies after := by
    obtain ⟨name, sql', hmain, htext, hcontrol⟩ := h statement hstatement
    rw [insertReplay, hmain]
    rw [htext] at hsql
    cases hsql
    exact insertEngine_control hcontrol

end

end SqliteReconcile.StatementExecution
