import SqliteReconcile.LogMerge
import SqliteReconcile.StatementExecution

/-!
# Starting a scan against applying

Both replay the current transaction on control. Applying checks the foreign keys after the
last statement; starting a scan checks them after each one.
-/
namespace SqliteReconcile.ScanStart
open Models SqlMetadata LogMerge Programs Connection AcceptedReplay RemainingExecution
  ReplayRestoration StatementExecution

variable {D R C : Type} {engine : Engine D R} {context : ReplayContext C}

/-- A program that returns, and leaves both databases as they are. -/
def Harmless {α : Type} (x : Program D R C α) : Prop :=
  ∀ w, ∃ a w', x w = .ok a w' ∧ w'.copies.main = w.copies.main ∧
    w'.copies.control = w.copies.control

lemma harmless_pure {α : Type} (a : α) : Harmless (pure a : Program D R C α) :=
  fun w => ⟨a, w, rfl, rfl, rfl⟩

lemma Harmless.bind {α β : Type} {x : Program D R C α} {f : α → Program D R C β}
    (hx : Harmless x) (hf : ∀ a, Harmless (f a)) : Harmless (x >>= f) := by
  intro w
  obtain ⟨a, w1, hfirst, hmain, hcontrol⟩ := hx w
  obtain ⟨b, w2, hsecond, hmain', hcontrol'⟩ := hf a w1
  exact ⟨b, w2, (bind_ok hfirst).trans hsecond, hmain'.trans hmain, hcontrol'.trans hcontrol⟩

lemma harmless_lookup {α : Type} (f : C → α × C) : Harmless (lookup f : Program D R C α) :=
  fun w => ⟨(f w.caches).1, { w with caches := (f w.caches).2 }, rfl, rfl, rfl⟩

lemma harmless_drawName (stem : String) : Harmless (drawName stem : Program D R C String) :=
  fun w => ⟨_, { w with drawn := w.drawn + 1 }, rfl, rfl, rfl⟩

lemma harmless_tryCreateProbeResultTable (name probe : String) :
    Harmless (tryCreateProbeResultTable engine name probe : Program D R C Bool) := by
  intro w
  have hfails : ∀ error, createProbeResultTable engine name probe w = .error (.sqlite error) w →
      tryCreateProbeResultTable engine name probe w = .ok false w := by
    intro error hcreate
    have hbody : (do createProbeResultTable engine name probe; return true :
        Program D R C Bool) w = .error (.sqlite error) w := bind_error hcreate
    unfold tryCreateProbeResultTable exceptSqlite catching
    rw [hbody]
    rfl
  cases htable : w.copies.temp name with
  | some rows =>
    have hcreate : createProbeResultTable engine name probe w =
        .error (.sqlite ⟨false, "table " ++ name ++ " already exists"⟩) w := by
      simp only [createProbeResultTable, htable]
    exact ⟨false, w, hfails _ hcreate, rfl, rfl⟩
  | none =>
    cases hquery : engine.query probe w.copies with
    | error error =>
      have hcreate : createProbeResultTable engine name probe w = .error (.sqlite error) w := by
        simp only [createProbeResultTable, htable, hquery]
      exact ⟨false, w, hfails error hcreate, rfl, rfl⟩
    | ok rows =>
      have hcreate : createProbeResultTable engine name probe w = .ok ()
          (w.withCopies { w.copies with
            temp := Function.update w.copies.temp name (some rows) }) := by
        simp only [createProbeResultTable, htable, hquery]
      have hbody : (do createProbeResultTable engine name probe; return true :
          Program D R C Bool) w = _ := bind_ok hcreate
      refine ⟨true, w.withCopies { w.copies with
        temp := Function.update w.copies.temp name (some rows) }, ?_, rfl, rfl⟩
      unfold tryCreateProbeResultTable exceptSqlite catching
      rw [hbody]
      rfl

lemma harmless_statementWriteProbeTable (statement : LoggedStatement) (useControl : Bool) :
    Harmless (statementWriteProbeTable engine context statement useControl :
      Program D R C _) := by
  have hsql : Harmless (statementWriteProbeSql context statement useControl :
      Program D R C _) := by
    apply (harmless_lookup _).bind
    intro probe
    cases probe with
    | none => exact harmless_pure _
    | some probe =>
      cases useControl with
      | true => exact harmless_lookup _
      | false => exact harmless_pure _
  apply hsql.bind
  intro probe
  cases probe with
  | none => exact harmless_pure _
  | some probe =>
    apply (harmless_drawName _).bind
    intro name
    exact (harmless_tryCreateProbeResultTable _ _).bind fun _ => harmless_pure _

lemma harmless_saveWriteProbe (statement : LoggedStatement) (index : ℕ) :
    Harmless (saveWriteProbe engine context statement index : Program D R C _) := by
  unfold saveWriteProbe
  split_ifs
  · apply (harmless_statementWriteProbeTable _ _).bind
    intro table
    cases table with
    | none => exact harmless_pure _
    | some table => exact fun w => ⟨(), _, rfl, rfl, rfl⟩
  · exact harmless_pure _

variable {text : LoggedStatement → Option String}
  {replay : LoggedStatement → Database D → Option (Database D)} {known : Set LoggedStatement}

/-- Each statement succeeds and leaves no foreign-key violation. -/
def ChecksEach (engine : Engine D R)
    (replay : LoggedStatement → Database D → Option (Database D)) :
    List LoggedStatement → Database D → Prop
  | [], _ => True
  | statement :: rest, database =>
    ∃ next, replay statement database = some next ∧ next.foreignKeyCheck engine = .ok none ∧
      ChecksEach engine replay rest next

/-- Statements that replay as a whole are checked after each of them. -/
lemma checksEach_iff {statements : List LoggedStatement} {database last : Database D}
    (h : replayStatements replay statements database = some last) :
    ChecksEach engine replay statements database ↔
      ∀ k, 0 < k → k ≤ statements.length → ∀ middle,
        replayStatements replay (statements.take k) database = some middle →
        middle.foreignKeyCheck engine = .ok none := by
  induction statements generalizing database with
  | nil =>
    constructor
    · intro _ k hpos hle
      simp only [List.length_nil] at hle
      omega
    · exact fun _ => trivial
  | cons statement rest ih =>
    obtain ⟨next, hnext, hrest⟩ := Option.bind_eq_some_iff.mp h
    have htake : ∀ k middle, replayStatements replay ((statement :: rest).take (k + 1)) database =
        some middle ↔ replayStatements replay (rest.take k) next = some middle := by
      intro k middle
      rw [List.take_succ_cons, replayStatements, hnext]
      rfl
    constructor
    · rintro ⟨next', hnext', hcheck, hchecks⟩ k hpos hle middle hmiddle
      have heq : next' = next := Option.some.inj (hnext'.symm.trans hnext)
      subst heq
      obtain ⟨k, rfl⟩ : ∃ j, k = j + 1 := ⟨k - 1, by omega⟩
      rw [htake] at hmiddle
      cases k with
      | zero =>
        cases hmiddle
        exact hcheck
      | succ k =>
        simp only [List.length_cons] at hle
        exact (ih hrest).mp hchecks (k + 1) (by omega) (by omega) middle hmiddle
    · intro h
      refine ⟨next, hnext, h 1 (by omega) (by simp) next ((htake 0 next).mpr rfl), ?_⟩
      apply (ih hrest).mpr
      intro k hpos hle middle hmiddle
      apply h (k + 1) (by omega) _ middle ((htake k middle).mpr hmiddle)
      simp only [List.length_cons]
      omega

lemma startStatements_iff (hsame : SameExecution engine context text replay known)
    (hattached : context.controlSchema ≠ none) (currentTransaction : LoggedTransaction)
    (currentBranch : BranchName) {statements : List LoggedStatement}
    (hknown : ∀ statement ∈ statements, statement ∈ known ∧ (text statement).isSome) (n : ℕ)
    (w : Working D R C) :
    (∃ w', startControlWithCurrentWriteProbes engine context currentTransaction currentBranch
        (statements.zipIdx n) w = .ok none w') ↔
      ChecksEach engine replay statements w.copies.control := by
  induction statements generalizing n w with
  | nil => exact ⟨fun _ => trivial, fun _ => ⟨w, rfl⟩⟩
  | cons statement rest ih =>
    obtain ⟨hstatement, htext⟩ := hknown statement List.mem_cons_self
    have hrest : ∀ s ∈ rest, s ∈ known ∧ (text s).isSome :=
      fun s hs => hknown s (List.mem_cons_of_mem _ hs)
    obtain ⟨u, w1, hprobe, -, hcontrol⟩ :=
      @harmless_saveWriteProbe D R C engine context statement n w
    have hexecute := hsame.executeStatementOnControl_iff hattached hstatement htext
      currentBranch.scope ("control " ++ transactionLabel currentTransaction) w1
    rw [List.zipIdx_cons, ChecksEach]
    unfold startControlWithCurrentWriteProbes
    rw [bind_ok hprobe]
    constructor
    · intro ⟨w', hrun⟩
      obtain ⟨failure, w2, hstep, hrun⟩ := ok_of_bind hrun
      cases failure with
      | some failure => cases hrun
      | none =>
        obtain ⟨hreplay, hcheck⟩ := (hexecute _).mp ⟨w2, hstep, rfl⟩
        rw [hcontrol] at hreplay
        exact ⟨_, hreplay, hcheck, (ih hrest (n + 1) w2).mp ⟨w', hrun⟩⟩
    · intro ⟨next, hreplay, hcheck, hchecks⟩
      rw [← hcontrol] at hreplay
      obtain ⟨w2, hstep, hnext⟩ := (hexecute next).mpr ⟨hreplay, hcheck⟩
      rw [← hnext] at hchecks
      obtain ⟨w', hrun⟩ := (ih hrest (n + 1) w2).mpr hchecks
      refine ⟨w', ?_⟩
      rw [bind_ok hstep]
      exact hrun

/-- Start a scan of a transaction that would be applied, of deterministic statements that run on
control as on main (`SameExecution`): it reports no conflict exactly when no proper prefix of the
statements leaves a foreign-key violation in control. -/
theorem start_empty_iff (hsame : SameExecution engine context text replay known)
    (hattached : context.controlSchema ≠ none) {transaction : LoggedTransaction}
    (hknown : ∀ statement ∈ transaction.statements, statement ∈ known) {w w' : Working D R C}
    (happly : applyAcceptedTransaction engine context transaction w = .ok none w')
    (currentBranch : BranchName) :
    (∃ w'', start engine context transaction currentBranch w = .ok .empty w'') ↔
      ∀ k, 0 < k → k < transaction.statements.length → ∀ database,
        replayStatements replay (transaction.statements.take k) w.copies.control =
          some database →
        database.foreignKeyCheck engine = .ok none := by
  obtain ⟨last, hreplayed, -, hlast, -, -⟩ := apply_none happly
  obtain ⟨-, hcontrol, -, htexts⟩ := hsame.replayedOnBoth hreplayed hknown
  have hstart : (∃ w'', start engine context transaction currentBranch w = .ok .empty w'') ↔
      ∃ w'', startControlWithCurrentWriteProbes engine context transaction currentBranch
        transaction.statements.zipIdx (openScan w) = .ok none w'' := by
    rw [start_apply]
    constructor
    · rintro ⟨w'', hrun⟩
      obtain ⟨failure, w1, hloop, hrun⟩ := ok_of_bind hrun
      cases failure with
      | some failure => cases hrun
      | none => exact ⟨w1, hloop⟩
    · rintro ⟨w'', hloop⟩
      exact ⟨w'', bind_ok hloop⟩
  rw [hstart, startStatements_iff hsame hattached transaction currentBranch
    (fun s hs => ⟨hknown s hs, htexts s hs⟩) 0 (openScan w)]
  have hopened : (openScan w).copies.control = w.copies.control := rfl
  rw [hopened, checksEach_iff hcontrol]
  constructor
  · intro h k hpos hlt
    exact h k hpos hlt.le
  · intro h k hpos hle database hdatabase
    by_cases hlt : k < transaction.statements.length
    · exact h k hpos hlt database hdatabase
    · -- applying checked the whole transaction
      rw [List.take_of_length_le (by omega), hcontrol] at hdatabase
      cases hdatabase
      exact hlast hattached

/-! `children.parent` references `parents.id`, and the foreign key is deferred. -/

def familySchema : ConflictCheckContext :=
  ⟨⟨[("parents", {"id"}), ("children", {"id", "parent"})], [], [], [], []⟩, fun _ => none⟩

lemma insert_target (table : String) : (some table).isSome ↔ StatementKind.insert ≠ .other :=
  iff_of_true rfl StatementKind.noConfusion

def familyMetadata (table : String) : StatementMetadata :=
  parseStatementMetadataForContext familySchema ⟨"", none, false⟩
    ⟨.insert, some table, [], none, ∅, insert_target table⟩

def familyReader : SqlReader where
  neutralizeRollback := id
  parse sql := .ok (familyMetadata
    (if sql = "INSERT INTO parents VALUES (1)" then "parents" else "children"))
  unsupported _ := familyMetadata "parents"

def familyStatement (index : ℤ) (sql : String) : LoggedStatement :=
  makeLoggedStatement familyReader .ours index 1 "" ⟨sql, sql, true, none⟩

def insertParent (index : ℤ) : LoggedStatement :=
  familyStatement index "INSERT INTO parents VALUES (1)"

def insertChild (index : ℤ) : LoggedStatement :=
  familyStatement index "INSERT INTO children VALUES (1, 1)"

def childFirst : LoggedTransaction := loggedTransaction (insertChild 0) [insertParent 1] 0

def parentFirst : LoggedTransaction := loggedTransaction (insertParent 0) [insertChild 1] 0

def familyInsert : String → Option (String × Bool)
  | "INSERT INTO parents VALUES (1)" => some ("parents", false)
  | "INSERT INTO children VALUES (1, 1)" => some ("children", false)
  | "INSERT INTO control.parents VALUES (1)" => some ("parents", true)
  | "INSERT INTO control.children VALUES (1, 1)" => some ("children", true)
  | _ => none

def familyControlSql (statement : LoggedStatement) : Option String :=
  match statement.sqlText with
  | "INSERT INTO parents VALUES (1)" => some "INSERT INTO control.parents VALUES (1)"
  | "INSERT INTO children VALUES (1, 1)" => some "INSERT INTO control.children VALUES (1, 1)"
  | _ => none

def familyViolation (tables : List String) : Option String :=
  if "children" ∈ tables ∧ "parents" ∉ tables then some "('children', 1, 'parents', 0)" else none

def familyEngine : Engine (List String) Unit := insertEngine familyInsert familyViolation

def familyContext : ReplayContext Unit := insertContext familyControlSql

def noFamily : Working (List String) Unit Unit :=
  ⟨.new ⟨⟨[], ⟨0, [], []⟩⟩, ⟨[], ⟨0, [], []⟩⟩, fun _ => none⟩, 0, (), ⟨none, none⟩⟩

/-- The child is inserted first: applying the transaction succeeds, starting a scan of it
reports a conflict. -/
theorem child_first_rejected :
    noFamily.copies.main = noFamily.copies.control ∧
      (∃ w', applyAcceptedTransaction familyEngine familyContext childFirst noFamily =
        .ok none w') ∧
      ∃ result w', start familyEngine familyContext childFirst .ours noFamily =
        .ok result w' ∧ result.hasConflict = true := by
  have happly : returned (applyAcceptedTransaction familyEngine familyContext childFirst
      noFamily) = some none := by
    decide +kernel
  have hstart : (returned (start familyEngine familyContext childFirst .ours noFamily)).any
      (·.hasConflict) = true := by
    decide +kernel
  obtain ⟨result, hreturned, hconflict⟩ := (Option.any_eq_true _ _).mp hstart
  exact ⟨rfl, ⟨_, ok_of_returned happly⟩, result, _, ok_of_returned hreturned, hconflict⟩

/-- The parent is inserted first: starting a scan reports no conflict. -/
theorem parent_first_starts :
    ∃ w', start familyEngine familyContext parentFirst .ours noFamily = .ok .empty w' := by
  have hsame : SameExecution familyEngine familyContext familyControlSql
      (insertReplay familyInsert) {insertParent 0, insertChild 1} := by
    apply insertEngine_sameExecution
    intro statement hstatement
    rcases hstatement with rfl | rfl
    · exact ⟨"parents", _, rfl, rfl, rfl⟩
    · exact ⟨"children", _, rfl, rfl, rfl⟩
  have happly : applyAcceptedTransaction familyEngine familyContext parentFirst noFamily = _ :=
    ok_of_returned (show returned _ = some none by decide +kernel)
  apply (start_empty_iff hsame nofun _ happly .ours).mpr
  · intro k hpos hlt database hdatabase
    have hone : k = 1 := by
      have htwo : parentFirst.statements.length = 2 := rfl
      omega
    subst hone
    cases hdatabase
    rfl
  · intro statement hstatement
    simpa [parentFirst, loggedTransaction] using hstatement

end SqliteReconcile.ScanStart
