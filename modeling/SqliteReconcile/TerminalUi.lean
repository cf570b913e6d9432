import SqliteReconcile.LogMerge

/-! The two resolution prompts, as functions of what the user answers. -/
namespace SqliteReconcile.TerminalUi
open Models SqlMetadata LogMerge

inductive InsertPosition
  | before
  | after
  deriving DecidableEq

/-- A command on one shown transaction. A statement is named by its place in the
transaction; the edited text comes as the editor left it, prepared for replay. -/
inductive EditCommand
  | deleteTransaction
  | deleteStatement (index : ℕ)
  /-- Without a result the editor failed; an emptied text deletes the statement. -/
  | editStatement (index : ℕ) (edited : Option (Option PreparedSql))
  | insertStatement (index : ℕ) (position : InsertPosition) (edited : Option PreparedSql)

inductive UserInput
  | enter
  /-- `DELETE` or `;`, for everything shown. -/
  | delete
  | edit (branch : BranchName) (command : EditCommand)
  | unknown

def replaceStatementSql (reader : SqlReader) (statement : LoggedStatement)
    (prepared : PreparedSql) : LoggedStatement :=
  makeLoggedStatement reader statement.branch statement.branchIndex statement.transactionId
    statement.committedAt prepared

/-- A user-inserted statement inside an existing transaction. -/
def newStatementSql (reader : SqlReader) (transaction : LoggedTransaction)
    (prepared : PreparedSql) : LoggedStatement :=
  makeLoggedStatement reader transaction.branch
    ((transaction.statements.map (·.branchIndex)).foldr min 0 - 1) transaction.transactionId
    transaction.committedAt prepared

/-- Apply an edit, delete or insert command; without a result nothing changed. -/
def handleTransactionEditCommand (reader : SqlReader) (transaction : LoggedTransaction) :
    EditCommand → Option LoggedTransaction
  | .deleteTransaction => some (transactionWithStatements transaction [])
  | .deleteStatement index =>
    match transaction.statements[index]? with
    | none => none
    | some _ => some (transactionWithStatements transaction (transaction.statements.eraseIdx index))
  | .editStatement index edited =>
    match transaction.statements[index]?, edited with
    | none, _ => none
    | some _, none => none
    | some _, some none =>
      some (transactionWithStatements transaction (transaction.statements.eraseIdx index))
    | some statement, some (some prepared) =>
      some (transactionWithStatements transaction
        (transaction.statements.set index (replaceStatementSql reader statement prepared)))
  | .insertStatement index position edited =>
    match transaction.statements[index]?, edited with
    | none, _ => none
    | some _, none => none
    | some _, some prepared =>
      let place := match position with | .before => index | .after => index + 1
      some (transactionWithStatements transaction
        (transaction.statements.insertIdx place (newStatementSql reader transaction prepared)))

inductive PairAction
  | accept
  | replace
  deriving DecidableEq

structure PairTransactionResolution where
  action : PairAction
  ours : Option LoggedTransaction
  theirs : Option LoggedTransaction
  changedOurs : Bool
  changedTheirs : Bool

def deletedPair : PairTransactionResolution := ⟨.replace, none, none, true, true⟩

def keptTransaction (updated : LoggedTransaction) : Option LoggedTransaction :=
  if updated.statements = [] then none else some updated

def pairResolutionFromLabels (oursUpdated theirsUpdated oursTransaction
    theirsTransaction : LoggedTransaction) : PairTransactionResolution where
  action := .replace
  ours := keptTransaction oursUpdated
  theirs := keptTransaction theirsUpdated
  changedOurs := oursUpdated ≠ oursTransaction
  changedTheirs := theirsUpdated ≠ theirsTransaction

section
variable (reader : SqlReader) (allowAccept : Bool)
  (oursTransaction theirsTransaction : LoggedTransaction)

/-- The prompt loop over the shown versions; without a result it waits for more input. -/
def pairPromptLoop (ours theirs : LoggedTransaction) (changedAny : Bool)
    (inputs : List UserInput) : Option PairTransactionResolution :=
  if ours.statements = [] ∧ theirs.statements = [] then some deletedPair
  else match inputs with
    | [] => none
    | .enter :: inputs =>
      if changedAny then
        some (pairResolutionFromLabels ours theirs oursTransaction theirsTransaction)
      else if allowAccept then
        some ⟨.accept, some oursTransaction, some theirsTransaction, false, false⟩
      else pairPromptLoop ours theirs changedAny inputs
    | .delete :: _ => some deletedPair
    | .edit .ours command :: inputs =>
      match handleTransactionEditCommand reader ours command with
      | some updated => pairPromptLoop updated theirs true inputs
      | none => pairPromptLoop ours theirs changedAny inputs
    | .edit .theirs command :: inputs =>
      match handleTransactionEditCommand reader theirs command with
      | some updated => pairPromptLoop ours updated true inputs
      | none => pairPromptLoop ours theirs changedAny inputs
    | .unknown :: inputs => pairPromptLoop ours theirs changedAny inputs

def promptPairTransactionResolution (inputs : List UserInput) :
    Option PairTransactionResolution :=
  pairPromptLoop reader allowAccept oursTransaction theirsTransaction
    (transactionWithStatements oursTransaction oursTransaction.statements)
    (transactionWithStatements theirsTransaction theirsTransaction.statements) false inputs

end

section
variable (reader : SqlReader) (allowAccept : Bool) (scope : BranchName)

/-- The prompt loop over the shown version. The result is the list of statements, or `none`
for a deleted transaction. -/
def standalonePromptLoop (shown : LoggedTransaction) (changedAny : Bool)
    (inputs : List UserInput) : Option (Option (List LoggedStatement)) :=
  if shown.statements = [] then some (some [])
  else match inputs with
    | [] => none
    | .enter :: inputs =>
      if changedAny || allowAccept then some (some shown.statements)
      else standalonePromptLoop shown changedAny inputs
    | .delete :: _ => some none
    | .edit branch command :: inputs =>
      if branch = scope then
        match handleTransactionEditCommand reader shown command with
        | some updated => standalonePromptLoop updated true inputs
        | none => standalonePromptLoop shown changedAny inputs
      else standalonePromptLoop shown changedAny inputs
    | .unknown :: inputs => standalonePromptLoop shown changedAny inputs

def promptStandaloneTransactionResolution (transaction : LoggedTransaction)
    (inputs : List UserInput) : Option (Option (List LoggedStatement)) :=
  standalonePromptLoop reader allowAccept scope
    (transactionWithStatements transaction transaction.statements) false inputs

end

/-- What no edit changes: the place of a transaction in its branch's log. -/
def identity (transaction : LoggedTransaction) : BranchName × ℕ × ℕ × String :=
  (transaction.branch, transaction.branchIndex, transaction.transactionId,
    transaction.committedAt)

@[simp] lemma identity_transactionWithStatements (transaction : LoggedTransaction)
    (statements : List LoggedStatement) :
    identity (transactionWithStatements transaction statements) = identity transaction := rfl

@[simp] lemma statements_transactionWithStatements (transaction : LoggedTransaction)
    (statements : List LoggedStatement) :
    (transactionWithStatements transaction statements).statements = statements := rfl

/-- A version that edits can lead to: new statements carry no accepted warning. -/
structure Drafts (old new : LoggedTransaction) : Prop where
  identity_eq : identity new = identity old
  statements : ∀ statement ∈ new.statements,
    statement ∈ old.statements ∨ statement.acceptedReplayWarnings = ∅

lemma Drafts.refl (transaction : LoggedTransaction) :
    Drafts transaction (transactionWithStatements transaction transaction.statements) :=
  ⟨rfl, fun _ h => .inl h⟩

lemma Drafts.trans {first second third : LoggedTransaction} (h : Drafts first second)
    (h' : Drafts second third) : Drafts first third := by
  refine ⟨h'.identity_eq.trans h.identity_eq, fun statement hs => ?_⟩
  rcases h'.statements statement hs with hs | hs
  · exact h.statements statement hs
  · exact .inr hs

lemma drafts_command {reader : SqlReader} {transaction updated : LoggedTransaction}
    {command : EditCommand}
    (h : handleTransactionEditCommand reader transaction command = some updated) :
    Drafts transaction updated := by
  cases command with
  | deleteTransaction =>
    cases h
    exact ⟨rfl, fun _ hs => by cases hs⟩
  | deleteStatement index =>
    simp only [handleTransactionEditCommand] at h
    split at h
    · cases h
    · cases h
      exact ⟨rfl, fun _ hs => .inl (List.mem_of_mem_eraseIdx hs)⟩
  | editStatement index edited =>
    simp only [handleTransactionEditCommand] at h
    split at h
    · cases h
    · cases h
    · cases h
      exact ⟨rfl, fun _ hs => .inl (List.mem_of_mem_eraseIdx hs)⟩
    · cases h
      refine ⟨rfl, fun statement hs => ?_⟩
      rcases List.mem_or_eq_of_mem_set hs with hs | hs
      · exact .inl hs
      · rw [hs]
        exact .inr rfl
  | insertStatement index position edited =>
    simp only [handleTransactionEditCommand] at h
    split at h
    · cases h
    · cases h
    · cases h
      refine ⟨rfl, fun statement hs => ?_⟩
      rcases List.eq_or_mem_of_mem_insertIdx hs with hs | hs
      · rw [hs]
        exact .inr rfl
      · exact .inl hs

/-- A version that goes back to the queue. -/
structure Revises (old new : LoggedTransaction) : Prop extends Drafts old new where
  nonempty : new.statements ≠ []

lemma Drafts.revises {old new : LoggedTransaction} (h : Drafts old new) {kept}
    (hk : keptTransaction new = some kept) : Revises old kept := by
  unfold keptTransaction at hk
  split at hk
  · cases hk
  · rename_i hne
    cases hk
    exact ⟨h, hne⟩

def PairTransactionResolution.side (resolution : PairTransactionResolution) :
    BranchName → Option LoggedTransaction
  | .ours => resolution.ours
  | .theirs => resolution.theirs

def PairTransactionResolution.changed (resolution : PairTransactionResolution) :
    BranchName → Bool
  | .ours => resolution.changedOurs
  | .theirs => resolution.changedTheirs

/-- Accepting has to be allowed; a replaced side is deleted or revised. -/
structure ResolutionOf (allowAccept : Bool) (ours theirs : LoggedTransaction)
    (resolution : PairTransactionResolution) : Prop where
  allowed : resolution.action = .accept → allowAccept
  revisesOurs : resolution.action = .replace →
    ∀ new, resolution.ours = some new → Revises ours new
  revisesTheirs : resolution.action = .replace →
    ∀ new, resolution.theirs = some new → Revises theirs new

lemma resolutionOf_deletedPair (allowAccept : Bool) (ours theirs : LoggedTransaction) :
    ResolutionOf allowAccept ours theirs deletedPair :=
  ⟨nofun, nofun, nofun⟩

lemma resolutionOf_loop {reader : SqlReader} {allowAccept : Bool}
    {oursTransaction theirsTransaction : LoggedTransaction} (inputs : List UserInput) :
    ∀ {ours theirs : LoggedTransaction} {changedAny : Bool} {resolution},
      Drafts oursTransaction ours → Drafts theirsTransaction theirs →
      pairPromptLoop reader allowAccept oursTransaction theirsTransaction ours theirs changedAny
        inputs = some resolution →
      ResolutionOf allowAccept oursTransaction theirsTransaction resolution := by
  induction inputs with
  | nil =>
    intro ours theirs changedAny resolution hours htheirs h
    unfold pairPromptLoop at h
    split at h
    · cases h
      exact resolutionOf_deletedPair _ _ _
    · cases h
  | cons input inputs ih =>
    intro ours theirs changedAny resolution hours htheirs h
    unfold pairPromptLoop at h
    split at h
    · cases h
      exact resolutionOf_deletedPair _ _ _
    · cases input with
      | enter =>
        simp only at h
        split at h
        · cases h
          exact ⟨nofun, fun _ _ hk => hours.revises hk, fun _ _ hk => htheirs.revises hk⟩
        · split at h
          · rename_i hallow
            cases h
            exact ⟨fun _ => hallow, nofun, nofun⟩
          · exact ih hours htheirs h
      | delete =>
        cases h
        exact resolutionOf_deletedPair _ _ _
      | edit branch command =>
        cases branch with
        | ours =>
          simp only at h
          split at h
          · rename_i updated hupdated
            exact ih (hours.trans (drafts_command hupdated)) htheirs h
          · exact ih hours htheirs h
        | theirs =>
          simp only at h
          split at h
          · rename_i updated hupdated
            exact ih hours (htheirs.trans (drafts_command hupdated)) h
          · exact ih hours htheirs h
      | unknown => exact ih hours htheirs h

theorem resolutionOf_prompt {reader : SqlReader} {allowAccept : Bool}
    {ours theirs : LoggedTransaction} {inputs : List UserInput} {resolution}
    (h : promptPairTransactionResolution reader allowAccept ours theirs inputs =
      some resolution) : ResolutionOf allowAccept ours theirs resolution :=
  resolutionOf_loop inputs (Drafts.refl ours) (Drafts.refl theirs) h

lemma drafts_standaloneLoop {reader : SqlReader} {allowAccept : Bool} {scope : BranchName}
    {transaction : LoggedTransaction} (inputs : List UserInput) :
    ∀ {shown : LoggedTransaction} {changedAny : Bool} {statements : List LoggedStatement},
      Drafts transaction shown →
      standalonePromptLoop reader allowAccept scope shown changedAny inputs =
        some (some statements) →
      Drafts transaction (transactionWithStatements transaction statements) := by
  have hempty : Drafts transaction (transactionWithStatements transaction []) :=
    ⟨rfl, fun _ hs => by cases hs⟩
  induction inputs with
  | nil =>
    intro shown changedAny statements hshown h
    unfold standalonePromptLoop at h
    split at h
    · cases h
      exact hempty
    · cases h
  | cons input inputs ih =>
    intro shown changedAny statements hshown h
    unfold standalonePromptLoop at h
    split at h
    · cases h
      exact hempty
    · cases input with
      | enter =>
        simp only at h
        split at h
        · cases h
          exact ⟨rfl, hshown.statements⟩
        · exact ih hshown h
      | delete => cases h
      | edit branch command =>
        simp only at h
        split at h
        · split at h
          · rename_i updated hupdated
            exact ih (hshown.trans (drafts_command hupdated)) h
          · exact ih hshown h
        · exact ih hshown h
      | unknown => exact ih hshown h

theorem drafts_standalonePrompt {reader : SqlReader} {allowAccept : Bool} {scope : BranchName}
    {transaction : LoggedTransaction} {inputs : List UserInput}
    {statements : List LoggedStatement}
    (h : promptStandaloneTransactionResolution reader allowAccept scope transaction inputs =
      some (some statements)) :
    Drafts transaction (transactionWithStatements transaction statements) :=
  drafts_standaloneLoop inputs (Drafts.refl transaction) h

end SqliteReconcile.TerminalUi
