import SqliteReconcile.LiteralValues
import SqliteReconcile.TerminalUi
import SqliteReconcile.TransactionTexts

/-!
# Edit commands on the shown transactions

The prompts show transactions under labels and take commands that name a statement by its
label. The commands find the statement by the identity of its object.
-/
namespace SqliteReconcile.EditCommands
open Models SqlMetadata LogMerge TerminalUi StatementLogging TransactionTexts

/-- A statement in memory; two are the same object when their references are equal. -/
structure StatementObject where
  ref : ℕ
  statement : LoggedStatement

/-- A logged transaction whose statements are objects. -/
structure ShownTransaction where
  branch : BranchName
  branchIndex : ℕ
  transactionId : ℕ
  committedAt : String
  statements : List StatementObject
  metadata : TransactionMetadata

def ShownTransaction.logged (transaction : ShownTransaction) : LoggedTransaction where
  branch := transaction.branch
  branchIndex := transaction.branchIndex
  transactionId := transaction.transactionId
  committedAt := transaction.committedAt
  statements := transaction.statements.map (·.statement)
  metadata := transaction.metadata

def ShownTransaction.withStatements (transaction : ShownTransaction)
    (statements : List StatementObject) : ShownTransaction :=
  { transaction with
    statements := statements
    metadata := transactionMetadata (statements.map (·.statement.metadata)) }

/-- The dict of shown transactions; the next new object gets `nextRef`. -/
structure Session where
  shown : List (List Char × ShownTransaction)
  nextRef : ℕ

/-- `transactions_by_label[label] = updated`, for a label that is there. -/
def Session.update (session : Session) (label : List Char) (updated : ShownTransaction) :
    Session :=
  { session with
    shown := session.shown.map fun entry => if entry.1 = label then (label, updated) else entry }

def Session.allocate (session : Session) : Session :=
  { session with nextRef := session.nextRef + 1 }

section
variable (unicode : Unicode)

/-- `raw.strip().rstrip(";").strip()`. -/
def commandText (raw : List Char) : List Char := strip ((strip raw).rdropWhile (· = ';'))

/-- `text.split(maxsplit=1)[1].strip().upper()`, for a text of several words. -/
def labelAfterWord (text : List Char) : List Char :=
  unicode.upperCase (strip (text.dropWhile (!isPythonSpace ·)))

/-- The label that follows the verb, empty when there is none. -/
def labelAfter (verb : List Char) (text : List Char) : Option (List Char) :=
  if unicode.upperCase text = verb then some []
  else if (verb ++ [' ']).isPrefixOf (unicode.upperCase text) then
    some (labelAfterWord unicode text)
  else none

def parseEditCommand (raw : List Char) : Option (List Char) :=
  [":EDIT".toList, "EDIT".toList].findSome? fun verb =>
    labelAfter unicode verb (commandText raw)

def parseDeleteCommand (raw : List Char) : Option (List Char) :=
  labelAfter unicode "DELETE".toList (commandText raw)

/-- `text.split()`. -/
def splitWords (text : List Char) : List (List Char) :=
  (text.splitOnP isPythonSpace).filter (· ≠ [])

/-- The position; no letter outside ASCII has a lower case among its letters. -/
def parsePosition (word : List Char) : Option InsertPosition :=
  if word.map Char.toLower = "before".toList then some .before
  else if word.map Char.toLower = "after".toList then some .after
  else none

def parseInsertCommand (raw : List Char) : Option (InsertPosition × List Char) :=
  match splitWords (commandText raw) with
  | [verb, position, label] =>
    if unicode.upperCase verb = "INSERT".toList then
      (parsePosition position).map fun position => (position, unicode.upperCase label)
    else none
  | _ => none

inductive Command
  | delete (label : List Char)
  | insert (position : InsertPosition) (anchorLabel : List Char)
  | edit (label : List Char)
  deriving DecidableEq

def Command.label : Command → List Char
  | .delete label => label
  | .insert _ anchorLabel => anchorLabel
  | .edit label => label

/-- The first of the three parsers that knows the line. -/
def readCommand (raw : List Char) : Option Command :=
  match parseDeleteCommand unicode raw with
  | some label => some (.delete label)
  | none =>
    match parseInsertCommand unicode raw with
    | some (position, anchorLabel) => some (.insert position anchorLabel)
    | none => (parseEditCommand unicode raw).map .edit

end

def transactionStatementLabel (transactionLabel : List Char) (statement : StatementObject)
    (statementIndex : ℕ) : List Char :=
  if statement.statement.branchIndex < 0 then
    transactionLabel ++ '.' :: 'N' :: Nat.toDigits 10 statement.statement.branchIndex.natAbs
  else transactionLabel ++ '.' :: Nat.toDigits 10 (statementIndex + 1)

def statementItems (shown : List (List Char × ShownTransaction)) :
    List (List Char × List Char × ShownTransaction × StatementObject) :=
  shown.flatMap fun entry => entry.2.statements.mapIdx fun index statement =>
    (transactionStatementLabel entry.1 statement index, entry.1, entry.2, statement)

/-- `lookup.get(label)`; a later item replaces an earlier one. -/
def statementLookup (shown : List (List Char × ShownTransaction)) (label : List Char) :
    Option (List Char × ShownTransaction × StatementObject) :=
  (statementItems shown).reverse.lookup label

def replaceTransactionStatement (transaction : ShownTransaction) (target : StatementObject)
    (replacement : Option StatementObject) : ShownTransaction :=
  transaction.withStatements (transaction.statements.flatMap fun statement =>
    if statement.ref = target.ref then replacement.toList else [statement])

/-- The transaction after inserting a statement before or after the anchor. -/
def insertTransactionStatement (transaction : ShownTransaction) (anchor : StatementObject)
    (position : InsertPosition) (inserted : StatementObject) : ShownTransaction :=
  transaction.withStatements (transaction.statements.flatMap fun statement =>
    (if statement.ref = anchor.ref ∧ position = .before then [inserted] else []) ++
      [statement] ++
      (if statement.ref = anchor.ref ∧ position = .after then [inserted] else []))

inductive EditResult
  | changed
  | handled
  | notCommand
  /-- Preparing the edited text raised an error. -/
  | raised
  deriving DecidableEq

/-- A command line, what the editor left, when it did not fail, and the outcome of preparing
that text for replay. -/
structure Interaction where
  raw : List Char
  edited : Option (List Char)
  prepared : Option PreparedSql

section
variable (unicode : Unicode) (reader : SqlReader) (session : Session)

def deleteCommand (label : List Char) : EditResult × Session :=
  if (statementItems session.shown).isEmpty then (.handled, session)
  else if label = [] then (.handled, session)
  else
    match session.shown.lookup label with
    | some transaction => (.changed, session.update label (transaction.withStatements []))
    | none =>
      match statementLookup session.shown label with
      | none => (.handled, session)
      | some (transactionLabel, transaction, statement) =>
        (.changed, session.update transactionLabel
          (replaceTransactionStatement transaction statement none))

def insertCommand (position : InsertPosition) (anchorLabel : List Char)
    (input : Interaction) : EditResult × Session :=
  if (statementItems session.shown).isEmpty then (.handled, session)
  else
    match statementLookup session.shown anchorLabel with
    | none => (.handled, session)
    | some (transactionLabel, transaction, anchor) =>
      match input.edited with
      | none => (.handled, session)
      | some editedSql =>
        if strip editedSql = [] then (.handled, session)
        else
          match input.prepared with
          | none => (.raised, session)
          | some prepared =>
            let inserted : StatementObject :=
              ⟨session.nextRef, newStatementSql reader transaction.logged prepared⟩
            (.changed, session.allocate.update transactionLabel
              (insertTransactionStatement transaction anchor position inserted))

def editCommand (label : List Char) (input : Interaction) : EditResult × Session :=
  if (statementItems session.shown).isEmpty then (.handled, session)
  else if label = [] then (.handled, session)
  else
    match statementLookup session.shown label with
    | none => (.handled, session)
    | some (transactionLabel, transaction, statement) =>
      match input.edited with
      | none => (.handled, session)
      | some editedSql =>
        if strip editedSql = [] then
          (.changed, session.update transactionLabel
            (replaceTransactionStatement transaction statement none))
        else
          match input.prepared with
          | none => (.raised, session)
          | some prepared =>
            let replacement : StatementObject :=
              ⟨session.nextRef, replaceStatementSql reader statement.statement prepared⟩
            (.changed, session.allocate.update transactionLabel
              (replaceTransactionStatement transaction statement (some replacement)))

/-- Apply edit, delete and insert commands to the shown transactions. -/
def handleTransactionEditCommand (input : Interaction) : EditResult × Session :=
  match readCommand unicode input.raw with
  | some (.delete label) => deleteCommand session label
  | some (.insert position anchorLabel) =>
    insertCommand reader session position anchorLabel input
  | some (.edit label) => editCommand reader session label input
  | none => (.notCommand, session)

def runCommands : Session → List Interaction → Session
  | session, [] => session
  | session, input :: inputs =>
    runCommands (handleTransactionEditCommand unicode reader session input).2 inputs

end

section
variable {transactionLabel transactionLabel' : List Char} {statement statement' : StatementObject}
  {index index' : ℕ}

/-- What a label adds to the label of the transaction, after a dot. -/
def labelSuffix (statement : StatementObject) (index : ℕ) : List Char :=
  if statement.statement.branchIndex < 0 then
    'N' :: Nat.toDigits 10 statement.statement.branchIndex.natAbs
  else Nat.toDigits 10 (index + 1)

lemma transactionStatementLabel_eq (transactionLabel : List Char) (statement : StatementObject)
    (index : ℕ) : transactionStatementLabel transactionLabel statement index =
      transactionLabel ++ '.' :: labelSuffix statement index := by
  unfold transactionStatementLabel labelSuffix
  split <;> rfl

lemma isDigit_of_mem_labelSuffix {c : Char} (h : c ∈ labelSuffix statement index) :
    c = 'N' ∨ c.isDigit = true := by
  unfold labelSuffix at h
  split at h
  · rcases List.mem_cons.mp h with hc | hc
    · exact .inl hc
    · exact .inr (LiteralValues.isDigit_of_mem_toDigits hc)
  · exact .inr (LiteralValues.isDigit_of_mem_toDigits h)

lemma dot_notMem_labelSuffix : '.' ∉ labelSuffix statement index := by
  intro h
  rcases isDigit_of_mem_labelSuffix h with hc | hc
  · exact absurd hc (by decide)
  · exact absurd hc (by decide)

lemma toDigits_inj {n m : ℕ} (h : Nat.toDigits 10 n = Nat.toDigits 10 m) : n = m := by
  have hvalue := congrArg (fun digits => Nat.ofDigitChars 10 digits 0) h
  simpa only [Nat.ofDigitChars_ten_toDigits] using hvalue

lemma head_notMem_toDigits (n : ℕ) (rest : List Char) : Nat.toDigits 10 n ≠ 'N' :: rest := by
  intro h
  have hdigit : ('N').isDigit = true := LiteralValues.isDigit_of_mem_toDigits (n := n) (by simp [h])
  exact absurd hdigit (by decide)

/-- A suffix tells an inserted statement by its number and a logged one by its place. -/
lemma labelSuffix_inj (h : labelSuffix statement index = labelSuffix statement' index') :
    statement.statement.branchIndex = statement'.statement.branchIndex ∨ index = index' := by
  unfold labelSuffix at h
  split at h <;> split at h
  · rename_i hneg hneg'
    have habs := toDigits_inj (List.cons.inj h).2
    omega
  · exact absurd h.symm (head_notMem_toDigits _ _)
  · exact absurd h (head_notMem_toDigits _ _)
  · have hsucc := toDigits_inj h
    omega

lemma eq_of_append_dot {first first' rest rest' : List Char} (hrest : '.' ∉ rest)
    (hrest' : '.' ∉ rest') (h : first ++ '.' :: rest = first' ++ '.' :: rest') :
    first = first' ∧ rest = rest' := by
  rcases List.append_eq_append_iff.mp h with ⟨middle, hfirst, hmiddle⟩ | ⟨middle, hfirst, hmiddle⟩
  · cases middle with
    | nil => exact ⟨by simpa using hfirst.symm, (List.cons.inj hmiddle).2⟩
    | cons c middle =>
      have hmem : '.' ∈ rest := by
        rw [(List.cons.inj hmiddle).2]
        simp
      exact absurd hmem hrest
  · cases middle with
    | nil => exact ⟨by simpa using hfirst, (List.cons.inj hmiddle).2.symm⟩
    | cons c middle =>
      have hmem : '.' ∈ rest' := by
        rw [(List.cons.inj hmiddle).2]
        simp
      exact absurd hmem hrest'

end

/-- The label names one shown statement: the transaction and what stands around it there. -/
structure Shows (shown : List (List Char × ShownTransaction)) (label transactionLabel : List Char)
    (transaction : ShownTransaction) (before : List StatementObject) (statement : StatementObject)
    (after : List StatementObject) : Prop where
  mem : (transactionLabel, transaction) ∈ shown
  statements : transaction.statements = before ++ statement :: after
  label_eq : label = transactionStatementLabel transactionLabel statement before.length

/-- Statements that no operation can confuse. -/
structure Distinct (nextRef : ℕ) (statements : List StatementObject) : Prop where
  allocated : ∀ s ∈ statements, s.ref < nextRef
  identical : ∀ s ∈ statements, ∀ s' ∈ statements, s.ref = s'.ref → s = s'
  indexes : (statements.map (·.statement.branchIndex)).Nodup

namespace Distinct

variable {nextRef : ℕ} {before after : List StatementObject} {statement new : StatementObject}

lemma of_sublist {statements statements' : List StatementObject}
    (h : Distinct nextRef statements) (hsub : List.Sublist statements' statements) :
    Distinct nextRef statements' where
  allocated s hs := h.allocated s (hsub.subset hs)
  identical s hs s' hs' := h.identical s (hsub.subset hs) s' (hsub.subset hs')
  indexes := h.indexes.sublist (hsub.map _)

lemma mono {nextRef' : ℕ} {statements : List StatementObject} (h : Distinct nextRef statements)
    (hle : nextRef ≤ nextRef') : Distinct nextRef' statements where
  allocated s hs := Nat.lt_of_lt_of_le (h.allocated s hs) hle
  identical := h.identical
  indexes := h.indexes

lemma remove (h : Distinct nextRef (before ++ statement :: after)) :
    Distinct nextRef (before ++ after) :=
  h.of_sublist (List.Sublist.append (List.Sublist.refl _) (List.sublist_cons_self _ _))

lemma place (h : Distinct nextRef (before ++ after)) (href : new.ref = nextRef)
    (hindex : ∀ s ∈ before ++ after, s.statement.branchIndex ≠ new.statement.branchIndex) :
    Distinct (nextRef + 1) (before ++ new :: after) := by
  have hmem : ∀ s ∈ before ++ new :: after, s = new ∨ s ∈ before ++ after := by
    intro s hs
    simp only [List.mem_append, List.mem_cons] at hs ⊢
    tauto
  refine ⟨?_, ?_, ?_⟩
  · intro s hs
    rcases hmem s hs with rfl | hs
    · omega
    · have hlt := h.allocated s hs
      omega
  · intro s hs s' hs' heq
    rcases hmem s hs with rfl | hold
    · rcases hmem s' hs' with rfl | hold'
      · rfl
      · have hlt := h.allocated s' hold'
        omega
    · rcases hmem s' hs' with rfl | hold'
      · have hlt := h.allocated s hold
        omega
      · exact h.identical s hold s' hold' heq
  · rw [List.map_append, List.map_cons, List.nodup_middle, ← List.map_append, List.nodup_cons]
    refine ⟨?_, h.indexes⟩
    intro hin
    obtain ⟨s, hs, heq⟩ := List.mem_map.mp hin
    exact hindex s hs heq

lemma index_ne (h : Distinct nextRef (before ++ statement :: after)) :
    ∀ s ∈ before ++ after, s.statement.branchIndex ≠ statement.statement.branchIndex := by
  intro s hs heq
  have hnodup := h.indexes
  rw [List.map_append, List.map_cons, List.nodup_middle, ← List.map_append,
    List.nodup_cons] at hnodup
  exact hnodup.1 (heq ▸ List.mem_map_of_mem hs)

lemma ref_ne (h : Distinct nextRef (before ++ statement :: after)) :
    ∀ s ∈ before ++ after, s.ref ≠ statement.ref := by
  intro s hs heq
  have hmem : s ∈ before ++ statement :: after := by
    simp only [List.mem_append, List.mem_cons] at hs ⊢
    tauto
  have hsame := h.identical s hmem statement (by simp) heq
  exact h.index_ne s hs (by rw [hsame])

end Distinct

/-- Labels that commands can tell apart: none continues another one after a dot. -/
structure ApartLabels (unicode : Unicode) (labels : List (List Char)) : Prop where
  nodup : labels.Nodup
  upper : ∀ label ∈ labels, unicode.upperCase label = label
  word : ∀ label ∈ labels, ∀ c ∈ label, isPythonSpace c = false
  apart : ∀ label ∈ labels, ∀ label' ∈ labels, ∀ rest, label' ≠ label ++ '.' :: rest

/-- In every shown transaction the statements are told apart. -/
def Session.AllDistinct (session : Session) : Prop :=
  ∀ entry ∈ session.shown, Distinct session.nextRef entry.2.statements

section
variable {session : Session} {label label' transactionLabel transactionLabel' : List Char}
  {transaction transaction' : ShownTransaction} {before after before' after' : List StatementObject}
  {statement statement' : StatementObject}

lemma eq_of_mem_shown (hnodup : (session.shown.map Prod.fst).Nodup)
    (h : (transactionLabel, transaction) ∈ session.shown)
    (h' : (transactionLabel, transaction') ∈ session.shown) : transaction = transaction' := by
  have hpair := List.inj_on_of_nodup_map hnodup h h' rfl
  exact (Prod.mk.inj hpair).2

lemma eq_of_append_eq (hdistinct : Distinct session.nextRef (before ++ statement :: after))
    (heq : before ++ statement :: after = before' ++ statement' :: after')
    (hsame : statement.statement.branchIndex = statement'.statement.branchIndex ∨
      before.length = before'.length) :
    before = before' ∧ statement = statement' ∧ after = after' := by
  have hlength : before.length = before'.length := by
    rcases hsame with hindex | hlength
    · have hget : ((before ++ statement :: after).map (·.statement.branchIndex))[before.length]? =
          some statement.statement.branchIndex := by simp
      have hget' : ((before ++ statement :: after).map
          (·.statement.branchIndex))[before'.length]? =
          some statement.statement.branchIndex := by
        rw [heq, hindex]
        simp
      have hlt := (List.getElem?_eq_some_iff.mp hget).1
      exact (List.getElem?_inj hlt hdistinct.indexes).mp (hget.trans hget'.symm)
    · exact hlength
  obtain ⟨hbefore, hrest⟩ := List.append_inj heq hlength
  exact ⟨hbefore, (List.cons.inj hrest).1, (List.cons.inj hrest).2⟩

/-- One label names one statement, in all that is shown. -/
lemma Shows.unique (hnodup : (session.shown.map Prod.fst).Nodup) (hdistinct : session.AllDistinct)
    (h : Shows session.shown label transactionLabel transaction before statement after)
    (h' : Shows session.shown label transactionLabel' transaction' before' statement' after') :
    transactionLabel = transactionLabel' ∧ transaction = transaction' ∧ before = before' ∧
      statement = statement' ∧ after = after' := by
  have hlabel := h.label_eq.symm.trans h'.label_eq
  rw [transactionStatementLabel_eq, transactionStatementLabel_eq] at hlabel
  obtain ⟨htransaction, hsuffix⟩ :=
    eq_of_append_dot dot_notMem_labelSuffix dot_notMem_labelSuffix hlabel
  subst htransaction
  have hsame := eq_of_mem_shown hnodup h.mem h'.mem
  subst hsame
  have hstatements := hdistinct _ h.mem
  simp only [h.statements] at hstatements
  exact ⟨rfl, rfl, eq_of_append_eq hstatements (h.statements.symm.trans h'.statements)
    (labelSuffix_inj hsuffix)⟩

lemma mem_statementItems {shown : List (List Char × ShownTransaction)} :
    (label, transactionLabel, transaction, statement) ∈ statementItems shown ↔
      ∃ before after, Shows shown label transactionLabel transaction before statement after := by
  simp only [statementItems, List.mem_flatMap, List.mem_mapIdx]
  constructor
  · rintro ⟨⟨entryLabel, entry⟩, hmem, index, hindex, heq⟩
    simp only [Prod.mk.injEq] at heq
    obtain ⟨hlabel, rfl, rfl, hstatement⟩ := heq
    refine ⟨entry.statements.take index, entry.statements.drop (index + 1), hmem, ?_, ?_⟩
    · rw [← hstatement, List.getElem_cons_drop, List.take_append_drop]
    · rw [← hlabel, hstatement, List.length_take_of_le (Nat.le_of_lt hindex)]
  · rintro ⟨before, after, h⟩
    refine ⟨(transactionLabel, transaction), h.mem, before.length, ?_, ?_⟩
    · simp [h.statements]
    · simp [h.statements, h.label_eq]

lemma lookup_of_unique {Key Value : Type} [BEq Key] [LawfulBEq Key] {items : List (Key × Value)}
    {key : Key} {value : Value} (hmem : (key, value) ∈ items)
    (hunique : ∀ value', (key, value') ∈ items → value' = value) :
    items.lookup key = some value := by
  cases hfound : items.lookup key with
  | none =>
    have hne := List.lookup_eq_none_iff.mp hfound (key, value) hmem
    simp at hne
  | some value' =>
    obtain ⟨first, rest, hitems, -⟩ := List.lookup_eq_some_iff.mp hfound
    have hvalue' : (key, value') ∈ items := by simp [hitems]
    rw [hunique value' hvalue']

lemma statementLookup_shows (hnodup : (session.shown.map Prod.fst).Nodup)
    (hdistinct : session.AllDistinct)
    (h : Shows session.shown label transactionLabel transaction before statement after) :
    statementLookup session.shown label = some (transactionLabel, transaction, statement) := by
  apply lookup_of_unique
  · rw [List.mem_reverse, mem_statementItems]
    exact ⟨before, after, h⟩
  · rintro ⟨transactionLabel', transaction', statement'⟩ hmem
    rw [List.mem_reverse, mem_statementItems] at hmem
    obtain ⟨before', after', h'⟩ := hmem
    obtain ⟨rfl, rfl, -, rfl, -⟩ := h.unique hnodup hdistinct h'
    rfl

lemma shows_of_statementLookup {shown : List (List Char × ShownTransaction)}
    (h : statementLookup shown label = some (transactionLabel, transaction, statement)) :
    ∃ before after, Shows shown label transactionLabel transaction before statement after := by
  obtain ⟨first, rest, hitems, -⟩ := List.lookup_eq_some_iff.mp h
  have hmem : (label, transactionLabel, transaction, statement) ∈
      (statementItems shown).reverse := by simp [hitems]
  exact mem_statementItems.mp (List.mem_reverse.mp hmem)

end

lemma flatMap_of_singles {α : Type} {f : α → List α} {before after : List α} (x : α)
    (h : ∀ y ∈ before ++ after, f y = [y]) :
    (before ++ x :: after).flatMap f = before ++ f x ++ after := by
  have hmap : ∀ ys : List α, (∀ y ∈ ys, f y = [y]) → ys.flatMap f = ys := by
    intro ys hys
    rw [List.flatMap_congr hys, List.flatMap_singleton']
  rw [List.flatMap_append, List.flatMap_cons,
    hmap before fun y hy => h y (List.mem_append_left _ hy),
    hmap after fun y hy => h y (List.mem_append_right _ hy), List.append_assoc]

section
variable {nextRef : ℕ} {transaction : ShownTransaction} {before after : List StatementObject}
  {statement : StatementObject}

/-- The object found under a label is the only one that is replaced. -/
lemma replaceTransactionStatement_eq (h : Distinct nextRef transaction.statements)
    (hstatements : transaction.statements = before ++ statement :: after)
    (replacement : Option StatementObject) :
    replaceTransactionStatement transaction statement replacement =
      transaction.withStatements (before ++ replacement.toList ++ after) := by
  rw [hstatements] at h
  unfold replaceTransactionStatement
  rw [hstatements, flatMap_of_singles, if_pos rfl]
  intro other hother
  rw [if_neg (h.ref_ne other hother)]

/-- The statements when a new one takes its place at an anchor. -/
def insertAt (position : InsertPosition) (before : List StatementObject)
    (anchor inserted : StatementObject) (after : List StatementObject) : List StatementObject :=
  match position with
  | .before => before ++ inserted :: anchor :: after
  | .after => before ++ anchor :: inserted :: after

lemma insertTransactionStatement_eq (h : Distinct nextRef transaction.statements)
    (hstatements : transaction.statements = before ++ statement :: after)
    (position : InsertPosition) (inserted : StatementObject) :
    insertTransactionStatement transaction statement position inserted =
      transaction.withStatements (insertAt position before statement inserted after) := by
  rw [hstatements] at h
  unfold insertTransactionStatement
  rw [hstatements, flatMap_of_singles]
  · cases position <;> simp [insertAt]
  · intro other hother
    simp [h.ref_ne other hother]

end

/-- The text that the editor and the preparation leave, as far as they succeed. -/
def newText (input : Interaction) : EditResult ⊕ Option PreparedSql :=
  match input.edited with
  | none => .inl .handled
  | some editedSql =>
    if strip editedSql = [] then .inr none
    else
      match input.prepared with
      | none => .inl .raised
      | some prepared => .inr (some prepared)

section
variable (unicode : Unicode) (reader : SqlReader)

/-- What the commands do to the shown transactions. -/
structure HitsShown (session : Session) : Prop where
  /-- A statement that a delete command names goes, and nothing else. -/
  delete : ∀ input label transactionLabel transaction before statement after,
    readCommand unicode input.raw = some (.delete label) →
    Shows session.shown label transactionLabel transaction before statement after →
    handleTransactionEditCommand unicode reader session input =
      (.changed, session.update transactionLabel (transaction.withStatements (before ++ after)))
  /-- An edited statement keeps its place and its index; an emptied text deletes it. -/
  edit : ∀ input label transactionLabel transaction before statement after,
    readCommand unicode input.raw = some (.edit label) →
    Shows session.shown label transactionLabel transaction before statement after →
    handleTransactionEditCommand unicode reader session input =
      match newText input with
      | .inl result => (result, session)
      | .inr none =>
        (.changed, session.update transactionLabel (transaction.withStatements (before ++ after)))
      | .inr (some prepared) =>
        (.changed, session.allocate.update transactionLabel
          (transaction.withStatements (before ++
            ⟨session.nextRef, replaceStatementSql reader statement.statement prepared⟩ :: after)))
  /-- An inserted statement stands beside the one that the command names. -/
  insert : ∀ input position label transactionLabel transaction before statement after,
    readCommand unicode input.raw = some (.insert position label) →
    Shows session.shown label transactionLabel transaction before statement after →
    handleTransactionEditCommand unicode reader session input =
      match newText input with
      | .inl result => (result, session)
      | .inr none => (.handled, session)
      | .inr (some prepared) =>
        (.changed, session.allocate.update transactionLabel
          (transaction.withStatements (insertAt position before statement
            ⟨session.nextRef, newStatementSql reader transaction.logged prepared⟩ after)))
  /-- The label of a transaction deletes all of it, while a statement is left to delete. -/
  deleteAll : ∀ input label transaction,
    readCommand unicode input.raw = some (.delete label) →
    (label, transaction) ∈ session.shown →
    handleTransactionEditCommand unicode reader session input = (.handled, session) ∨
      handleTransactionEditCommand unicode reader session input =
        (.changed, session.update label (transaction.withStatements []))
  /-- A label that is not shown changes nothing. -/
  unknown : ∀ input command, readCommand unicode input.raw = some command →
    (∀ transactionLabel transaction before statement after,
      ¬ Shows session.shown command.label transactionLabel transaction before statement after) →
    (∀ label transaction, command = .delete label → (label, transaction) ∉ session.shown) →
    handleTransactionEditCommand unicode reader session input = (.handled, session)
  /-- A line that is no command changes nothing. -/
  noCommand : ∀ input, readCommand unicode input.raw = none →
    handleTransactionEditCommand unicode reader session input = (.notCommand, session)

variable {unicode reader} {session : Session} {label transactionLabel : List Char}
  {transaction : ShownTransaction} {before after : List StatementObject}
  {statement : StatementObject} {input : Interaction}

lemma Shows.isEmpty_statementItems {shown : List (List Char × ShownTransaction)}
    (h : Shows shown label transactionLabel transaction before statement after) :
    (statementItems shown).isEmpty = false := by
  have hmem : (label, transactionLabel, transaction, statement) ∈ statementItems shown :=
    mem_statementItems.mpr ⟨before, after, h⟩
  rw [List.isEmpty_eq_false_iff]
  exact List.ne_nil_of_mem hmem

lemma Shows.label_ne_nil {shown : List (List Char × ShownTransaction)}
    (h : Shows shown label transactionLabel transaction before statement after) : label ≠ [] := by
  rw [h.label_eq, transactionStatementLabel_eq]
  simp

lemma Shows.lookup_eq_none (hlabels : ApartLabels unicode (session.shown.map Prod.fst))
    (h : Shows session.shown label transactionLabel transaction before statement after) :
    session.shown.lookup label = none := by
  rw [List.lookup_eq_none_iff]
  rintro ⟨label', transaction'⟩ hmem
  have hne := hlabels.apart transactionLabel (List.mem_map_of_mem h.mem) label'
    (List.mem_map_of_mem hmem) (labelSuffix statement before.length)
  rw [h.label_eq, transactionStatementLabel_eq]
  simpa using Ne.symm hne

lemma hitsShown_delete (hlabels : ApartLabels unicode (session.shown.map Prod.fst))
    (hdistinct : session.AllDistinct)
    (h : Shows session.shown label transactionLabel transaction before statement after) :
    deleteCommand session label =
      (.changed, session.update transactionLabel (transaction.withStatements (before ++ after))) := by
  unfold deleteCommand
  rw [if_neg (by simp [h.isEmpty_statementItems]), if_neg h.label_ne_nil,
    h.lookup_eq_none hlabels, statementLookup_shows hlabels.nodup hdistinct h]
  simp only
  rw [replaceTransactionStatement_eq (hdistinct _ h.mem) h.statements]
  simp

lemma hitsShown_edit (hlabels : ApartLabels unicode (session.shown.map Prod.fst))
    (hdistinct : session.AllDistinct)
    (h : Shows session.shown label transactionLabel transaction before statement after) :
    editCommand reader session label input =
      match newText input with
      | .inl result => (result, session)
      | .inr none =>
        (.changed, session.update transactionLabel (transaction.withStatements (before ++ after)))
      | .inr (some prepared) =>
        (.changed, session.allocate.update transactionLabel
          (transaction.withStatements (before ++
            ⟨session.nextRef, replaceStatementSql reader statement.statement prepared⟩ :: after))) := by
  have hreplace := replaceTransactionStatement_eq (hdistinct _ h.mem) h.statements
  unfold editCommand newText
  rw [if_neg (by simp [h.isEmpty_statementItems]), if_neg h.label_ne_nil,
    statementLookup_shows hlabels.nodup hdistinct h]
  simp only
  cases input.edited with
  | none => rfl
  | some editedSql =>
    simp only
    split
    · rw [hreplace]
      simp
    · cases input.prepared with
      | none => rfl
      | some prepared =>
        simp only
        rw [hreplace]
        simp

lemma hitsShown_insert (hlabels : ApartLabels unicode (session.shown.map Prod.fst))
    (hdistinct : session.AllDistinct)
    (h : Shows session.shown label transactionLabel transaction before statement after)
    (position : InsertPosition) :
    insertCommand reader session position label input =
      match newText input with
      | .inl result => (result, session)
      | .inr none => (.handled, session)
      | .inr (some prepared) =>
        (.changed, session.allocate.update transactionLabel
          (transaction.withStatements (insertAt position before statement
            ⟨session.nextRef, newStatementSql reader transaction.logged prepared⟩ after))) := by
  unfold insertCommand newText
  rw [if_neg (by simp [h.isEmpty_statementItems]),
    statementLookup_shows hlabels.nodup hdistinct h]
  simp only
  cases input.edited with
  | none => rfl
  | some editedSql =>
    simp only
    split
    · rfl
    · cases input.prepared with
      | none => rfl
      | some prepared =>
        simp only
        rw [insertTransactionStatement_eq (hdistinct _ h.mem) h.statements]

lemma statementLookup_eq_none {shown : List (List Char × ShownTransaction)}
    (h : ∀ transactionLabel transaction before statement after,
      ¬ Shows shown label transactionLabel transaction before statement after) :
    statementLookup shown label = none := by
  cases hfound : statementLookup shown label with
  | none => rfl
  | some found =>
    obtain ⟨transactionLabel, transaction, statement⟩ := found
    obtain ⟨before, after, hshows⟩ := shows_of_statementLookup hfound
    exact absurd hshows (h _ _ _ _ _)

lemma lookup_eq_none_of_notMem {shown : List (List Char × ShownTransaction)}
    (h : ∀ transaction, (label, transaction) ∉ shown) : shown.lookup label = none := by
  rw [List.lookup_eq_none_iff]
  rintro ⟨label', transaction⟩ hmem
  have hne : label ≠ label' := by
    rintro rfl
    exact h transaction hmem
  simpa using hne

lemma hitsShown_unknown {command : Command}
    (hread : readCommand unicode input.raw = some command)
    (h : ∀ transactionLabel transaction before statement after,
      ¬ Shows session.shown command.label transactionLabel transaction before statement after)
    (hdelete : ∀ label transaction, command = .delete label →
      (label, transaction) ∉ session.shown) :
    handleTransactionEditCommand unicode reader session input = (.handled, session) := by
  have hlookup := statementLookup_eq_none h
  unfold handleTransactionEditCommand
  rw [hread]
  cases command with
  | delete label =>
    have hnone := lookup_eq_none_of_notMem fun transaction => hdelete label transaction rfl
    simp only [Command.label] at hlookup
    simp only [deleteCommand, hnone, hlookup, ite_self]
  | insert position anchorLabel =>
    simp only [Command.label] at hlookup
    simp only [insertCommand, hlookup, ite_self]
  | edit label =>
    simp only [Command.label] at hlookup
    simp only [editCommand, hlookup, ite_self]

theorem hitsShown (hlabels : ApartLabels unicode (session.shown.map Prod.fst))
    (hdistinct : session.AllDistinct) : HitsShown unicode reader session where
  delete input label transactionLabel transaction before statement after hread h := by
    unfold handleTransactionEditCommand
    rw [hread]
    exact hitsShown_delete hlabels hdistinct h
  edit input label transactionLabel transaction before statement after hread h := by
    unfold handleTransactionEditCommand
    rw [hread]
    exact hitsShown_edit hlabels hdistinct h
  insert input position label transactionLabel transaction before statement after hread h := by
    unfold handleTransactionEditCommand
    rw [hread]
    exact hitsShown_insert hlabels hdistinct h position
  deleteAll input label transaction hread hmem := by
    have hlookup : session.shown.lookup label = some transaction :=
      lookup_of_unique hmem fun transaction' hmem' =>
        eq_of_mem_shown hlabels.nodup hmem' hmem
    unfold handleTransactionEditCommand
    rw [hread]
    simp only [deleteCommand, hlookup]
    split_ifs
    · exact .inl rfl
    · exact .inl rfl
    · exact .inr rfl
  unknown input command hread h hdelete := hitsShown_unknown hread h hdelete
  noCommand input hread := by
    unfold handleTransactionEditCommand
    rw [hread]

end

end SqliteReconcile.EditCommands
