import SqliteReconcile.StatementLogging

/-!
# Transaction control by text

SQLite reads the tokens of a text, the wrapper its first characters and its last word. Both
keep a stack of savepoints; the wrapper's has a buffer of log entries where SQLite's has the
effects of the statements.
-/
namespace SqliteReconcile.TransactionTexts
open Savepoints SqlTokens StatementLogging Wrapper SQLiteWrapper

inductive Command
  | control (control : Control)
  | dml
  deriving DecidableEq

def commandOf (text : List Char) : Option Command :=
  match controlOf (tokens text), statementOf (tokens text) with
  | some control, _ => some (.control control)
  | none, some (.dml _) => some .dml
  | none, _ => none

/-- What SQLite may do with a command. A statement that writes has the log entry prepared
for it. -/
inductive Executes : Connection → Command → LogEntry → Outcome → Connection → Prop
  | begin {conn entry} : conn.transaction = none →
    Executes conn (.control .begin) entry .ok
      { conn with transaction := some ⟨true, Stack.new [], none⟩ }
  | commit {conn transaction entry} : conn.transaction = some transaction →
    Executes conn (.control .commit) entry .ok (conn.commit transaction)
  | rollback {conn transaction entry} : conn.transaction = some transaction →
    Executes conn (.control .rollback) entry .ok { conn with transaction := none }
  | savepoint {conn transaction name entry} : conn.transaction = some transaction →
    Executes conn (.control (.savepoint name)) entry .ok
      (conn.withStack transaction (transaction.stack.save (fold name)))
  | savepointOpens {conn name entry} : conn.transaction = none →
    Executes conn (.control (.savepoint name)) entry .ok
      { conn with transaction := some ⟨false, (Stack.new []).save (fold name), none⟩ }
  | release {conn transaction stack name entry} : conn.transaction = some transaction →
    transaction.stack.release (fold name) = some stack →
    (transaction.begun ∨ stack.saved ≠ []) →
    Executes conn (.control (.release name)) entry .ok (conn.withStack transaction stack)
  | releaseCommits {conn transaction stack name entry} : conn.transaction = some transaction →
    transaction.stack.release (fold name) = some stack →
    transaction.begun = false → stack.saved = [] →
    Executes conn (.control (.release name)) entry .ok (conn.commit transaction)
  | rollbackTo {conn transaction stack name entry} : conn.transaction = some transaction →
    transaction.stack.rollbackTo (fold name) = some stack →
    Executes conn (.control (.rollbackTo name)) entry .ok (conn.withStack transaction stack)
  | dml {conn entry} : Executes conn .dml entry .ok (conn.addEffect ⟨entry, none⟩)
  | fails {conn command entry message} :
    Executes conn command entry (.error message false) (conn.noteError message)
  | failsPartially {conn entry message} :
    Executes conn .dml entry (.error message true)
      ((conn.addEffect ⟨entry, some message⟩).noteError message)
  | failsAndRollsBack {conn transaction command entry message changed} :
    conn.transaction = some transaction →
    Executes conn command entry (.error message changed) { conn with transaction := none }

/-- `sql.split()[-1]`. -/
def lastWord (sql : List Char) : List Char :=
  (sql.rdropWhile isPythonSpace).rtakeWhile (!isPythonSpace ·)

/-- `word.strip("\\"'`;")`. -/
def stripQuotes (word : List Char) : List Char :=
  let isQuote := fun c => c = '"' || c = '\'' || c = Char.ofNat 96 || c = ';'
  (word.dropWhile isQuote).rdropWhile isQuote

def savepointName (sql : List Char) : List Char := stripQuotes (lastWord sql)

/-- The wrapper; its savepoints have the names that it reads in the texts. -/
structure TextWrapper where
  base : SQLiteWrapper
  savepoints : List (List Char × ℕ)

namespace TextWrapper

def new (log : LogTables) : TextWrapper := ⟨SQLiteWrapper.new log, []⟩

def begin (w : TextWrapper) : TextWrapper := ⟨w.base.begin, []⟩

def discard (w : TextWrapper) : TextWrapper := ⟨w.base.discard, []⟩

def flush (w : TextWrapper) : TextWrapper := ⟨w.base.flush, []⟩

def savepoint (w : TextWrapper) (sql : List Char) : TextWrapper :=
  let w := if w.base.inTransaction then w else w.begin
  { w with savepoints := (savepointName sql, w.base.buffer.length) :: w.savepoints }

def releaseSavepoint (w : TextWrapper) (connInTransaction : Bool) : TextWrapper :=
  let w := { w with savepoints := w.savepoints.tail }
  if w.base.inTransaction && !connInTransaction then w.flush else w

def rollbackToSavepoint (unicode : Unicode) (w : TextWrapper) (sql : List Char) : TextWrapper :=
  let name := savepointName sql
  match w.savepoints.dropWhile fun sp => unicode.upperCase sp.1 ≠ unicode.upperCase name with
  | [] => w
  | (spName, bufIdx) :: rest =>
    ⟨{ w.base with buffer := w.base.buffer.take bufIdx }, (spName, bufIdx) :: rest⟩

def recordEffectfulEntry (w : TextWrapper) (entry : Option LogEntry) : TextWrapper :=
  match entry with
  | none => w
  | some entry => { w with base := w.base.recordEffectfulEntry entry }

def markTransactionError (w : TextWrapper) (error : String) : TextWrapper :=
  { w with base := w.base.markTransactionError error }

/-- One execute call, after its entry was prepared and SQLite answered it. -/
def executeOn (unicode : Unicode) (w : TextWrapper) (sql : List Char) (entry : Option LogEntry)
    (outcome : Outcome) (connInTransaction : Bool) : TextWrapper :=
  let stripped := strip sql
  match outcome with
  | .error message changed =>
    if w.base.inTransaction && !connInTransaction then w.discard
    else
      let w := if changed then
          w.recordEffectfulEntry (entry.map (entryWithExecutionError · message))
        else w
      w.markTransactionError message
  | .ok =>
    match action unicode stripped with
    | .begin => w.begin
    | .flush => w.flush
    | .rollbackToSavepoint => w.rollbackToSavepoint unicode stripped
    | .discard => w.discard
    | .savepoint => w.savepoint stripped
    | .releaseSavepoint => w.releaseSavepoint connInTransaction
    | .recordEffectfulEntry => w.recordEffectfulEntry entry

end TextWrapper

/-- Texts executed one after another through the wrapper, each step satisfying `P`. A script
is executed statement by statement, and `commit` and `rollback` execute their keyword. A call
that raises before it has an entry executes nothing. -/
inductive TextRun (unicode : Unicode) (parse : List Char → Parsed)
    (P : Connection → List Char → Command → Outcome → Prop) (log : LogTables) :
    Connection → TextWrapper → Prop
  | start : TextRun unicode parse P log Connection.new (TextWrapper.new log)
  | execute {conn w sql command prepared entry outcome conn'} :
    TextRun unicode parse P log conn w → commandOf (strip sql) = some command →
    entryForExecute unicode parse (fun _ => .ok prepared) (strip sql) = .ok entry →
    Executes conn command prepared outcome conn' → P conn (strip sql) command outcome →
    TextRun unicode parse P log conn'
      (w.executeOn unicode sql entry outcome conn'.inTransaction)
  | raises {conn w sql prepare raised} :
    TextRun unicode parse P log conn w →
    entryForExecute unicode parse prepare (strip sql) = .error raised →
    TextRun unicode parse P log conn w

/-- The text is spelled as the wrapper expects. -/
def SpelledPlainly (text : List Char) : Control → Prop
  | .commit => "commit".toList <+: fold text
  | .rollbackTo _ => "rollback to".toList <+: fold text
  | _ => StartsWithComment text = false

instance (text : List Char) : DecidablePred (SpelledPlainly text)
  | .commit => inferInstanceAs (Decidable (_ <+: _))
  | .rollbackTo _ => inferInstanceAs (Decidable (_ <+: _))
  | .begin | .rollback | .savepoint _ | .release _ => inferInstanceAs (Decidable (_ = _))

def actionFor : Control → Action
  | .begin => .begin
  | .commit => .flush
  | .rollback => .discard
  | .savepoint _ => .savepoint
  | .release _ => .releaseSavepoint
  | .rollbackTo _ => .rollbackToSavepoint

section

variable {unicode : Unicode} {text rest word : List Char} {control : Control}

lemma dropWhile_strip (text : List Char) :
    (strip text).dropWhile isPythonSpace = strip text := by
  unfold strip
  cases hbody : text.dropWhile isPythonSpace with
  | nil => simp
  | cons c body =>
    have hc : isPythonSpace c = false := by
      have hhead := List.head?_dropWhile_not isPythonSpace text
      simpa [hbody] using hhead
    have hfirst := @rdropWhile_append [c] isPythonSpace (by simp [hc]) body
    rw [List.singleton_append] at hfirst
    rw [hfirst, List.singleton_append, List.dropWhile_cons_of_neg (by simp [hc])]

lemma strip_strip (text : List Char) : strip (strip text) = strip text :=
  calc strip (strip text) = (strip text).rdropWhile isPythonSpace := by
        rw [strip, dropWhile_strip]
    _ = strip text := List.rdropWhile_idempotent _ _

lemma dropWhile_isSpace_strip (text : List Char) :
    (strip text).dropWhile isSpace = strip text := by
  cases hbody : strip text with
  | nil => rfl
  | cons c body =>
    have hc : isPythonSpace c = false := by
      have hhead := List.head?_dropWhile_not isPythonSpace (strip text)
      rw [dropWhile_strip, hbody] at hhead
      exact hhead
    apply List.dropWhile_cons_of_neg
    intro hspace
    rw [isPythonSpace_of_isSpace hspace] at hc
    cases hc

lemma upper_toLower (unicode : Unicode) (c : Char) :
    unicode.upper c.toLower = unicode.upper c := by
  by_cases hupper : c.isUpper
  · have hlower : c.toLower.val < 128 := by
      apply isLower_ascii
      rw [Char.isLower_toLower_eq_isAlpha, Char.isAlpha, hupper, Bool.true_or]
    rw [unicode.upper_ascii _ hlower, unicode.upper_ascii _ (toLower_ascii hlower),
      Char.toUpper_toLower_eq_toUpper]
  · rw [Char.toLower_eq_of_not_isUpper hupper]

lemma upperCase_fold (text : List Char) :
    unicode.upperCase (fold text) = unicode.upperCase text := by
  unfold Unicode.upperCase fold
  rw [List.flatMap_map]
  exact List.flatMap_congr fun c _ => upper_toLower unicode c

lemma upperCase_congr {other : List Char} (h : fold text = fold other) :
    unicode.upperCase text = unicode.upperCase other := by
  rw [← upperCase_fold text, h, upperCase_fold]

lemma upperCase_start (h : word <+: fold text) (hascii : ∀ c ∈ word, c.val < 128) :
    ∃ rest, unicode.upperCase text = word.map Char.toUpper ++ rest := by
  obtain ⟨rest, hrest⟩ := h
  refine ⟨unicode.upperCase rest, ?_⟩
  have hword : unicode.upperCase word = word.map Char.toUpper := by
    clear hrest
    induction word with
    | nil => rfl
    | cons c others ih =>
      rw [upperCase_cons_ascii (hascii c List.mem_cons_self),
        ih fun d hd => hascii d (List.mem_cons_of_mem _ hd), List.map_cons]
  rw [← upperCase_fold text, ← hrest, upperCase_append, hword]

lemma isIdChar_of_upper {c : Char} (h : c.val < 128 → c.toUpper.isAlpha) : isIdChar c = true := by
  unfold isIdChar
  by_cases hascii : c.val < 128
  · have halpha : c.isAlpha := by
      rw [← Char.isAlpha_toUpper_eq_isAlpha]
      exact h hascii
    simp [Char.isAlphanum, halpha]
  · have hle : (128 : UInt32) ≤ c.val := UInt32.not_lt.mp hascii
    simp [hle]

lemma not_to_of_ends (hrest : ∀ c, rest.head? = some c → isIdChar c = false)
    (h : ends (dropKeyword "transaction" (tokens rest))) :
    ¬ " TO".toList <+: unicode.upperCase rest := by
  intro hto
  cases rest with
  | nil => simp [Unicode.upperCase] at hto
  | cons c body =>
    have hc : c.val < 128 := by
      by_contra hnot
      have hid := isIdChar_of_upper fun h => absurd h hnot
      rw [hrest c rfl] at hid
      cases hid
    have hsplit : c.toUpper = ' ' ∧ "TO".toList <+: unicode.upperCase body := by
      rw [upperCase_cons_ascii hc] at hto
      have hparts := List.cons_prefix_cons.mp hto
      exact ⟨hparts.1.symm, hparts.2⟩
    have hblank : c = ' ' := by
      have hnotLower : ¬ c.isLower := by
        intro hlower
        have halpha : c.toUpper.isAlpha := by
          rw [Char.isAlpha_toUpper_eq_isAlpha, Char.isAlpha, hlower, Bool.or_true]
        rw [hsplit.1] at halpha
        cases halpha
      rw [← hsplit.1, Char.toUpper_eq_of_not_isLower hnotLower]
    subst hblank
    rw [tokens_space (by decide)] at h
    cases body with
    | nil => simp [Unicode.upperCase] at hsplit
    | cons d others =>
      have hword : isIdChar d = true := by
        apply isIdChar_of_upper
        intro hd
        have hto := hsplit.2
        rw [upperCase_cons_ascii hd] at hto
        rw [← (List.cons_prefix_cons.mp hto).1]
        decide
      rw [tokens_of_lexeme (lexeme_word hword), Option.toList_some, List.singleton_append,
        dropKeyword] at h
      split_ifs at h with hkey
      · -- the word TRANSACTION does not start with TO
        have hfold : fold (d :: others.takeWhile isIdChar) = "transaction".toList := by
          simpa [Token.isKeyword] using hkey
        have hstart : "transaction".toList <+: fold (d :: others) := by
          rw [← hfold]
          refine ⟨fold (others.dropWhile isIdChar), ?_⟩
          rw [← fold_append, List.cons_append, List.takeWhile_append_dropWhile]
        obtain ⟨more, hmore⟩ := @upperCase_start unicode _ _ hstart (by simp)
        have hto := hsplit.2
        rw [hmore] at hto
        simp [List.cons_prefix_cons] at hto
      · cases htail : tokens (others.dropWhile isIdChar) <;> simp [htail, ends] at h

lemma actionOf_commit {sqlUpper : List Char} (h : sqlUpper = "COMMIT".toList ++ rest) :
    actionOf sqlUpper = .flush := by
  rw [h]
  simp [actionOf, List.cons_prefix_cons]

lemma actionOf_rollbackTo {sqlUpper : List Char} (h : sqlUpper = "ROLLBACK TO".toList ++ rest) :
    actionOf sqlUpper = .rollbackToSavepoint := by
  rw [h]
  simp [actionOf, List.cons_prefix_cons]

lemma actionOf_rollback {sqlUpper : List Char} (h : sqlUpper = "ROLLBACK".toList ++ rest)
    (hrest : ¬ " TO".toList <+: rest) : actionOf sqlUpper = .discard := by
  have hto : ¬ "ROLLBACK TO".toList <+: sqlUpper := by
    rw [h]
    simpa [List.cons_prefix_cons] using hrest
  have hsavepoint : ¬ "ROLLBACK TO SAVEPOINT".toList <+: sqlUpper := by
    intro hstart
    apply hto
    have hword : "ROLLBACK TO".toList <+: "ROLLBACK TO SAVEPOINT".toList := by decide
    exact hword.trans hstart
  have hnot : ¬ (decide ("ROLLBACK TO".toList <+: sqlUpper) ||
      decide ("ROLLBACK TO SAVEPOINT".toList <+: sqlUpper)) = true := by
    rw [Bool.or_eq_true, decide_eq_true_eq, decide_eq_true_eq]
    exact not_or.mpr ⟨hto, hsavepoint⟩
  have hother : ∀ word : List Char, word.head? ≠ none → word.head? ≠ some 'R' →
      ¬ word <+: sqlUpper := by
    intro word hne hhead hstart
    rw [h] at hstart
    cases word with
    | nil => exact hne rfl
    | cons c others => exact hhead (congrArg some (List.cons_prefix_cons.mp hstart).1)
  unfold actionOf
  rw [if_neg (hother _ (by simp) (by simp)), if_neg (hother _ (by simp) (by simp)), if_neg hnot,
    if_pos (by rw [h]; exact List.prefix_append _ _)]

lemma isLowerWord_control : ∀ keyword ∈ control.keywords, IsLowerWord keyword := by
  intro keyword hmem
  cases control <;> simp only [Control.keywords, List.mem_cons, List.not_mem_nil, or_false] at hmem
  case commit => rcases hmem with rfl | rfl <;> simp [IsLowerWord]
  all_goals
    subst hmem
    simp [IsLowerWord]

lemma startsWithComment_of (h : text = '-' :: '-' :: rest ∨ text = '/' :: '*' :: rest) :
    StartsWithComment text = true := by
  rcases h with h | h <;> (rw [h]; rfl)

/-- The bookkeeping follows the statement, when the text is spelled plainly. -/
lemma action_control (h : controlOf (tokens (strip text)) = some control)
    (hplain : SpelledPlainly (strip text) control) :
    action unicode (strip text) = actionFor control := by
  unfold action
  rw [strip_strip]
  have hkeyword : StartsWithComment (strip text) = false → ∃ keyword ∈ control.keywords, ∃ rest,
      unicode.upperCase (strip text) = keyword.toList.map Char.toUpper ++ unicode.upperCase rest ∧
        ∀ c, rest.head? = some c → isIdChar c = false := by
    intro hcomment
    have hstarts := @upperCase_strip unicode (strip text) _ (controlOf_starts h)
      isLowerWord_control
    rw [strip_strip] at hstarts
    rcases hstarts with ⟨rest, hstart⟩ | ⟨-, hkeyword⟩
    · rw [startsWithComment_of hstart] at hcomment
      cases hcomment
    · exact hkeyword
  cases control with
  | begin =>
    obtain ⟨keyword, hmem, rest, hupper, -⟩ := hkeyword hplain
    obtain rfl := List.mem_singleton.mp hmem
    rw [hupper]
    simp [actionOf, actionFor, List.cons_prefix_cons]
  | commit =>
    obtain ⟨rest, hupper⟩ := @upperCase_start unicode _ _ hplain (by simp)
    exact actionOf_commit hupper
  | rollbackTo name =>
    obtain ⟨rest, hupper⟩ := @upperCase_start unicode _ _ hplain (by simp)
    exact actionOf_rollbackTo hupper
  | savepoint name =>
    obtain ⟨keyword, hmem, rest, hupper, -⟩ := hkeyword hplain
    obtain rfl := List.mem_singleton.mp hmem
    rw [hupper]
    simp [actionOf, actionFor, List.cons_prefix_cons]
  | release name =>
    obtain ⟨keyword, hmem, rest, hupper, -⟩ := hkeyword hplain
    obtain rfl := List.mem_singleton.mp hmem
    rw [hupper]
    simp [actionOf, actionFor, List.cons_prefix_cons]
  | rollback =>
    obtain ⟨keyword, hmem, hkey⟩ := controlOf_starts h
    obtain rfl := List.mem_singleton.mp hmem
    rcases keyword_first hkey with hcomment | ⟨first, rest, hbody, hfold, hrest⟩
    · rw [dropWhile_isSpace_strip] at hcomment
      exact absurd hcomment (by simpa [SpelledPlainly] using hplain)
    · rw [dropWhile_isSpace_strip] at hbody
      have hletters : ∀ c ∈ first, c.isAlpha := by
        intro c hc
        have hlower : c.toLower ∈ "rollback".toList := by
          rw [← hfold]
          exact List.mem_map_of_mem hc
        rw [← Char.isAlpha_toLower_eq_isAlpha, Char.isAlpha,
          (@isLowerWord_control .rollback "rollback" hmem).2 _ hlower, Bool.or_true]
      have hne : first ≠ [] := by
        intro hnil
        rw [hnil] at hfold
        cases hfold
      have hends := controlOf_rollback h
      rw [hbody, tokens_word hne (fun c hc => by simp [isIdChar, Char.isAlphanum, hletters c hc])
        hrest] at hends
      have hupper : unicode.upperCase (strip text) =
          "ROLLBACK".toList ++ unicode.upperCase rest := by
        rw [hbody, upperCase_append, upperCase_of_fold (by rw [hfold]; simp), hfold]
        simp
      exact actionOf_rollback hupper (not_to_of_ends hrest hends)

end

def openNames (conn : Connection) : List (List Char) :=
  match conn.transaction with
  | none => []
  | some transaction => transaction.stack.saved.map Prod.fst

/-- The log entries of what an open transaction did and has not undone. -/
def openEffects (conn : Connection) : List LogEntry :=
  match conn.transaction with
  | none => []
  | some transaction => transaction.stack.current.map Effect.logEntry

/-- When a statement succeeds, the wrapper reads it as SQLite does: the text is spelled
plainly, its last word is the name, a RELEASE ends the innermost savepoint or the
transaction, and no inner savepoint has a name that differs for SQLite alone. -/
def ReadsAlike (unicode : Unicode) (conn : Connection) (text : List Char) : Command → Outcome → Prop
  | .control control, .ok =>
    SpelledPlainly text control ∧
      match control with
      | .savepoint name => fold (savepointName text) = fold name
      | .rollbackTo name => fold (savepointName text) = fold name ∧
        ∀ inner ∈ (openNames conn).takeWhile (· ≠ fold name),
          unicode.upperCase inner ≠ unicode.upperCase name
      | .release name => ∀ transaction stack, conn.transaction = some transaction →
        transaction.stack.release (fold name) = some stack →
        stack.saved = transaction.stack.saved.tail ∨
          transaction.begun = false ∧ stack.saved = []
      | _ => True
  | _, _ => True

/-- The wrapper's buffer, and the buffers that its savepoints stand for. -/
structure Tracked (buffers : Stack (List Char) (List LogEntry)) (w : TextWrapper) : Prop where
  current : buffers.current = w.base.buffer
  saved : List.Forall₂ (fun s sp => s.1 = fold sp.1 ∧ s.2.length = sp.2) buffers.saved w.savepoints
  growing : Growing buffers

/-- Every buffered entry belongs to an effect, in the order of the effects. -/
def Buffers (effects : List Effect) (buffer : List LogEntry) : Prop :=
  List.Sublist buffer (effects.map Effect.logEntry)

/-- The wrapper in an open transaction. -/
structure Opened (transaction : OpenTransaction) (w : TextWrapper) : Prop where
  inTransaction : w.base.inTransaction = true
  tracked : ∃ buffers, Tracked buffers w ∧ Stack.Related Buffers transaction.stack buffers

/-- The wrapper outside a transaction. -/
structure Closed (w : TextWrapper) : Prop where
  inTransaction : w.base.inTransaction = false
  buffer : w.base.buffer = []
  savepoints : w.savepoints = []

structure Follows (conn : Connection) (w : TextWrapper) : Prop where
  opened : ∀ transaction, conn.transaction = some transaction → Opened transaction w
  closed : conn.transaction = none → Closed w

section

variable {unicode : Unicode} {parse : List Char → Parsed} {conn : Connection} {w : TextWrapper}
  {transaction : OpenTransaction} {buffers : Stack (List Char) (List LogEntry)}
  {text : List Char} {name : List Char}

lemma Follows.inTransaction (h : Follows conn w) : w.base.inTransaction = conn.inTransaction := by
  unfold Connection.inTransaction
  cases ht : conn.transaction with
  | none => exact (h.closed ht).inTransaction
  | some transaction => exact (h.opened transaction ht).inTransaction

lemma Follows.close (hnone : conn.transaction = none) (h : Closed w) : Follows conn w :=
  ⟨fun transaction ht => absurd (hnone.symm.trans ht) (Option.some_ne_none transaction).symm,
    fun _ => h⟩

lemma Follows.keepOpen (hsome : conn.transaction = some transaction) (h : Opened transaction w) :
    Follows conn w := by
  refine ⟨fun other ht => ?_, fun hnone => ?_⟩
  · obtain rfl := Option.some.inj (hsome.symm.trans ht)
    exact h
  · rw [hsome] at hnone
    cases hnone

lemma tracked_begin (base : SQLiteWrapper) (hbuffer : base.buffer = []) :
    Tracked (Stack.new []) ⟨base, []⟩ :=
  ⟨hbuffer.symm, .nil, growing_new []⟩

lemma Tracked.save (h : Tracked buffers w) (hname : fold (savepointName text) = fold name) :
    Tracked (buffers.save (fold name))
      { w with savepoints := (savepointName text, w.base.buffer.length) :: w.savepoints } :=
  ⟨h.current, .cons ⟨hname.symm, by rw [h.current]⟩ h.saved, h.growing.save _⟩

lemma Tracked.release {released : Stack (List Char) (List LogEntry)} (h : Tracked buffers w)
    (hr : buffers.release (fold name) = some released)
    (hsaved : released.saved = buffers.saved.tail) :
    Tracked released { w with savepoints := w.savepoints.tail } := by
  obtain ⟨-, -, hcurrent⟩ := Stack.release_eq_some hr
  refine ⟨hcurrent.trans h.current, ?_, h.growing.release hr⟩
  rw [hsaved, ← List.drop_one]
  simpa using List.forall₂_drop 1 h.saved

lemma Tracked.append (h : Tracked buffers w) (added : List LogEntry) :
    Tracked (buffers.set (buffers.current ++ added))
      { w with base := { w.base with buffer := w.base.buffer ++ added } } :=
  ⟨congrArg (· ++ added) h.current, h.saved, h.growing.append added⟩

/-- Both stacks stop at the same savepoint. -/
lemma dropWhile_tracked {saved : List (List Char × List LogEntry)} {sps : List (List Char × ℕ)}
    {word : List Char} (hword : fold word = fold name)
    (hinner : ∀ inner ∈ (saved.map Prod.fst).takeWhile (· ≠ fold name),
      unicode.upperCase inner ≠ unicode.upperCase name)
    (h : List.Forall₂ (fun s sp => s.1 = fold sp.1 ∧ s.2.length = sp.2) saved sps) :
    List.Forall₂ (fun s sp => s.1 = fold sp.1 ∧ s.2.length = sp.2)
      (saved.dropWhile (·.1 ≠ fold name))
      (sps.dropWhile fun sp => unicode.upperCase sp.1 ≠ unicode.upperCase word) := by
  induction h with
  | nil => exact .nil
  | @cons s sp saved sps hhead htail ih =>
    have hupper : unicode.upperCase s.1 = unicode.upperCase sp.1 := by
      rw [hhead.1, upperCase_fold]
    have hwordUpper : unicode.upperCase word = unicode.upperCase name := upperCase_congr hword
    by_cases hname : s.1 = fold name
    · have hsame : unicode.upperCase sp.1 = unicode.upperCase word := by
        rw [← hupper, hname, upperCase_fold, hwordUpper]
      rw [List.dropWhile_cons_of_neg (by simp [hname]),
        List.dropWhile_cons_of_neg (by simp [hsame])]
      exact .cons hhead htail
    · have hdiffer : unicode.upperCase sp.1 ≠ unicode.upperCase word := by
        rw [← hupper, hwordUpper]
        apply hinner
        rw [List.map_cons, List.takeWhile_cons_of_pos (by simp [hname])]
        exact List.mem_cons_self
      rw [List.dropWhile_cons_of_pos (by simp [hname]),
        List.dropWhile_cons_of_pos (by simp [hdiffer])]
      apply ih
      intro inner hmem
      apply hinner
      rw [List.map_cons, List.takeWhile_cons_of_pos (by simp [hname])]
      exact List.mem_cons_of_mem _ hmem

lemma Tracked.rollbackTo {restored : Stack (List Char) (List LogEntry)} (h : Tracked buffers w)
    (hr : buffers.rollbackTo (fold name) = some restored)
    (hword : fold (savepointName text) = fold name)
    (hinner : ∀ inner ∈ (buffers.saved.map Prod.fst).takeWhile (· ≠ fold name),
      unicode.upperCase inner ≠ unicode.upperCase name) :
    Tracked restored (w.rollbackToSavepoint unicode text) ∧
      (w.rollbackToSavepoint unicode text).base.inTransaction = w.base.inTransaction := by
  obtain ⟨found, outer, hfound, hsaved⟩ := Stack.rollbackTo_eq_some hr
  have hstop := dropWhile_tracked hword hinner h.saved
  rw [Stack.innermost] at hfound
  rw [hfound] at hstop
  unfold TextWrapper.rollbackToSavepoint
  dsimp only
  cases hsps : w.savepoints.dropWhile
      fun sp => unicode.upperCase sp.1 ≠ unicode.upperCase (savepointName text) with
  | nil =>
    rw [hsps] at hstop
    cases hstop
  | cons sp rest =>
    rw [hsps] at hstop
    have hlength : restored.current.length = sp.2 := (List.forall₂_cons.mp hstop).1.2
    have hmem : (found, restored.current) ∈ buffers.saved := by
      have hsuffix := List.dropWhile_suffix (l := buffers.saved) (·.1 ≠ fold name)
      rw [hfound] at hsuffix
      exact hsuffix.subset List.mem_cons_self
    have hstart : restored.current <+: w.base.buffer := by
      rw [← h.current]
      exact h.growing.prefix_current hmem
    refine ⟨⟨?_, ?_, h.growing.rollbackTo hr⟩, rfl⟩
    · dsimp only
      rw [← hlength]
      exact List.prefix_iff_eq_take.mp hstart
    · rw [hsaved]
      exact hstop

end

section

variable {unicode : Unicode} {parse : List Char → Parsed} {conn : Connection} {w : TextWrapper}
  {transaction : OpenTransaction} {text sql name : List Char}

lemma commandOf_control {control : Control} (h : commandOf text = some (.control control)) :
    controlOf (tokens text) = some control := by
  unfold commandOf at h
  split at h
  · rename_i hcontrol
    cases h
    exact hcontrol
  · cases h
  · cases h

lemma commandOf_dml (h : commandOf text = some .dml) :
    ∃ target, statementOf (tokens text) = some (.dml target) := by
  unfold commandOf at h
  split at h
  · cases h
  · rename_i target _ hstatement
    exact ⟨target, hstatement⟩
  · cases h

lemma action_command_dml (h : commandOf (strip text) = some .dml) :
    action unicode (strip text) = .recordEffectfulEntry := by
  obtain ⟨target, htarget⟩ := commandOf_dml h
  exact action_dml htarget

lemma closed_flush (w : TextWrapper) : Closed w.flush := ⟨rfl, rfl, rfl⟩

lemma closed_discard (w : TextWrapper) : Closed w.discard := ⟨rfl, rfl, rfl⟩

lemma openNames_some (ht : conn.transaction = some transaction) :
    openNames conn = transaction.stack.saved.map Prod.fst := by
  rw [openNames, ht]

lemma Opened.savepoint (h : Opened transaction w) (hname : fold (savepointName text) = fold name) :
    Opened { transaction with stack := transaction.stack.save (fold name) } (w.savepoint text) := by
  obtain ⟨buffers, htracked, hrelated⟩ := h.tracked
  have hsavepoint : w.savepoint text =
      { w with savepoints := (savepointName text, w.base.buffer.length) :: w.savepoints } := by
    simp [TextWrapper.savepoint, h.inTransaction]
  rw [hsavepoint]
  exact ⟨h.inTransaction, _, htracked.save hname, hrelated.save _⟩

lemma Closed.savepoint (h : Closed w) (hname : fold (savepointName text) = fold name) :
    Opened ⟨false, (Stack.new []).save (fold name), none⟩ (w.savepoint text) := by
  have hopen : Opened ⟨false, Stack.new [], none⟩ w.begin :=
    ⟨rfl, _, tracked_begin _ rfl, Stack.Related.new (List.nil_sublist _)⟩
  have hsavepoint : w.savepoint text = w.begin.savepoint text := by
    simp [TextWrapper.savepoint, h.inTransaction, TextWrapper.begin, SQLiteWrapper.begin]
  rw [hsavepoint]
  exact hopen.savepoint hname

lemma Opened.release {stack : Stack (List Char) (List Effect)} (h : Opened transaction w)
    (hr : transaction.stack.release (fold name) = some stack)
    (hsaved : stack.saved = transaction.stack.saved.tail) :
    Opened { transaction with stack := stack } (w.releaseSavepoint true) := by
  obtain ⟨buffers, htracked, hrelated⟩ := h.tracked
  obtain ⟨released, hreleased, hrelated'⟩ := hrelated.release hr
  have htail : released.saved = buffers.saved.tail := by
    obtain ⟨head, hinner, -⟩ := Stack.release_eq_some hreleased
    have hlength := hrelated'.saved.length_eq
    have hlengths := hrelated.saved.length_eq
    have hsuffix := buffers.innermost_suffix (fold name)
    rw [hinner] at hsuffix
    have hrest : released.saved <:+ buffers.saved := (List.suffix_cons _ _).trans hsuffix
    rw [hsaved, List.length_tail] at hlength
    have heq : released.saved.length = buffers.saved.tail.length := by
      rw [List.length_tail, ← hlengths, ← hlength]
    exact (List.suffix_of_suffix_length_le hrest (List.tail_suffix _) heq.le).eq_of_length heq
  have hrelease : w.releaseSavepoint true = { w with savepoints := w.savepoints.tail } := by
    simp [TextWrapper.releaseSavepoint]
  rw [hrelease]
  exact ⟨h.inTransaction, released, htracked.release hreleased htail, hrelated'⟩

lemma Opened.releaseCommits (h : Opened transaction w) : Closed (w.releaseSavepoint false) := by
  have hrelease : w.releaseSavepoint false =
      ({ w with savepoints := w.savepoints.tail } : TextWrapper).flush := by
    simp [TextWrapper.releaseSavepoint, h.inTransaction]
  rw [hrelease]
  exact closed_flush _

lemma Opened.rollbackTo {stack : Stack (List Char) (List Effect)} (h : Opened transaction w)
    (hr : transaction.stack.rollbackTo (fold name) = some stack)
    (hword : fold (savepointName text) = fold name)
    (hinner : ∀ inner ∈ (transaction.stack.saved.map Prod.fst).takeWhile (· ≠ fold name),
      unicode.upperCase inner ≠ unicode.upperCase name) :
    Opened { transaction with stack := stack } (w.rollbackToSavepoint unicode text) := by
  obtain ⟨buffers, htracked, hrelated⟩ := h.tracked
  obtain ⟨restored, hrestored, hrelated'⟩ := hrelated.rollbackTo hr
  rw [hrelated.names] at hinner
  obtain ⟨htracked', hopen⟩ := htracked.rollbackTo hrestored hword hinner
  exact ⟨hopen.trans h.inTransaction, restored, htracked', hrelated'⟩

/-- A logged statement is buffered as its effect is added; the buffer leaves others out. -/
lemma Opened.recordEffectfulEntry {effect : Effect} {entry : Option LogEntry}
    (h : Opened transaction w) (hentry : ∀ e ∈ entry, e = effect.logEntry) :
    Opened { transaction with
      stack := transaction.stack.set (transaction.stack.current ++ [effect]) }
      (w.recordEffectfulEntry entry) := by
  obtain ⟨buffers, htracked, hrelated⟩ := h.tracked
  have hcurrent : List.Sublist buffers.current (transaction.stack.current.map Effect.logEntry) :=
    hrelated.current
  cases entry with
  | none =>
    refine ⟨h.inTransaction, buffers, htracked, ?_⟩
    refine ⟨?_, hrelated.saved⟩
    have hmap := List.sublist_append_left (transaction.stack.current.map Effect.logEntry)
      [effect.logEntry]
    simpa [Buffers, Stack.set] using hcurrent.trans hmap
  | some e =>
    obtain rfl := hentry e rfl
    have hrecord : w.recordEffectfulEntry (some effect.logEntry) =
        { w with base := { w.base with buffer := w.base.buffer ++ [effect.logEntry] } } := by
      simp [TextWrapper.recordEffectfulEntry, SQLiteWrapper.recordEffectfulEntry, h.inTransaction]
    rw [hrecord]
    refine ⟨h.inTransaction, _, htracked.append [effect.logEntry], hrelated.set ?_⟩
    simpa [Buffers] using hcurrent.append (List.Sublist.refl [effect.logEntry])

lemma Closed.recordEffectfulEntry (h : Closed w) (entry : Option LogEntry) :
    Closed (w.recordEffectfulEntry entry) := by
  cases entry with
  | none => exact h
  | some e =>
    have hrecord : w.recordEffectfulEntry (some e) = { w with base := w.base.write [e] } := by
      simp [TextWrapper.recordEffectfulEntry, SQLiteWrapper.recordEffectfulEntry, h.inTransaction]
    rw [hrecord]
    exact ⟨h.inTransaction, h.buffer, h.savepoints⟩

lemma Follows.addEffect {effect : Effect} {entry : Option LogEntry} (h : Follows conn w)
    (hentry : ∀ e ∈ entry, e = effect.logEntry) :
    Follows (conn.addEffect effect) (w.recordEffectfulEntry entry) := by
  unfold Connection.addEffect
  cases ht : conn.transaction with
  | none => exact Follows.close rfl ((h.closed ht).recordEffectfulEntry entry)
  | some transaction =>
    exact Follows.keepOpen rfl ((h.opened transaction ht).recordEffectfulEntry hentry)

lemma Follows.noteError (h : Follows conn w) (message : String) :
    Follows (conn.noteError message) (w.markTransactionError message) := by
  have hbase : (w.markTransactionError message).base.inTransaction = w.base.inTransaction ∧
      (w.markTransactionError message).base.buffer = w.base.buffer := by
    unfold TextWrapper.markTransactionError SQLiteWrapper.markTransactionError
    split_ifs <;> exact ⟨rfl, rfl⟩
  cases ht : conn.transaction with
  | none =>
    have hclosed := h.closed ht
    apply Follows.close (by simp [Connection.noteError, ht])
    exact ⟨hbase.1.trans hclosed.inTransaction, hbase.2.trans hclosed.buffer, hclosed.savepoints⟩
  | some transaction =>
    obtain ⟨hopen, buffers, htracked, hrelated⟩ := h.opened transaction ht
    apply Follows.keepOpen (by rw [Connection.noteError, ht]; rfl)
    refine ⟨hbase.1.trans hopen, buffers, ⟨?_, htracked.saved, htracked.growing⟩, hrelated⟩
    exact htracked.current.trans hbase.2.symm

end

section

variable {unicode : Unicode} {parse : List Char → Parsed} {conn : Connection} {w : TextWrapper}
  {sql : List Char}

lemma entryForExecute_eq {prepared e : LogEntry} {entry : Option LogEntry} {text : List Char}
    (h : entryForExecute unicode parse (fun _ => .ok prepared) text = .ok entry) (he : e ∈ entry) :
    e = prepared := by
  rcases entryForExecute_ok h with ⟨-, prepared', hprepared, rfl⟩ | ⟨-, rfl⟩
  · cases hprepared
    exact (Option.mem_some_iff.mp he).symm
  · cases he

/-- Every answer of SQLite keeps the wrapper in step with it, when a successful statement is
read alike. -/
theorem Follows.execute (h : Follows conn w) {command : Command} {prepared : LogEntry}
    {entry : Option LogEntry} {outcome : Outcome} {conn' : Connection}
    (hcommand : commandOf (strip sql) = some command)
    (hprepared : entryForExecute unicode parse (fun _ => .ok prepared) (strip sql) = .ok entry)
    (hstep : Executes conn command prepared outcome conn')
    (hreads : ReadsAlike unicode conn (strip sql) command outcome) :
    Follows conn' (w.executeOn unicode sql entry outcome conn'.inTransaction) := by
  have haction : ∀ control, command = .control control → outcome = .ok →
      action unicode (strip sql) = actionFor control := by
    intro control hcontrol hok
    subst hcontrol hok
    exact action_control (commandOf_control hcommand) hreads.1
  unfold TextWrapper.executeOn
  cases hstep with
  | begin ht =>
    simp only [haction _ rfl rfl, actionFor]
    exact Follows.keepOpen rfl
      ⟨rfl, _, tracked_begin _ rfl, Stack.Related.new (List.nil_sublist _)⟩
  | commit ht =>
    simp only [haction _ rfl rfl, actionFor]
    exact Follows.close rfl (closed_flush w)
  | rollback ht =>
    simp only [haction _ rfl rfl, actionFor]
    exact Follows.close rfl (closed_discard w)
  | savepoint ht =>
    simp only [haction _ rfl rfl, actionFor]
    exact Follows.keepOpen rfl ((h.opened _ ht).savepoint hreads.2)
  | savepointOpens ht =>
    simp only [haction _ rfl rfl, actionFor]
    exact Follows.keepOpen rfl ((h.closed ht).savepoint hreads.2)
  | @release transaction stack name _ ht hstack hkeeps =>
    simp only [haction _ rfl rfl, actionFor]
    rcases hreads.2 transaction stack ht hstack with htail | ⟨hbegun, hnil⟩
    · exact Follows.keepOpen rfl ((h.opened _ ht).release hstack htail)
    · rcases hkeeps with hb | hne
      · rw [hbegun] at hb
        cases hb
      · exact absurd hnil hne
  | releaseCommits ht hstack hbegun hsaved =>
    simp only [haction _ rfl rfl, actionFor]
    exact Follows.close rfl (h.opened _ ht).releaseCommits
  | rollbackTo ht hstack =>
    simp only [haction _ rfl rfl, actionFor]
    obtain ⟨hword, hinner⟩ := hreads.2
    rw [openNames_some ht] at hinner
    exact Follows.keepOpen rfl ((h.opened _ ht).rollbackTo hstack hword hinner)
  | dml =>
    simp only [action_command_dml hcommand]
    exact h.addEffect fun e he => entryForExecute_eq hprepared he
  | @fails _ _ message =>
    rw [inTransaction_noteError, ← h.inTransaction]
    simpa using h.noteError message
  | @failsPartially _ message =>
    rw [inTransaction_noteError, inTransaction_addEffect, ← h.inTransaction]
    have hentry : ∀ e ∈ entry.map (entryWithExecutionError · message),
        e = Effect.logEntry ⟨prepared, some message⟩ := by
      intro e he
      obtain ⟨found, hfound, rfl⟩ := Option.map_eq_some_iff.mp he
      rw [entryForExecute_eq hprepared hfound, Effect.logEntry]
    have hadd := h.addEffect hentry
    simpa using hadd.noteError message
  | failsAndRollsBack ht =>
    have hopen := (h.opened _ ht).inTransaction
    simpa [hopen, Connection.inTransaction] using Follows.close rfl (closed_discard w)

lemma follows_run {log : LogTables}
    (h : TextRun unicode parse (ReadsAlike unicode) log conn w) : Follows conn w := by
  induction h with
  | start => exact Follows.close rfl ⟨rfl, rfl, rfl⟩
  | execute _ hcommand hprepared hstep hreads ih =>
    exact ih.execute hcommand hprepared hstep hreads
  | raises _ _ ih => exact ih

/-- The wrapper is in a transaction when the connection is, it lists the open savepoints,
and every buffered entry belongs to a statement that was not undone. -/
structure InStep (conn : Connection) (w : TextWrapper) : Prop where
  inTransaction : w.base.inTransaction = conn.inTransaction
  savepoints : w.savepoints.map (fun sp => fold sp.1) = openNames conn
  buffer : List.Sublist w.base.buffer (openEffects conn)

end

/-! Two sessions inside a transaction. -/

def beginText : List Char := "begin Immediate TRANSACTION;".toList

def savepointText : List Char := "SAVEPOINT \"a\";".toList

def insertText : List Char := "INSERT INTO t VALUES (1)".toList

def rollbackToText : List Char := "Rollback to savepoint A".toList

def endText : List Char := "END".toList

def entryInside (sql : List Char) : Option LogEntry :=
  if sql = insertText then some insertOne else none

def executeInside (w : TextWrapper) (sql : List Char) : TextWrapper :=
  w.executeOn asciiUnicode sql (entryInside sql) .ok true

lemma prepared_inside : ∀ sql ∈ [beginText, savepointText, insertText, rollbackToText, endText],
    entryForExecute asciiUnicode parsedInsert (fun _ => .ok insertOne) (strip sql) =
      .ok (entryInside sql) := by
  decide +kernel

lemma run_begin (P : Connection → List Char → Command → Outcome → Prop)
    (hP : P Connection.new (strip beginText) (.control .begin) .ok) :
    TextRun asciiUnicode parsedInsert P emptyLog (openConnection [] [])
      (executeInside (TextWrapper.new emptyLog) beginText) :=
  TextRun.start.execute (by decide +kernel) (prepared_inside _ (by simp)) (.begin rfl) hP

end SqliteReconcile.TransactionTexts
