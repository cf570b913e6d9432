import SqliteReconcile.Outcomes
import SqliteReconcile.SqlTokens
import SqliteReconcile.Wrapper

/-!
# Which statements are logged

The wrapper decides by the text of a statement whether it is logged, and which of its
bookkeeping steps follows. SQLite reads the tokens of the text.
-/
namespace SqliteReconcile.StatementLogging
open Outcomes SqlTokens Wrapper SQLiteWrapper

/-- What Python knows of the characters: `upper` may change a character into several, and
`\\w` matches letters and digits of every script. -/
structure Unicode where
  upper : Char → List Char
  upper_ascii : ∀ c, c.val < 128 → upper c = [c.toUpper]
  isWordChar : Char → Bool
  isWordChar_ascii : ∀ c, c.val < 128 → isWordChar c = (c.isAlphanum || c = '_')

def Unicode.upperCase (unicode : Unicode) (text : List Char) : List Char :=
  text.flatMap unicode.upper

def isPythonSpace (c : Char) : Bool :=
  (9 ≤ c.val && c.val ≤ 13) || (28 ≤ c.val && c.val ≤ 32) || c.val = 133 || c.val = 160 ||
    c.val = 5760 || (8192 ≤ c.val && c.val ≤ 8202) || c.val = 8232 || c.val = 8233 ||
    c.val = 8239 || c.val = 8287 || c.val = 12288

def strip (text : List Char) : List Char :=
  (text.dropWhile isPythonSpace).rdropWhile isPythonSpace

def logTable : List Char := "_sqlite_merge_log".toList

def txTable : List Char := "_sqlite_merge_transactions".toList

/-- Statements to include. DDL is intentionally out of scope for this project. -/
def included : List (List Char) :=
  ["INSERT".toList, "UPDATE".toList, "DELETE".toList, "REPLACE".toList]

/-- What `sqlglot.parse_one` makes of a text. -/
inductive Parsed
  | tokenError
  | parseError
  | insert
  | update
  | delete
  | other
  deriving DecidableEq

/-- What an execute call raises before the statement is executed: the error of the tokenizer,
which nothing catches, or an error of `prepare_logged_sql` and of its callers. -/
inductive Raised
  | tokenError
  | other (message : String)
  deriving DecidableEq

section

variable (unicode : Unicode) (parse : List Char → Parsed)

/-- `re.match(r"WITH\\b", sql_upper)`. -/
def matchesWith (sqlUpper : List Char) : Bool :=
  "WITH".toList <+: sqlUpper && ((sqlUpper.drop 4).head?).all (!unicode.isWordChar ·)

/-- The upper-case text has the name of a log table somewhere. -/
def mentionsLogTable (sqlUpper : List Char) : Bool :=
  unicode.upperCase logTable <:+: sqlUpper || unicode.upperCase txTable <:+: sqlUpper

def shouldLog (text : List Char) : Except Raised Bool :=
  let sql := strip text
  let sqlUpper := unicode.upperCase sql
  if mentionsLogTable unicode sqlUpper then .ok false
  else if included.any (· <+: sqlUpper) then .ok true
  else if !matchesWith unicode sqlUpper then .ok false
  else
    match parse sql with
    | .tokenError => .error .tokenError
    | .parseError => .ok true
    | .other => .ok false
    | _ => .ok true

/-- The bookkeeping after a successful call. -/
inductive Action
  | begin
  | flush
  | rollbackToSavepoint
  | discard
  | savepoint
  | releaseSavepoint
  | recordEffectfulEntry
  deriving DecidableEq

def actionOf (sqlUpper : List Char) : Action :=
  if "BEGIN".toList <+: sqlUpper then .begin
  else if "COMMIT".toList <+: sqlUpper then .flush
  else if "ROLLBACK TO".toList <+: sqlUpper || "ROLLBACK TO SAVEPOINT".toList <+: sqlUpper then
    .rollbackToSavepoint
  else if "ROLLBACK".toList <+: sqlUpper then .discard
  else if "SAVEPOINT".toList <+: sqlUpper then .savepoint
  else if "RELEASE".toList <+: sqlUpper then .releaseSavepoint
  else .recordEffectfulEntry

def action (text : List Char) : Action := actionOf (unicode.upperCase (strip text))

def entryForExecute (prepare : List Char → Except Raised LogEntry) (text : List Char) :
    Except Raised (Option LogEntry) := do
  if ← shouldLog unicode parse text then
    return some (← prepare (strip text))
  else return none

/-- What an execute call with this entry gives to `_record_effectful_entry`. An error keeps
the transaction here; when it ends it, its rows are gone as well. -/
def recordedEntry (entry : Option LogEntry) (text : List Char) : Outcome → Option LogEntry
  | .ok => if action unicode text = .recordEffectfulEntry then entry else none
  | .error message changed =>
    if changed then entry.map (entryWithExecutionError · message) else none

end

section

variable {unicode : Unicode} {text first rest : List Char} {keyword : String}

lemma isPythonSpace_of_isSpace {c : Char} (h : isSpace c) : isPythonSpace c = true := by
  unfold isSpace at h
  simp only [Bool.or_eq_true, decide_eq_true_eq] at h
  rcases h with (((h | h) | h) | h) | h <;> (rw [h]; decide)

lemma rdropWhile_append {p : Char → Bool} (hlast : ∀ c, first.getLast? = some c → p c = false)
    (rest : List Char) : (first ++ rest).rdropWhile p = first ++ rest.rdropWhile p := by
  unfold List.rdropWhile
  rw [List.reverse_append, List.dropWhile_append]
  split_ifs with hall
  · have hrest : rest.reverse.dropWhile p = [] := by simpa using hall
    have hkeep : first.reverse.dropWhile p = first.reverse := by
      cases hrev : first.reverse with
      | nil => rfl
      | cons c others =>
        have hc : first.getLast? = some c := by
          rw [← List.head?_reverse, hrev]
          rfl
        rw [List.dropWhile_cons_of_neg (by simp [hlast c hc])]
    rw [hkeep, hrest]
    simp
  · simp

lemma strip_of_body (hbody : text.dropWhile isSpace = first ++ rest) (hne : first ≠ [])
    (hfirst : ∀ c ∈ first, isPythonSpace c = false) :
    ∃ rest', strip text = first ++ rest' ∧ rest' <+: rest := by
  have hspaces : text.dropWhile isPythonSpace = first ++ rest := by
    have hsplit : text = text.takeWhile isSpace ++ text.dropWhile isSpace :=
      (List.takeWhile_append_dropWhile).symm
    rw [hsplit, List.dropWhile_append_of_pos]
    · rw [hbody]
      cases first with
      | nil => exact absurd rfl hne
      | cons c others =>
        rw [List.cons_append, List.dropWhile_cons_of_neg]
        simp [hfirst c List.mem_cons_self]
    · intro c hc
      exact isPythonSpace_of_isSpace (List.mem_takeWhile_imp hc)
  refine ⟨rest.rdropWhile isPythonSpace, ?_, List.rdropWhile_prefix _ _⟩
  rw [strip, hspaces, rdropWhile_append fun c hc => hfirst c (List.mem_of_getLast? hc)]

lemma toLower_ascii {c : Char} (h : c.toLower.val < 128) : c.val < 128 := by
  by_cases hupper : c.isUpper
  · simp only [Char.isUpper, decide_eq_true_eq] at hupper
    have hle := hupper.2
    rw [UInt32.le_iff_toNat_le] at hle
    rw [UInt32.lt_iff_toNat_lt]
    have hz : ('Z' : Char).val.toNat = 90 := rfl
    have hbound : (128 : UInt32).toNat = 128 := rfl
    omega
  · rwa [Char.toLower_eq_of_not_isUpper (by simpa using hupper)] at h

lemma upperCase_of_fold (h : ∀ c ∈ fold first, c.val < 128) :
    unicode.upperCase first = (fold first).map Char.toUpper := by
  induction first with
  | nil => rfl
  | cons c rest ih =>
    have hc : c.val < 128 := toLower_ascii (h c.toLower (by simp))
    have hrest := ih fun d hd => h d (by simp [hd])
    have hcons : unicode.upperCase (c :: rest) = unicode.upper c ++ unicode.upperCase rest :=
      List.flatMap_cons
    rw [hcons, unicode.upper_ascii c hc, hrest]
    simp

lemma upperCase_append (text rest : List Char) :
    unicode.upperCase (text ++ rest) = unicode.upperCase text ++ unicode.upperCase rest :=
  List.flatMap_append

lemma upperCase_infix (h : first <:+: text) :
    unicode.upperCase first <:+: unicode.upperCase text := by
  obtain ⟨before, after, rfl⟩ := h
  rw [upperCase_append, upperCase_append]
  exact List.infix_append _ _ _

lemma infix_strip (h : first <:+: text) (hne : first ≠ [])
    (hfirst : ∀ c ∈ first, isPythonSpace c = false) : first <:+: strip text := by
  obtain ⟨before, after, rfl⟩ := h
  have hdrop : ∃ before', (before ++ first ++ after).dropWhile isPythonSpace =
      before' ++ first ++ after := by
    rw [List.append_assoc, List.dropWhile_append]
    split_ifs with hall
    · refine ⟨[], ?_⟩
      cases first with
      | nil => exact absurd rfl hne
      | cons c others =>
        rw [List.cons_append, List.dropWhile_cons_of_neg (by simp [hfirst c List.mem_cons_self])]
        rfl
    · exact ⟨before.dropWhile isPythonSpace, by simp⟩
  obtain ⟨before', hdrop⟩ := hdrop
  have hstrip : strip (before ++ first ++ after) =
      before' ++ first ++ after.rdropWhile isPythonSpace := by
    rw [strip, hdrop, rdropWhile_append]
    intro c hc
    rw [List.getLast?_append_of_ne_nil _ hne] at hc
    exact hfirst c (List.mem_of_getLast? hc)
  rw [hstrip]
  exact List.infix_append _ _ _

lemma isPythonSpace_of_alpha {c : Char} (h : c.isAlpha) : isPythonSpace c = false := by
  simp only [Char.isAlpha, Char.isUpper, Char.isLower, Bool.or_eq_true, Bool.and_eq_true,
    decide_eq_true_eq, ge_iff_le, UInt32.le_iff_toNat_le] at h
  have hbound : (65 ≤ c.val.toNat ∧ c.val.toNat ≤ 90) ∨
      (97 ≤ c.val.toNat ∧ c.val.toNat ≤ 122) := h
  unfold isPythonSpace
  simp only [Bool.or_eq_false_iff, Bool.and_eq_false_iff, decide_eq_false_iff_not,
    UInt32.le_iff_toNat_le, ← UInt32.toNat_inj, UInt32.reduceToNat]
  omega

def IsLowerWord (keyword : String) : Prop :=
  keyword ≠ "" ∧ ∀ c ∈ keyword.toList, c.isLower

lemma isLower_ascii {c : Char} (h : c.isLower) : c.val < 128 := by
  simp only [Char.isLower, Bool.and_eq_true, decide_eq_true_eq] at h
  have hle := h.2
  rw [UInt32.le_iff_toNat_le] at hle
  rw [UInt32.lt_iff_toNat_lt]
  have hz : ('z' : Char).val.toNat = 122 := rfl
  have hbound : (128 : UInt32).toNat = 128 := rfl
  omega

lemma upperCase_strip {keywords : List String} (h : StartsAs (tokens text) keywords)
    (hwords : ∀ keyword ∈ keywords, IsLowerWord keyword) :
    (∃ rest, strip text = '-' :: '-' :: rest ∨ strip text = '/' :: '*' :: rest) ∨
      StartsWithComment (strip text) = false ∧ ∃ keyword ∈ keywords, ∃ rest,
        unicode.upperCase (strip text) =
          keyword.toList.map Char.toUpper ++ unicode.upperCase rest ∧
        ∀ c, rest.head? = some c → isIdChar c = false := by
  obtain ⟨keyword, hmem, hkey⟩ := h
  obtain ⟨hne, hletters⟩ := hwords keyword hmem
  rcases keyword_first hkey with hcomment | ⟨first, rest, hbody, hfold, hrest⟩
  · left
    unfold StartsWithComment at hcomment
    split at hcomment
    · rename_i rest hbody
      obtain ⟨rest', hstrip, -⟩ := @strip_of_body text ['-', '-'] rest hbody (by simp)
        (by simp [isPythonSpace])
      exact ⟨rest', .inl hstrip⟩
    · rename_i rest hbody
      obtain ⟨rest', hstrip, -⟩ := @strip_of_body text ['/', '*'] rest hbody (by simp)
        (by simp [isPythonSpace])
      exact ⟨rest', .inr hstrip⟩
    · cases hcomment
  · right
    have halpha : ∀ c ∈ first, c.isAlpha := by
      intro c hc
      have hlower : c.toLower ∈ keyword.toList := by
        rw [← hfold]
        exact List.mem_map_of_mem hc
      rw [← Char.isAlpha_toLower_eq_isAlpha, Char.isAlpha, hletters _ hlower, Bool.or_true]
    have hfirst : first ≠ [] := by
      intro hnil
      rw [hnil] at hfold
      exact hne (String.toList_eq_nil_iff.mp hfold.symm)
    obtain ⟨rest', hstrip, hprefix⟩ :=
      strip_of_body hbody hfirst fun c hc => isPythonSpace_of_alpha (halpha c hc)
    refine ⟨?_, keyword, hmem, rest', ?_, ?_⟩
    · cases first with
      | nil => exact absurd rfl hfirst
      | cons c others =>
        have hc := halpha c List.mem_cons_self
        rw [hstrip, List.cons_append]
        unfold StartsWithComment
        split
        · rename_i heq
          rw [(List.cons.inj heq).1] at hc
          cases hc
        · rename_i heq
          rw [(List.cons.inj heq).1] at hc
          cases hc
        · rfl
    · have hascii : ∀ c ∈ fold first, c.val < 128 := by
        rw [hfold]
        exact fun c hc => isLower_ascii (hletters c hc)
      rw [hstrip, upperCase_append, upperCase_of_fold hascii, hfold]
    · intro c hc
      obtain ⟨after, rfl⟩ := hprefix
      apply hrest c
      cases rest' with
      | nil => cases hc
      | cons d others => exact hc

lemma head?_of_prefix {list : List Char} (h : first <+: list) (hne : first ≠ []) :
    list.head? = first.head? := by
  obtain ⟨rest, rfl⟩ := h
  cases first with
  | nil => exact absurd rfl hne
  | cons c others => rfl

lemma upperCase_cons_ascii {c : Char} (h : c.val < 128) (rest : List Char) :
    unicode.upperCase (c :: rest) = c.toUpper :: unicode.upperCase rest := by
  have hcons : unicode.upperCase (c :: rest) = unicode.upper c ++ unicode.upperCase rest :=
    List.flatMap_cons
  rw [hcons, unicode.upper_ascii c h]
  rfl

lemma included_head {sqlUpper : List Char} (h : included.any (· <+: sqlUpper)) :
    ∃ c ∈ ['I', 'U', 'D', 'R'], sqlUpper.head? = some c := by
  obtain ⟨word, hmem, hprefix⟩ := List.any_eq_true.mp h
  simp only [included, List.mem_cons, List.not_mem_nil, or_false] at hmem
  have hword := of_decide_eq_true hprefix
  rcases hmem with rfl | rfl | rfl | rfl
  · exact ⟨'I', by simp, head?_of_prefix hword (by simp)⟩
  · exact ⟨'U', by simp, head?_of_prefix hword (by simp)⟩
  · exact ⟨'D', by simp, head?_of_prefix hword (by simp)⟩
  · exact ⟨'R', by simp, head?_of_prefix hword (by simp)⟩

lemma matchesWith_head {sqlUpper : List Char} (h : matchesWith unicode sqlUpper) :
    sqlUpper.head? = some 'W' := by
  unfold matchesWith at h
  rw [Bool.and_eq_true] at h
  exact head?_of_prefix (of_decide_eq_true h.1) (by simp)

lemma matchesWith_keyword (h : ∀ c, rest.head? = some c → isIdChar c = false) :
    matchesWith unicode ("WITH".toList ++ unicode.upperCase rest) = true := by
  unfold matchesWith
  rw [Bool.and_eq_true]
  refine ⟨decide_eq_true (List.prefix_append _ _), ?_⟩
  have hdrop : ("WITH".toList ++ unicode.upperCase rest).drop 4 = unicode.upperCase rest := rfl
  rw [hdrop]
  cases rest with
  | nil => rfl
  | cons c others =>
    have hc := h c rfl
    simp only [isIdChar, Bool.or_eq_false_iff, decide_eq_false_iff_not] at hc
    obtain ⟨⟨⟨halnum, hunderscore⟩, -⟩, hascii⟩ := hc
    have hval : c.val < 128 := by
      rw [UInt32.le_iff_toNat_le] at hascii
      rw [UInt32.lt_iff_toNat_lt]
      omega
    have hupper : c.toUpper = c := by
      apply Char.toUpper_eq_of_not_isLower
      intro hlower
      simp [Char.isAlphanum, Char.isAlpha, hlower] at halnum
    rw [upperCase_cons_ascii hval, hupper]
    simp [unicode.isWordChar_ascii c hval, halnum, hunderscore]

variable {parse : List Char → Parsed}

lemma entryForExecute_ok {prepare : List Char → Except Raised LogEntry} {entry : Option LogEntry}
    (h : entryForExecute unicode parse prepare text = .ok entry) :
    (shouldLog unicode parse text = .ok true ∧
        ∃ prepared, prepare (strip text) = .ok prepared ∧ entry = some prepared) ∨
      shouldLog unicode parse text = .ok false ∧ entry = none := by
  obtain ⟨logs, hlogs, h⟩ := bind_eq_ok.mp h
  cases logs with
  | false => exact .inr ⟨hlogs, (pure_eq_ok.mp h).symm⟩
  | true =>
    obtain ⟨prepared, hprepared, h⟩ := bind_eq_ok.mp h
    exact .inl ⟨hlogs, prepared, hprepared, (pure_eq_ok.mp h).symm⟩

lemma shouldLog_of_head (hincluded : ∀ c ∈ ['I', 'U', 'D', 'R', 'W'],
      (unicode.upperCase (strip text)).head? ≠ some c) :
    shouldLog unicode parse text = .ok false := by
  have hnone : included.any (· <+: unicode.upperCase (strip text)) = false := by
    by_contra hany
    obtain ⟨c, hmem, hhead⟩ := included_head (by simpa using hany)
    exact hincluded c (by simp only [List.mem_cons] at hmem ⊢; tauto) hhead
  have hwith : matchesWith unicode (unicode.upperCase (strip text)) = false := by
    by_contra hmatches
    exact hincluded 'W' (by simp) (matchesWith_head (by simpa using hmatches))
  unfold shouldLog
  simp [hnone, hwith]

lemma upperCase_comment (h : strip text = '-' :: '-' :: rest ∨ strip text = '/' :: '*' :: rest) :
    (unicode.upperCase (strip text)).head? = some '-' ∨
      (unicode.upperCase (strip text)).head? = some '/' := by
  rcases h with h | h
  · rw [h, upperCase_cons_ascii (by decide)]
    exact .inl rfl
  · rw [h, upperCase_cons_ascii (by decide)]
    exact .inr rfl

lemma shouldLog_comment
    (h : strip text = '-' :: '-' :: rest ∨ strip text = '/' :: '*' :: rest) :
    shouldLog unicode parse text = .ok false := by
  apply shouldLog_of_head
  intro c hc hhead
  rcases upperCase_comment h with hcomment | hcomment
  · rw [hcomment] at hhead
    cases hhead
    simp at hc
  · rw [hcomment] at hhead
    cases hhead
    simp at hc

lemma actionOf_of_head {sqlUpper : List Char}
    (h : ∀ c ∈ ['B', 'C', 'R', 'S'], sqlUpper.head? ≠ some c) :
    actionOf sqlUpper = .recordEffectfulEntry := by
  have hnot : ∀ word : List Char, ∀ c ∈ ['B', 'C', 'R', 'S'], word.head? = some c →
      ¬ word <+: sqlUpper := by
    intro word c hc hword hprefix
    apply h c hc
    rw [← hword]
    apply head?_of_prefix hprefix
    intro hnil
    rw [hnil] at hword
    cases hword
  have hrollbackTo : ¬ (decide ("ROLLBACK TO".toList <+: sqlUpper) ||
      decide ("ROLLBACK TO SAVEPOINT".toList <+: sqlUpper)) = true := by
    rw [Bool.or_eq_true, decide_eq_true_eq, decide_eq_true_eq]
    exact not_or.mpr ⟨hnot _ 'R' (by simp) rfl, hnot _ 'R' (by simp) rfl⟩
  unfold actionOf
  rw [if_neg (hnot _ 'B' (by simp) rfl), if_neg (hnot _ 'C' (by simp) rfl), if_neg hrollbackTo,
    if_neg (hnot _ 'R' (by simp) rfl), if_neg (hnot _ 'S' (by simp) rfl),
    if_neg (hnot _ 'R' (by simp) rfl)]

lemma isLowerWord_keywords :
    ∀ keyword ∈ "with" :: (dmlKeywords ++ queryKeywords), IsLowerWord keyword := by
  intro keyword h
  simp only [dmlKeywords, queryKeywords, List.cons_append, List.nil_append, List.mem_cons,
    List.not_mem_nil, or_false] at h
  rcases h with rfl | rfl | rfl | rfl | rfl | rfl | rfl <;> simp [IsLowerWord]

lemma isLowerWord_dml {keyword : String} (h : keyword ∈ "with" :: dmlKeywords) :
    IsLowerWord keyword := by
  apply isLowerWord_keywords
  simp only [List.mem_cons, List.mem_append] at h ⊢
  tauto

lemma isLowerWord_query {keyword : String} (h : keyword ∈ "with" :: queryKeywords) :
    IsLowerWord keyword := by
  apply isLowerWord_keywords
  simp only [List.mem_cons, List.mem_append] at h ⊢
  tauto

/-- A statement that writes is never taken for transaction control. -/
lemma action_dml {target : List Char} (h : statementOf (tokens text) = some (.dml target)) :
    action unicode text = .recordEffectfulEntry := by
  obtain ⟨hstarts, -⟩ := statementOf_dml h
  unfold action
  rcases @upperCase_strip unicode text _ hstarts (fun _ => isLowerWord_dml) with
    ⟨rest, hcomment⟩ | ⟨-, keyword, hmem, rest, hupper, -⟩
  · apply actionOf_of_head
    intro c hc hhead
    rcases upperCase_comment hcomment with hcomment | hcomment
    · rw [hcomment] at hhead
      cases hhead
      simp at hc
    · rw [hcomment] at hhead
      cases hhead
      simp at hc
  · rw [hupper]
    simp only [dmlKeywords, List.mem_cons, List.not_mem_nil, or_false] at hmem
    rcases hmem with rfl | rfl | rfl | rfl | rfl
    · exact actionOf_of_head (by simp)
    · exact actionOf_of_head (by simp)
    · -- REPLACE begins like ROLLBACK and RELEASE
      simp [actionOf, List.cons_prefix_cons]
    · exact actionOf_of_head (by simp)
    · exact actionOf_of_head (by simp)

/-- `sqlglot` is asked whether the text is a write. -/
def asksParser (unicode : Unicode) (text : List Char) : Bool :=
  let sqlUpper := unicode.upperCase (strip text)
  !mentionsLogTable unicode sqlUpper && matchesWith unicode sqlUpper

lemma shouldLog_dml {target : List Char} (h : statementOf (tokens text) = some (.dml target))
    (hparse : parse (strip text) ≠ .other) :
    shouldLog unicode parse text = .ok true ↔ StartsWithComment (strip text) = false ∧
      mentionsLogTable unicode (unicode.upperCase (strip text)) = false ∧
        (asksParser unicode text → parse (strip text) ≠ .tokenError) := by
  obtain ⟨hstarts, -⟩ := statementOf_dml h
  rcases @upperCase_strip unicode text _ hstarts (fun _ => isLowerWord_dml) with
    ⟨rest, hcomment⟩ | ⟨hplain, keyword, hmem, rest, hupper, hrest⟩
  · rw [shouldLog_comment hcomment]
    have hstarts' : StartsWithComment (strip text) = true := by
      rcases hcomment with hcomment | hcomment <;> (rw [hcomment]; rfl)
    simp [hstarts']
  · cases hmention : mentionsLogTable unicode (unicode.upperCase (strip text)) with
    | true => simp [shouldLog, hmention]
    | false =>
      simp only [dmlKeywords, List.mem_cons, List.not_mem_nil, or_false] at hmem
      rcases hmem with rfl | hmem
      · have hwith : matchesWith unicode (unicode.upperCase (strip text)) = true := by
          rw [hupper]
          exact matchesWith_keyword hrest
        have hnone : included.any (· <+: unicode.upperCase (strip text)) = false := by
          rw [hupper]
          simp [included, List.cons_prefix_cons]
        have hasks : asksParser unicode text = true := by simp [asksParser, hmention, hwith]
        unfold shouldLog
        simp only [hmention, hnone, hwith, hplain, hasks]
        cases hparsed : parse (strip text) with
        | other => exact absurd hparsed hparse
        | _ => simp
      · have hincluded : included.any (· <+: unicode.upperCase (strip text)) = true := by
          rw [List.any_eq_true, hupper]
          refine ⟨keyword.toList.map Char.toUpper, ?_, decide_eq_true (List.prefix_append _ _)⟩
          rcases hmem with rfl | rfl | rfl | rfl <;> simp [included]
        have hwith : matchesWith unicode (unicode.upperCase (strip text)) = false := by
          by_contra hmatches
          obtain ⟨c, hc, hhead⟩ := included_head hincluded
          rw [matchesWith_head (by simpa using hmatches)] at hhead
          cases hhead
          simp at hc
        simp [shouldLog, asksParser, hmention, hincluded, hwith, hplain]

lemma shouldLog_query (h : statementOf (tokens text) = some .query)
    (hparse : parse (strip text) ∈ [.other, .parseError, .tokenError]) :
    shouldLog unicode parse text = .ok false ↔
      (asksParser unicode text → parse (strip text) = .other) := by
  rcases @upperCase_strip unicode text _ (statementOf_query h) (fun _ => isLowerWord_query) with
    ⟨rest, hcomment⟩ | ⟨-, keyword, hmem, rest, hupper, -⟩
  · have hwith : matchesWith unicode (unicode.upperCase (strip text)) = false := by
      by_contra hmatches
      have hhead := matchesWith_head (by simpa using hmatches)
      have hfirst : (unicode.upperCase (strip text)).head? = some '-' ∨
          (unicode.upperCase (strip text)).head? = some '/' := upperCase_comment hcomment
      rcases hfirst with hfirst | hfirst
      · rw [hfirst] at hhead
        cases hhead
      · rw [hfirst] at hhead
        cases hhead
    simp [shouldLog_comment hcomment, asksParser, hwith]
  · simp only [queryKeywords, List.mem_cons, List.not_mem_nil, or_false] at hmem
    rcases hmem with rfl | rfl | rfl
    · have hnone : included.any (· <+: unicode.upperCase (strip text)) = false := by
        rw [hupper]
        simp [included, List.cons_prefix_cons]
      simp only [List.mem_cons, List.not_mem_nil, or_false] at hparse
      unfold shouldLog asksParser
      simp only [hnone]
      cases mentionsLogTable unicode (unicode.upperCase (strip text)) <;>
        cases matchesWith unicode (unicode.upperCase (strip text)) <;>
          rcases hparse with hparse | hparse | hparse <;> simp [hparse]
    · rw [shouldLog_of_head (by rw [hupper]; simp)]
      simp [asksParser, hupper, matchesWith, List.cons_prefix_cons]
    · rw [shouldLog_of_head (by rw [hupper]; simp)]
      simp [asksParser, hupper, matchesWith, List.cons_prefix_cons]

def IsLogTable (target : List Char) : Prop := fold target = logTable ∨ fold target = txTable

lemma mem_logName {c : Char} (h : c ∈ logTable ++ txTable) : c.isLower ∨ c = '_' := by
  have hall : (logTable ++ txTable).all (fun c => c.isLower || c = '_') = true := by
    decide +kernel
  have hc := List.all_eq_true.mp hall c h
  rw [Bool.or_eq_true, decide_eq_true_eq] at hc
  exact hc

/-- The letters of a log table's name, in either case, are neither quotes nor white space. -/
lemma plain_logName {c : Char} (h : c.toLower ∈ logTable ++ txTable) :
    closing c = none ∧ isPythonSpace c = false ∧ c.toLower.val < 128 := by
  rcases mem_logName h with hlower | hunderscore
  · have halpha : c.isAlpha := by
      rw [← Char.isAlpha_toLower_eq_isAlpha, Char.isAlpha, hlower, Bool.or_true]
    refine ⟨?_, isPythonSpace_of_alpha halpha, isLower_ascii hlower⟩
    unfold closing
    split_ifs with hquote hbracket
    · simp only [Bool.or_eq_true, decide_eq_true_eq] at hquote
      rcases hquote with (hc | hc) | hc <;> (rw [hc] at halpha; cases halpha)
    · rw [hbracket] at halpha
      cases halpha
    · rfl
  · have hupper : c.isUpper = false := by
      by_contra hu
      have halpha : c.toLower.isAlpha := by
        rw [Char.isAlpha_toLower_eq_isAlpha, Char.isAlpha, Bool.or_eq_true]
        exact .inl (by simpa using hu)
      rw [hunderscore] at halpha
      cases halpha
    rw [Char.toLower_eq_of_not_isUpper (by simp [hupper])] at hunderscore ⊢
    subst hunderscore
    exact ⟨rfl, rfl, by decide⟩

lemma upperCase_logName {name target : List Char} (hname : fold target = name)
    (hmem : ∀ c ∈ name, c ∈ logTable ++ txTable) (hlower : fold name = name) :
    unicode.upperCase target = unicode.upperCase name := by
  have hascii : ∀ c ∈ name, c.val < 128 := by
    intro c hc
    have hsame : c.toLower ∈ logTable ++ txTable := by
      apply hmem
      rw [← hlower]
      exact List.mem_map_of_mem hc
    exact toLower_ascii (plain_logName hsame).2.2
  rw [upperCase_of_fold (by rwa [hname]), upperCase_of_fold (by rwa [hlower]), hname, hlower]

lemma mentions_of_target {target : List Char}
    (h : statementOf (tokens text) = some (.dml target)) (hlog : IsLogTable target) :
    mentionsLogTable unicode (unicode.upperCase (strip text)) = true := by
  obtain ⟨-, token, hmem, htoken⟩ := statementOf_dml h
  have hinfix : ∀ {name : List Char}, fold target = name → name ≠ [] →
      (∀ c ∈ name, c ∈ logTable ++ txTable) → fold name = name →
      unicode.upperCase name <:+: unicode.upperCase (strip text) := by
    intro name hname hne hchars hlower
    have hplain : ∀ c ∈ target, closing c = none ∧ isPythonSpace c = false := by
      intro c hc
      have hlowered : c.toLower ∈ logTable ++ txTable := by
        apply hchars
        rw [← hname]
        exact List.mem_map_of_mem hc
      obtain ⟨hclosing, hspace, -⟩ := plain_logName hlowered
      exact ⟨hclosing, hspace⟩
    have hnonempty : target ≠ [] := by
      intro hnil
      rw [hnil] at hname
      exact hne hname.symm
    rw [← upperCase_logName hname hchars hlower]
    apply upperCase_infix
    exact infix_strip (infix_of_name hmem htoken fun c hc => (hplain c hc).1) hnonempty
      fun c hc => (hplain c hc).2
  unfold mentionsLogTable
  rw [Bool.or_eq_true, decide_eq_true_eq, decide_eq_true_eq]
  rcases hlog with hlog | hlog
  · left
    exact hinfix hlog (by decide +kernel) (fun c hc => List.mem_append_left _ hc)
      (by decide +kernel)
  · right
    exact hinfix hlog (by decide +kernel) (fun c hc => List.mem_append_right _ hc)
      (by decide +kernel)

/-- `sqlglot` may fail on a statement that SQLite takes, but takes a write for nothing else
and a query for no write. -/
structure ReadsAsSqlite (parse : List Char → Parsed) (text : List Char) : Prop where
  dml : ∀ target, statementOf (tokens text) = some (.dml target) → parse (strip text) ≠ .other
  query : statementOf (tokens text) = some .query →
    parse (strip text) ∈ [.other, .parseError, .tokenError]

/-- A write to a user table is logged, and whatever it changed is recorded; a query and a
write to a log table are not logged. -/
structure LogsExactly (unicode : Unicode) (parse : List Char → Parsed) (text : List Char) :
    Prop where
  write : ∀ target, statementOf (tokens text) = some (.dml target) → ¬ IsLogTable target →
    shouldLog unicode parse text = .ok true ∧ ∀ prepare entry,
      entryForExecute unicode parse prepare text = .ok entry →
        (recordedEntry unicode entry text .ok).isSome ∧
          ∀ message, (recordedEntry unicode entry text (.error message true)).isSome
  internal : ∀ target, statementOf (tokens text) = some (.dml target) → IsLogTable target →
    shouldLog unicode parse text = .ok false
  query : statementOf (tokens text) = some .query → shouldLog unicode parse text = .ok false

/-- A write to a user table starts with no comment and has the name of a log table nowhere;
where `sqlglot` is asked, it finds the tokens of a write, and a query it reads as one. -/
structure Recognised (unicode : Unicode) (parse : List Char → Parsed) (text : List Char) :
    Prop where
  write : ∀ target, statementOf (tokens text) = some (.dml target) → ¬ IsLogTable target →
    StartsWithComment (strip text) = false ∧
      mentionsLogTable unicode (unicode.upperCase (strip text)) = false ∧
        (asksParser unicode text → parse (strip text) ≠ .tokenError)
  query : statementOf (tokens text) = some .query → asksParser unicode text →
    parse (strip text) = .other

end

def asciiUnicode : Unicode where
  upper c := [c.toUpper]
  upper_ascii _ _ := rfl
  isWordChar c := c.isAlphanum || c = '_'
  isWordChar_ascii _ _ := rfl

def parsedInsert : List Char → Parsed := fun _ => .insert

def insertT : Statement := .dml "t".toList

lemma readsAsSqlite_insert {text : List Char} (h : statementOf (tokens text) = some insertT) :
    ReadsAsSqlite parsedInsert text where
  dml _ _ := by simp [parsedInsert]
  query hquery := by
    rw [h] at hquery
    cases hquery

def literalText : List Char := "INSERT INTO t VALUES ('see _sqlite_merge_log')".toList

def commentText : List Char := "-- add one\nINSERT INTO t VALUES (1)".toList

def emptyBlobText : List Char := "WITH c AS (SELECT x'') INSERT INTO u SELECT * FROM c".toList

def notTokenized : List Char → Parsed := fun _ => .tokenError

end SqliteReconcile.StatementLogging
