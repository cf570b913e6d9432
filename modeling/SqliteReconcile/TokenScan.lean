import SqliteReconcile.ConflictSyntax

/-!
# Scanning well-formed tokens

A text is made of strings, quoted identifiers, comments, parentheses and plain characters. The
scanner finds no keyword inside a delimited piece and stands between two tokens after it.
-/
namespace SqliteReconcile.ConflictSyntax
open StatementLogging

/-- What Python knows of the letters besides: a letter of a regular expression matches only
letters, `upper` gives it back for all of them but some outside ASCII, and no other character
turns into a letter of a keyword. -/
structure Letters extends Characters where
  isWordChar_of_isAlpha : ∀ c, isAlpha c = true → isWordChar c = true
  isAlpha_of_ignoreCase : ∀ letter c, letter.isUpper = true → ignoreCase letter c = true →
    isAlpha c = true
  ignoreCase_inj : ∀ letter other c, letter.isUpper = true → other.isUpper = true →
    ignoreCase letter c = true → ignoreCase other c = true → letter = other
  upper_of_ignoreCase : ∀ letter c, letter.isUpper = true → ignoreCase letter c = true →
    upper c = [letter] ∨ upper c = [c] ∧ 128 ≤ c.val
  upper_of_not_word : ∀ c, isWordChar c = false →
    ∃ d rest, upper c = d :: rest ∧ d.isUpper = false

/-- The delimiters around the content of a token. -/
inductive Delimiters
  | quote (delimiter : Char)
  | bracket
  | lineComment (terminator : Option Char)
  | blockComment
  deriving DecidableEq

/-- In a quoted text its delimiter is doubled. -/
inductive QuotedContent (delimiter : Char) : List Char → Prop
  | nil : QuotedContent delimiter []
  | char {c : Char} {rest : List Char} (hc : c ≠ delimiter)
      (hrest : QuotedContent delimiter rest) : QuotedContent delimiter (c :: rest)
  | doubled {rest : List Char} (hrest : QuotedContent delimiter rest) :
      QuotedContent delimiter (delimiter :: delimiter :: rest)

namespace Delimiters

def opening : Delimiters → List Char
  | .quote delimiter => [delimiter]
  | .bracket => ['[']
  | .lineComment _ => ['-', '-']
  | .blockComment => ['/', '*']

def closing : Delimiters → List Char
  | .quote delimiter => [delimiter]
  | .bracket => [']']
  | .lineComment terminator => terminator.toList
  | .blockComment => ['*', '/']

def text (delimiters : Delimiters) (content : List Char) : List Char :=
  delimiters.opening ++ content ++ delimiters.closing

/-- The content ends where the delimiters say. As in the scanner, a carriage return ends a line
comment too; SQLite lets one stand in it. -/
def Holds : Delimiters → List Char → Prop
  | .quote delimiter, content => QuotedContent delimiter content
  | .bracket, content => ']' ∉ content
  | .lineComment _, content => '\r' ∉ content ∧ '\n' ∉ content
  | .blockComment, content => ¬ ['*', '/'] <:+: content

/-- What may follow. A line comment that no line ends is the last token. -/
def Stands : Delimiters → Option Char → Prop
  | .quote delimiter, next => delimiter ∈ quotes ∧ next ≠ some delimiter
  | .bracket, _ => True
  | .lineComment terminator, next =>
    terminator = some '\r' ∨ terminator = some '\n' ∨ terminator = none ∧ next = none
  | .blockComment, _ => True

end Delimiters

inductive Token
  | plain (char : Char)
  | delimited (delimiters : Delimiters) (content : List Char)
  deriving DecidableEq

namespace Token

def text : Token → List Char
  | .plain char => [char]
  | .delimited delimiters content => delimiters.text content

/-- A plain character opens nothing, neither alone nor with the next one. -/
def WellFormed : Token → Option Char → Prop
  | .plain char, next =>
    char ∉ quotes ∧ char ≠ '[' ∧ ¬ (char = '-' ∧ next = some '-') ∧
      ¬ (char = '/' ∧ next = some '*')
  | .delimited delimiters content, next => delimiters.Holds content ∧ delimiters.Stands next

end Token

def texts (tokens : List Token) : List Char := tokens.flatMap Token.text

/-- Tokens that `after` follows. -/
def WellFormed (after : List Char) : List Token → Prop
  | [] => True
  | token :: rest => token.WellFormed (texts rest ++ after).head? ∧ WellFormed after rest

/-- Parentheses that close what was opened before, `depth` of them. -/
def Balanced (depth : ℕ) : List Token → Prop
  | [] => depth = 0
  | token :: rest =>
    if token = .plain '(' then Balanced (depth + 1) rest
    else if token = .plain ')' then 0 < depth ∧ Balanced (depth - 1) rest
    else Balanced depth rest

/-- A place whose content can be replaced. -/
inductive Place
  | delimited (delimiters : Delimiters)
  | group
  deriving DecidableEq

namespace Place

def opening : Place → List Char
  | .delimited delimiters => delimiters.opening
  | .group => ['(']

def closing : Place → List Char
  | .delimited delimiters => delimiters.closing
  | .group => [')']

def text (place : Place) (content : List Char) : List Char :=
  place.opening ++ content ++ place.closing

def Holds : Place → List Char → Prop
  | .delimited delimiters, content => delimiters.Holds content
  | .group, content =>
    ∃ tokens, texts tokens = content ∧ ConflictSyntax.WellFormed [')'] tokens ∧ Balanced 0 tokens

def Stands : Place → Option Char → Prop
  | .delimited delimiters, next => delimiters.Stands next
  | .group, _ => True

end Place

section

variable (characters : Characters)

/-- The scanner after a text that `after` follows. -/
def Scan.over (s : Scan) (after : List Char) : List Char → Scan
  | [] => s
  | char :: rest => (s.step char (rest ++ after).head?).over after rest

/-- The first keyword of a text, which `after` follows, where `found` has an answer, and the
text before it. -/
def firstWithin {α : Type} (found : List Char → Option α) (s : Scan) (after : List Char) :
    List Char → Option (List Char × α)
  | [] => none
  | char :: rest =>
    (if s.atKeyword characters char then (found (char :: rest ++ after)).map ([], ·)
      else none).or
      ((firstWithin found (s.step char (rest ++ after).head?) after rest).map fun first =>
        (char :: first.1, first.2))

structure Scan.Between (s : Scan) : Prop where
  inside : s.inside = .code
  consumed : s.consumed = false

def Scan.AfterWord (s : Scan) : Prop := s.previous.all (!characters.isWordChar ·) = true

/-- Two scanners that go on in the same way. -/
structure Scan.Agrees (s s' : Scan) : Prop where
  depth : s.depth = s'.depth
  inside : s.inside = s'.inside
  consumed : s.consumed = s'.consumed
  previous : s.previous.all (!characters.isWordChar ·) = s'.previous.all (!characters.isWordChar ·)

end

variable {characters : Characters} {s s' : Scan} {text rest after after' : List Char}
variable {α : Type} {found : List Char → Option α}

lemma head?_append_of_head? (h : after.head? = after'.head?) :
    (rest ++ after).head? = (rest ++ after').head? := by
  cases rest with
  | nil => exact h
  | cons c rest => rfl

lemma Scan.over_append (text rest : List Char) :
    s.over after (text ++ rest) = (s.over (rest ++ after) text).over after rest := by
  induction text generalizing s with
  | nil => rfl
  | cons c text ih => simp only [List.cons_append, Scan.over, ih, List.append_assoc]

lemma Scan.over_congr (h : after.head? = after'.head?) (text : List Char) :
    s.over after text = s.over after' text := by
  induction text generalizing s with
  | nil => rfl
  | cons c text ih => rw [Scan.over, Scan.over, head?_append_of_head? h, ih]

lemma firstWithin_append (text rest : List Char) :
    firstWithin characters found s after (text ++ rest) =
      (firstWithin characters found s (rest ++ after) text).or
        ((firstWithin characters found (s.over (rest ++ after) text) after rest).map fun first =>
          (text ++ first.1, first.2)) := by
  induction text generalizing s with
  | nil => simp [firstWithin, Scan.over]
  | cons c text ih =>
    simp only [List.cons_append, firstWithin, Scan.over, ih, List.append_assoc, Option.map_or,
      Option.or_assoc, Option.map_map]
    rfl

lemma Scan.Agrees.step (h : s.Agrees characters s') (c : Char) (next : Option Char) :
    (s.step c next).Agrees characters (s'.step c next) := by
  obtain ⟨hdepth, hinside, hconsumed, -⟩ := h
  unfold Scan.step
  simp only [hdepth, hinside, hconsumed]
  repeat' split
  all_goals exact ⟨rfl, rfl, rfl, rfl⟩

lemma Scan.Agrees.atKeyword (h : s.Agrees characters s') (c : Char) :
    s.atKeyword characters c = s'.atKeyword characters c := by
  obtain ⟨hdepth, hinside, hconsumed, hprevious⟩ := h
  simp only [Scan.atKeyword, hdepth, hinside, hconsumed, hprevious]

lemma Scan.Agrees.over (h : s.Agrees characters s') (text : List Char) :
    (s.over after text).Agrees characters (s'.over after text) := by
  induction text generalizing s s' with
  | nil => exact h
  | cons c text ih => exact ih (h.step c _)

lemma Scan.Agrees.firstWithin (h : s.Agrees characters s') (text : List Char) :
    firstWithin characters found s after text = firstWithin characters found s' after text := by
  induction text generalizing s s' with
  | nil => rfl
  | cons c text ih =>
    rw [ConflictSyntax.firstWithin, ConflictSyntax.firstWithin, h.atKeyword, ih (h.step c _)]

lemma firstWithin_some {before : List Char} {value : α}
    (h : firstWithin characters found s after text = some (before, value)) :
    ∃ c rest, text = before ++ c :: rest ∧ found (c :: rest ++ after) = some value ∧
      (s.over (c :: rest ++ after) before).atKeyword characters c = true := by
  induction text generalizing s before with
  | nil => cases h
  | cons c text ih =>
    rw [firstWithin, Option.or_eq_some_iff] at h
    rcases h with h | ⟨-, h⟩
    · split at h
      · next hkeyword =>
        obtain ⟨found, hfound, hpair⟩ := Option.map_eq_some_iff.mp h
        cases hpair
        exact ⟨c, text, rfl, hfound, hkeyword⟩
      · cases h
    · obtain ⟨⟨before', value'⟩, hlater, hpair⟩ := Option.map_eq_some_iff.mp h
      cases hpair
      obtain ⟨c', rest, rfl, hfound, hkeyword⟩ := ih hlater
      refine ⟨c', rest, rfl, hfound, ?_⟩
      rw [Scan.over, ← List.append_assoc]
      simpa using hkeyword

lemma previous_step (s : Scan) (c : Char) (next : Option Char) :
    (s.step c next).previous = some c ∧ (s.step c next).index = s.index + 1 := by
  unfold Scan.step
  dsimp only
  repeat' split
  all_goals exact ⟨rfl, rfl⟩

/-- The scanner has passed `before`. -/
structure Scan.Passed (s : Scan) (before : List Char) : Prop where
  index : s.index = before.length
  previous : s.previous = before.getLast?

lemma Scan.Passed.step {before : List Char} (h : s.Passed before) (c : Char)
    (next : Option Char) : (s.step c next).Passed (before ++ [c]) := by
  obtain ⟨hprevious, hindex⟩ := previous_step s c next
  exact ⟨by rw [hindex, h.index]; simp, by rw [hprevious]; simp⟩

lemma findSome?_keywordIndexes {β : Type} {f : ℕ → Option β} (g : List Char → α → β)
    (hf : ∀ before c rest, (before ++ c :: rest) = text →
      before.getLast?.all (!characters.isWordChar ·) = true →
      f before.length = (found (c :: rest)).map (g before))
    (before : List Char) (htext : text = before ++ rest) (h : s.Passed before) :
    (keywordIndexes characters s rest).findSome? f =
      (firstWithin characters found s [] rest).map fun first => g (before ++ first.1) first.2 := by
  induction rest generalizing s before with
  | nil => rfl
  | cons c rest ih =>
    have hlater := ih (before ++ [c]) (by simp [htext]) (h.step c rest.head?)
    rw [keywordIndexes, firstWithin, List.findSome?_append, hlater]
    simp only [List.append_nil, Option.map_or, Option.map_map]
    congr 1
    · by_cases hkeyword : s.atKeyword characters c = true
      · have hword : before.getLast?.all (!characters.isWordChar ·) = true := by
          rw [← h.previous]
          simp only [Scan.atKeyword, Bool.and_eq_true] at hkeyword
          exact hkeyword.2
        rw [if_pos hkeyword, if_pos hkeyword, List.findSome?_singleton, h.index,
          hf before c rest htext.symm hword, Option.map_map]
        congr 1
        funext value
        simp
      · rw [if_neg hkeyword, if_neg hkeyword]
        rfl
    · congr 1
      funext first
      simp

lemma passed_start : Scan.start.Passed [] := ⟨rfl, rfl⟩

lemma topLevelPatternMatch_eq (pattern : Pattern) (text : List Char) :
    topLevelPatternMatch characters text pattern =
      (firstWithin characters pattern .start [] text).map fun first => ⟨first.2, first.1⟩ := by
  refine findSome?_keywordIndexes (fun before (found : Found) => (⟨found, before⟩ : Match)) ?_ []
    (List.nil_append text).symm passed_start
  intro before c rest htext _
  simp [← htext]

/-- A text that starts with ON and CONFLICT. -/
def onConflict (characters : Characters) (text : List Char) : Option Unit :=
  if characters.upperCase (text.take 2) = "ON".toList ∧
      text[2]?.all (!characters.isWordChar ·) = true ∧
      nextKeywordAfter characters text 2 = some "CONFLICT".toList then some () else none

lemma findTopLevelOnConflict_eq (text : List Char) :
    findTopLevelOnConflict characters text =
      (firstWithin characters (onConflict characters) .start [] text).map
        fun first => first.1.length := by
  have hfind : ∀ (p : ℕ → Bool) (indexes : List ℕ), indexes.find? p =
      indexes.findSome? fun index => if p index then some index else none := by
    intro p indexes
    induction indexes with
    | nil => rfl
    | cons index indexes ih =>
      by_cases hp : p index = true <;> simp [hp, ih]
  rw [findTopLevelOnConflict, hfind]
  refine findSome?_keywordIndexes (fun before (_ : Unit) => before.length) ?_ []
    (List.nil_append text).symm passed_start
  rintro before c rest rfl hword
  have hbefore : (before.length = 0 ||
      (before ++ c :: rest)[before.length - 1]?.all (!characters.isWordChar ·)) = true := by
    by_cases hempty : before = []
    · simp [hempty]
    · have hpos : 0 < before.length := List.length_pos_iff.mpr hempty
      rw [List.getElem?_append_left (by omega), ← List.getLast?_eq_getElem?, hword, Bool.or_true]
  have hdrop : (before ++ c :: rest).drop before.length = c :: rest := List.drop_left
  have hat : (before ++ c :: rest)[before.length + 2]? = (c :: rest)[2]? := by
    rw [List.getElem?_append_right (by omega), Nat.add_sub_cancel_left]
  have hnext : nextKeywordAfter characters (before ++ c :: rest) (before.length + 2) =
      nextKeywordAfter characters (c :: rest) 2 := by
    rw [nextKeywordAfter, nextKeywordAfter, ← List.drop_drop, hdrop]
  have hkeyword : keywordAt characters (before ++ c :: rest) before.length "ON" =
      (decide (characters.upperCase ((c :: rest).take 2) = "ON".toList) &&
        (c :: rest)[2]?.all (!characters.isWordChar ·)) := by
    have hlength : "ON".length = 2 := rfl
    rw [keywordAt, hlength, hdrop, hat, hbefore, Bool.and_true]
  rw [hkeyword, hnext, onConflict]
  simp only [Bool.and_eq_true, decide_eq_true_eq, and_assoc]
  split <;> rfl

/-- The scanner finds nothing in a text and, unless nothing follows, stands between two tokens
after it, as deep as before. -/
structure Scan.Skips (characters : Characters) (s : Scan) (after text : List Char) : Prop where
  silent : ∀ (α : Type) (found : List Char → Option α),
    firstWithin characters found s after text = none
  between : after ≠ [] → (s.over after text).Between
  depth : after ≠ [] → (s.over after text).depth = s.depth

lemma Scan.Skips.nil (h : s.Between) : s.Skips characters after [] :=
  ⟨fun _ _ => rfl, fun _ => h, fun _ => rfl⟩

lemma Scan.Skips.cons {c : Char} (hkeyword : s.atKeyword characters c = false)
    (hdepth : (s.step c (rest ++ after).head?).depth = s.depth)
    (hrest : (s.step c (rest ++ after).head?).Skips characters after rest) :
    s.Skips characters after (c :: rest) := by
  refine ⟨fun α found => ?_, hrest.between, fun hafter => (hrest.depth hafter).trans hdepth⟩
  rw [firstWithin, hkeyword, hrest.silent]
  rfl

lemma step_consumed {c : Char} {next : Option Char} (h : s.consumed = true) :
    s.step c next = ⟨s.index + 1, some c, s.depth, s.inside, false⟩ := by
  simp [Scan.step, h]

lemma Scan.Skips.pair {c c' : Char} (hkeyword : s.atKeyword characters c = false)
    (hconsumed : (s.step c (some c')).consumed = true)
    (hdepth : (s.step c (some c')).depth = s.depth)
    (hrest : Scan.Skips characters ⟨s.index + 2, some c', s.depth, (s.step c (some c')).inside,
      false⟩ after rest) : s.Skips characters after (c :: c' :: rest) := by
  have hsecond : ∀ next, (s.step c (some c')).step c' next =
      ⟨s.index + 2, some c', s.depth, (s.step c (some c')).inside, false⟩ := by
    intro next
    rw [step_consumed hconsumed, hdepth, (previous_step s c (some c')).2]
  refine .cons hkeyword hdepth (.cons ?_ ?_ ?_)
  · simp [Scan.atKeyword, hconsumed]
  · exact (congrArg Scan.depth (hsecond _)).trans hdepth.symm
  · exact (hsecond (rest ++ after).head?).symm ▸ hrest

lemma Scan.previous_over (htext : text ≠ []) : (s.over after text).previous = text.getLast? := by
  induction text generalizing s with
  | nil => exact absurd rfl htext
  | cons c text ih =>
    rw [Scan.over]
    by_cases hrest : text = []
    · subst hrest
      exact (previous_step s c _).1
    · rw [ih hrest, List.getLast?_cons, List.getLast?_eq_some_getLast hrest]
      rfl

lemma atKeyword_inside {c : Char} (h : s.inside ≠ .code ∨ s.consumed = true ∨ s.depth ≠ 0) :
    s.atKeyword characters c = false := by
  simp only [Scan.atKeyword]
  rcases h with h | h | h <;> simp [h]

lemma skips_quoted {delimiter : Char} {content : List Char} (hinside : s.inside = .quote delimiter)
    (hconsumed : s.consumed = false) (hcontent : QuotedContent delimiter content)
    (hafter : after.head? ≠ some delimiter) :
    s.Skips characters after (content ++ [delimiter]) := by
  have hquiet : ∀ c, s.atKeyword characters c = false := fun c =>
    atKeyword_inside (.inl (by simp [hinside]))
  induction hcontent generalizing s with
  | nil =>
    have hstep : s.step delimiter after.head? = ⟨s.index + 1, some delimiter, s.depth, .code,
        false⟩ := by
      simp [Scan.step, hinside, hconsumed, hafter]
    refine .cons (hquiet delimiter) ?_ ?_
    · simp [hstep]
    · rw [List.nil_append, hstep]
      exact .nil ⟨rfl, rfl⟩
  | @char c rest hc hrest ih =>
    have hstep : ∀ next, s.step c next = ⟨s.index + 1, some c, s.depth, .quote delimiter,
        false⟩ := by
      intro next
      simp [Scan.step, hinside, hconsumed, hc]
    refine .cons (hquiet c) (by rw [hstep]) ?_
    rw [hstep]
    exact ih rfl rfl fun c => atKeyword_inside (.inl (by simp))
  | @doubled rest hrest ih =>
    have hstep : s.step delimiter (some delimiter) =
        ⟨s.index + 1, some delimiter, s.depth, .quote delimiter, true⟩ := by
      simp [Scan.step, hinside, hconsumed]
    refine .pair (hquiet delimiter) (by rw [hstep]) (by rw [hstep]) ?_
    rw [hstep]
    exact ih rfl rfl fun c => atKeyword_inside (.inl (by simp))

lemma skips_bracketed {content : List Char} (hinside : s.inside = .bracket)
    (hconsumed : s.consumed = false) (hcontent : ']' ∉ content) :
    s.Skips characters after (content ++ [']']) := by
  have hquiet : ∀ c, s.atKeyword characters c = false := fun c =>
    atKeyword_inside (.inl (by simp [hinside]))
  induction content generalizing s with
  | nil =>
    have hstep : s.step ']' after.head? = ⟨s.index + 1, some ']', s.depth, .code, false⟩ := by
      simp [Scan.step, hinside, hconsumed]
    refine .cons (hquiet _) (by simp [hstep]) ?_
    rw [List.nil_append, hstep]
    exact .nil ⟨rfl, rfl⟩
  | cons c content ih =>
    have hc : c ≠ ']' := fun h => hcontent (by simp [h])
    have hstep : ∀ next, s.step c next = ⟨s.index + 1, some c, s.depth, .bracket, false⟩ := by
      intro next
      simp [Scan.step, hinside, hconsumed, hc]
    refine .cons (hquiet c) (by rw [hstep]) ?_
    rw [hstep]
    exact ih rfl rfl (fun h => hcontent (by simp [h])) fun c => atKeyword_inside (.inl (by simp))

lemma skips_lineComment {content : List Char} {terminator : Option Char}
    (hinside : s.inside = .lineComment) (hconsumed : s.consumed = false)
    (hcontent : '\r' ∉ content ∧ '\n' ∉ content)
    (hterminator : (Delimiters.lineComment terminator).Stands after.head?) :
    s.Skips characters after (content ++ terminator.toList) := by
  have hquiet : ∀ c, s.atKeyword characters c = false := fun c =>
    atKeyword_inside (.inl (by simp [hinside]))
  induction content generalizing s with
  | nil =>
    have hend : ∀ c next, c = '\r' ∨ c = '\n' →
        s.step c next = ⟨s.index + 1, some c, s.depth, .code, false⟩ := by
      intro c next hc
      simp [Scan.step, hinside, hconsumed, hc]
    rcases hterminator with rfl | rfl | ⟨rfl, hlast⟩
    · refine .cons (hquiet _) (by rw [hend _ _ (.inl rfl)]) ?_
      rw [hend _ _ (.inl rfl)]
      exact .nil ⟨rfl, rfl⟩
    · refine .cons (hquiet _) (by rw [hend _ _ (.inr rfl)]) ?_
      rw [hend _ _ (.inr rfl)]
      exact .nil ⟨rfl, rfl⟩
    · have hafter : after = [] := List.head?_eq_none_iff.mp hlast
      exact ⟨fun _ _ => rfl, fun h => absurd hafter h, fun h => absurd hafter h⟩
  | cons c content ih =>
    have hc : ¬ (c = '\r' ∨ c = '\n') := by
      rintro (rfl | rfl)
      · exact hcontent.1 (by simp)
      · exact hcontent.2 (by simp)
    have hstep : ∀ next, s.step c next = ⟨s.index + 1, some c, s.depth, .lineComment, false⟩ := by
      intro next
      simp [Scan.step, hinside, hconsumed, hc]
    refine .cons (hquiet c) (by rw [hstep]) ?_
    rw [hstep]
    exact ih rfl rfl ⟨fun h => hcontent.1 (by simp [h]), fun h => hcontent.2 (by simp [h])⟩
      fun c => atKeyword_inside (.inl (by simp))

lemma skips_blockComment {content : List Char} (hinside : s.inside = .blockComment)
    (hconsumed : s.consumed = false) (hcontent : ¬ ['*', '/'] <:+: content) :
    s.Skips characters after (content ++ ['*', '/']) := by
  have hquiet : ∀ c, s.atKeyword characters c = false := fun c =>
    atKeyword_inside (.inl (by simp [hinside]))
  induction content generalizing s with
  | nil =>
    have hstep : s.step '*' (some '/') = ⟨s.index + 1, some '*', s.depth, .code, true⟩ := by
      simp [Scan.step, hinside, hconsumed]
    refine .pair (hquiet _) (by rw [hstep]) (by rw [hstep]) ?_
    rw [hstep]
    exact .nil ⟨rfl, rfl⟩
  | cons c content ih =>
    have hc : ¬ (c = '*' ∧ (content ++ ['*', '/'] ++ after).head? = some '/') := by
      rintro ⟨rfl, hnext⟩
      cases content with
      | nil => simp at hnext
      | cons c' content =>
        have hc' : c' = '/' := by simpa using hnext
        subst hc'
        exact hcontent ⟨[], content, rfl⟩
    have hstep : s.step c (content ++ ['*', '/'] ++ after).head? =
        ⟨s.index + 1, some c, s.depth, .blockComment, false⟩ := by
      simp only [Scan.step, hinside, hconsumed, if_neg hc, Bool.false_eq_true, if_false]
    rw [List.cons_append]
    refine .cons (hquiet c) (by rw [hstep]) ?_
    rw [hstep]
    exact ih rfl rfl (fun h => hcontent (h.trans (List.suffix_cons c content).isInfix))
      fun c => atKeyword_inside (.inl (by simp))

lemma atKeyword_of_not_word {c : Char} (hascii : c.val < 128) (halpha : c.isAlpha = false)
    (hunderscore : c ≠ '_') : s.atKeyword characters c = false := by
  simp [Scan.atKeyword, characters.isAlpha_ascii c hascii, halpha, hunderscore]

lemma skips_delimited {delimiters : Delimiters} {content : List Char} (h : s.Between)
    (hholds : delimiters.Holds content) (hstands : delimiters.Stands after.head?) :
    s.Skips characters after (delimiters.text content) := by
  obtain ⟨hinside, hconsumed⟩ := h
  cases delimiters with
  | quote delimiter =>
    obtain ⟨hquote, hnext⟩ := hstands
    have hascii : delimiter.val < 128 ∧ delimiter.isAlpha = false ∧ delimiter ≠ '_' := by
      revert hquote
      simp only [quotes, List.mem_cons, List.not_mem_nil, or_false]
      rintro (rfl | rfl | rfl) <;> decide
    have hstep : ∀ next, s.step delimiter next =
        ⟨s.index + 1, some delimiter, s.depth, .quote delimiter, false⟩ := by
      intro next
      have hdash : delimiter ≠ '-' := by
        rintro rfl
        revert hquote
        decide
      have hslash : delimiter ≠ '/' := by
        rintro rfl
        revert hquote
        decide
      simp [Scan.step, hinside, hconsumed, hquote, hdash, hslash]
    change s.Skips characters after (delimiter :: (content ++ [delimiter]))
    refine .cons
      (atKeyword_of_not_word hascii.1 hascii.2.1 hascii.2.2) (by rw [hstep]) ?_
    rw [hstep]
    exact skips_quoted rfl rfl hholds hnext
  | bracket =>
    have hstep : ∀ next, s.step '[' next = ⟨s.index + 1, some '[', s.depth, .bracket, false⟩ := by
      intro next
      simp [Scan.step, hinside, hconsumed, quotes]
    refine .cons (atKeyword_of_not_word (by decide) (by decide) (by decide)) (by rw [hstep]) ?_
    rw [hstep]
    exact skips_bracketed rfl rfl hholds
  | lineComment terminator =>
    have hstep : s.step '-' (some '-') =
        ⟨s.index + 1, some '-', s.depth, .lineComment, true⟩ := by
      simp [Scan.step, hinside, hconsumed]
    refine .pair (atKeyword_of_not_word (by decide) (by decide) (by decide)) (by rw [hstep])
      (by rw [hstep]) ?_
    rw [hstep]
    exact skips_lineComment rfl rfl hholds hstands
  | blockComment =>
    have hstep : s.step '/' (some '*') =
        ⟨s.index + 1, some '/', s.depth, .blockComment, true⟩ := by
      simp [Scan.step, hinside, hconsumed]
    refine .pair (atKeyword_of_not_word (by decide) (by decide) (by decide)) (by rw [hstep])
      (by rw [hstep]) ?_
    rw [hstep]
    exact skips_blockComment rfl rfl hholds

def plainDepth (depth : ℕ) (char : Char) : ℕ :=
  if char = '(' then depth + 1 else if char = ')' then depth - 1 else depth

lemma step_plain {c : Char} {next : Option Char} (h : s.Between)
    (hplain : (Token.plain c).WellFormed next) :
    s.step c next = ⟨s.index + 1, some c, plainDepth s.depth c, .code, false⟩ := by
  obtain ⟨hquote, hbracket, hdash, hslash⟩ := hplain
  obtain ⟨hinside, hconsumed⟩ := h
  simp only [Scan.step, hinside, hconsumed, if_neg hdash, if_neg hslash, if_neg hquote,
    if_neg hbracket, plainDepth, Bool.false_eq_true, if_false]
  split
  · rfl
  · split <;> rfl

lemma between_texts {tokens : List Token} (h : s.Between) (htokens : WellFormed after tokens)
    (hafter : after ≠ []) : (s.over after (texts tokens)).Between := by
  induction tokens generalizing s with
  | nil => exact h
  | cons token tokens ih =>
    rw [show texts (token :: tokens) = token.text ++ texts tokens from rfl, Scan.over_append]
    refine ih ?_ htokens.2
    cases token with
    | plain c =>
      rw [Token.text, Scan.over, Scan.over, List.nil_append, step_plain h htokens.1]
      exact ⟨rfl, rfl⟩
    | delimited delimiters content =>
      have hskips : s.Skips asciiCharacters (texts tokens ++ after) (delimiters.text content) :=
        skips_delimited h htokens.1.1 htokens.1.2
      exact hskips.between (by simp [hafter])

variable (characters) in
/-- Inside of parentheses the scanner finds nothing up to the one that closes them. -/
lemma skips_balanced {tokens : List Token} {depth : ℕ} (h : s.Between)
    (htokens : WellFormed after tokens) (hafter : after ≠ []) (hbalanced : Balanced depth tokens)
    (hdepth : depth < s.depth) :
    (∀ (α : Type) (found : List Char → Option α),
      firstWithin characters found s after (texts tokens) = none) ∧
      (s.over after (texts tokens)).depth + depth = s.depth := by
  induction tokens generalizing s depth with
  | nil =>
    have hzero : depth = 0 := hbalanced
    exact ⟨fun _ _ => rfl, by rw [hzero]; rfl⟩
  | cons token tokens ih =>
    simp only [show texts (token :: tokens) = token.text ++ texts tokens from rfl,
      firstWithin_append, Scan.over_append]
    cases token with
    | plain c =>
      have hkeyword : s.atKeyword characters c = false :=
        atKeyword_inside (.inr (.inr (by omega)))
      have hover : s.over (texts tokens ++ after) [c] =
          ⟨s.index + 1, some c, plainDepth s.depth c, .code, false⟩ := by
        rw [Scan.over, Scan.over, List.nil_append, step_plain h htokens.1]
      have hquiet : ∀ (α : Type) (found : List Char → Option α),
          firstWithin characters found s (texts tokens ++ after) [c] = none := by
        intro α found
        simp [firstWithin, hkeyword]
      rw [Balanced] at hbalanced
      have hinner : ∃ inner, Balanced inner tokens ∧ inner < plainDepth s.depth c ∧
          plainDepth s.depth c + depth = s.depth + inner := by
        simp only [plainDepth]
        split at hbalanced
        · next hopen =>
          cases hopen
          exact ⟨depth + 1, hbalanced, by simp; omega, by simp; omega⟩
        · next hopen =>
          have hc : c ≠ '(' := fun heq => hopen (by rw [heq])
          rw [if_neg hc]
          split at hbalanced
          · next hclose =>
            cases hclose
            obtain ⟨hpos, hrest⟩ := hbalanced
            exact ⟨depth - 1, hrest, by simp; omega, by simp; omega⟩
          · next hclose =>
            have hc' : c ≠ ')' := fun heq => hclose (by rw [heq])
            rw [if_neg hc']
            exact ⟨depth, hbalanced, hdepth, rfl⟩
      obtain ⟨inner, hrest, hlt, hsum⟩ := hinner
      simp only [Token.text, hquiet, hover]
      obtain ⟨hsilent, hend⟩ := ih (s := ⟨s.index + 1, some c, plainDepth s.depth c, .code,
        false⟩) ⟨rfl, rfl⟩ htokens.2 hrest hlt
      refine ⟨fun α found => by rw [hsilent]; rfl, ?_⟩
      have hend' := hend
      simp only at hend'
      omega
    | delimited delimiters content =>
      have hskips : s.Skips characters (texts tokens ++ after) (delimiters.text content) :=
        skips_delimited h htokens.1.1 htokens.1.2
      have hne : texts tokens ++ after ≠ [] := by simp [hafter]
      have hbalanced' : Balanced depth tokens := by
        simpa [Balanced] using hbalanced
      obtain ⟨hsilent, hend⟩ := ih (hskips.between hne) htokens.2 hbalanced'
        (by rw [hskips.depth hne]; exact hdepth)
      rw [hskips.depth hne] at hend
      exact ⟨fun α found => by rw [Token.text, hskips.silent, hsilent]; rfl, hend⟩

lemma skips_group {tokens : List Token} (h : s.Between) (htokens : WellFormed [')'] tokens)
    (hbalanced : Balanced 0 tokens) :
    s.Skips characters after ('(' :: (texts tokens ++ [')'])) := by
  have hparen : ∀ c next, c = '(' ∨ c = ')' → (Token.plain c).WellFormed next := by
    rintro c next (rfl | rfl) <;> simp [Token.WellFormed, quotes]
  have hopen : ∀ next, s.step '(' next = ⟨s.index + 1, some '(', s.depth + 1, .code, false⟩ :=
    fun next => step_plain h (hparen _ _ (.inl rfl))
  have hwell : WellFormed (')' :: after) tokens := by
    clear hbalanced
    induction tokens with
    | nil => trivial
    | cons token tokens ih =>
      refine ⟨?_, ih htokens.2⟩
      have hhead : (texts tokens ++ ')' :: after).head? = (texts tokens ++ [')']).head? :=
        head?_append_of_head? rfl
      rw [hhead]
      exact htokens.1
  have hquiet : ∀ {s : Scan} {c : Char}, c = '(' ∨ c = ')' →
      s.atKeyword characters c = false := by
    rintro s c (rfl | rfl)
    · exact atKeyword_of_not_word (by decide) (by decide) (by decide)
    · exact atKeyword_of_not_word (by decide) (by decide) (by decide)
  let inner : Scan := ⟨s.index + 1, some '(', s.depth + 1, .code, false⟩
  have hinner : inner.Between := ⟨rfl, rfl⟩
  obtain ⟨hsilent, hdepth⟩ := skips_balanced characters hinner hwell (by simp) hbalanced
    (Nat.succ_pos s.depth)
  obtain ⟨hinside, hconsumed⟩ := between_texts hinner hwell (by simp)
  have hover : s.over after ('(' :: (texts tokens ++ [')'])) =
      (inner.over (')' :: after) (texts tokens)).step ')' after.head? := by
    rw [Scan.over, hopen, Scan.over_append]
    rfl
  have hclose := step_plain (s := inner.over (')' :: after) (texts tokens)) ⟨hinside, hconsumed⟩
    (hparen ')' after.head? (.inr rfl))
  rw [hclose] at hover
  constructor
  · intro α found
    have hlast : ∀ s : Scan, firstWithin characters found s after [')'] = none := by
      intro s
      simp [firstWithin, hquiet]
    have hcontent : firstWithin characters found inner after (texts tokens ++ [')']) = none := by
      rw [firstWithin_append, hlast]
      exact congrArg (Option.or · none) (hsilent α found)
    rw [firstWithin, hquiet (.inl rfl), hopen]
    exact congrArg (Option.map _) hcontent
  · intro _
    rw [hover]
    exact ⟨rfl, rfl⟩
  · intro _
    rw [hover]
    have hend : (inner.over (')' :: after) (texts tokens)).depth = s.depth + 1 := hdepth
    simp [plainDepth, hend]

lemma skips_place {place : Place} {content : List Char} (h : s.Between)
    (hholds : place.Holds content) (hstands : place.Stands after.head?) :
    s.Skips characters after (place.text content) := by
  cases place with
  | delimited delimiters => exact skips_delimited h hholds hstands
  | group =>
    obtain ⟨tokens, rfl, htokens, hbalanced⟩ := hholds
    exact skips_group h htokens hbalanced

/-- A character that neither a word nor white space contains. -/
def Breaks (characters : Characters) (c : Char) : Prop :=
  characters.isWordChar c = false ∧ isPythonSpace c = false

lemma not_word_of_ascii {c : Char} (hascii : c.val < 128) (hword : c.isAlphanum = false)
    (hunderscore : c ≠ '_') : characters.isWordChar c = false := by
  simp [characters.isWordChar_ascii c hascii, hword, hunderscore]

lemma breaks_of_ascii {c : Char} (h : c ∈ quotes ++ ['[', '-', '/', '(']) :
    Breaks characters c := by
  simp only [quotes, List.cons_append, List.nil_append, List.mem_cons, List.not_mem_nil,
    or_false] at h
  rcases h with rfl | rfl | rfl | rfl | rfl | rfl | rfl
  all_goals exact ⟨not_word_of_ascii (by decide) (by decide) (by decide), by decide⟩

variable (characters) in
/-- No word and no white space reaches into a place. -/
lemma breaks_opening {place : Place} {next : Option Char} (h : place.Stands next) :
    ∃ c rest, place.opening = c :: rest ∧ Breaks characters c := by
  cases place with
  | group => exact ⟨'(', [], rfl, breaks_of_ascii (by decide)⟩
  | delimited delimiters =>
    cases delimiters with
    | quote delimiter => exact ⟨delimiter, [], rfl, breaks_of_ascii (List.mem_append_left _ h.1)⟩
    | bracket => exact ⟨'[', [], rfl, breaks_of_ascii (by decide)⟩
    | lineComment terminator => exact ⟨'-', ['-'], rfl, breaks_of_ascii (by decide)⟩
    | blockComment => exact ⟨'/', ['*'], rfl, breaks_of_ascii (by decide)⟩

lemma opening_ne_nil (place : Place) : place.opening ≠ [] := by
  rcases place with (_ | _ | _ | _) | _ <;> simp [Place.opening, Delimiters.opening]

lemma afterWord_place {place : Place} {content : List Char} (hstands : place.Stands after.head?)
    (hafter : after ≠ []) : (s.over after (place.text content)).AfterWord characters := by
  have hlast : ∀ c, characters.isWordChar c = false → place.closing.getLast? = some c →
      (s.over after (place.text content)).AfterWord characters := by
    intro c hc hclosing
    have hne : place.text content ≠ [] := by simp [Place.text, opening_ne_nil]
    rw [Scan.AfterWord, Scan.previous_over hne, Place.text, List.getLast?_append, hclosing]
    simp [hc]
  cases place with
  | group => exact hlast ')' (not_word_of_ascii (by decide) (by decide) (by decide)) rfl
  | delimited delimiters =>
    cases delimiters with
    | quote delimiter =>
      exact hlast delimiter (breaks_of_ascii (List.mem_append_left _ hstands.1)).1 rfl
    | bracket => exact hlast ']' (not_word_of_ascii (by decide) (by decide) (by decide)) rfl
    | lineComment terminator =>
      rcases hstands with rfl | rfl | ⟨rfl, hnone⟩
      · exact hlast '\r' (not_word_of_ascii (by decide) (by decide) (by decide)) rfl
      · exact hlast '\n' (not_word_of_ascii (by decide) (by decide) (by decide)) rfl
      · exact absurd (List.head?_eq_none_iff.mp hnone) hafter
    | blockComment => exact hlast '/' (not_word_of_ascii (by decide) (by decide) (by decide)) rfl

end SqliteReconcile.ConflictSyntax
