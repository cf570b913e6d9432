import SqliteReconcile.TokenScan

/-!
# Clauses of keywords

What the patterns match, why a match never reaches into a quoted, commented or nested text, and
what a rewritten clause leaves as it was.
-/
namespace SqliteReconcile.ConflictSyntax
open StatementLogging

variable {letters : Letters} {text rest after : List Char}

def Spells (letters : Letters) (keyword word : List Char) : Prop :=
  List.Forall₂ (fun letter c => letters.ignoreCase letter c = true) keyword word

structure IsKeyword (keyword : List Char) : Prop where
  ne_nil : keyword ≠ []
  upper : ∀ c ∈ keyword, c.isUpper = true

lemma IsKeyword.tail {letter letter' : Char} {keyword : List Char}
    (h : IsKeyword (letter :: letter' :: keyword)) : IsKeyword (letter' :: keyword) :=
  ⟨by simp, fun c hc => h.upper c (by simp [hc])⟩

/-- Keywords that white space follows, one after the other. -/
inductive Clause (letters : Letters) : List (List Char) → List Char → Prop
  | nil : Clause letters [] []
  | cons {keyword : List Char} {keywords : List (List Char)} {word spaces text : List Char}
      (hkeyword : IsKeyword keyword) (hword : Spells letters keyword word)
      (hne : spaces ≠ []) (hspaces : ∀ c ∈ spaces, isPythonSpace c = true)
      (htext : Clause letters keywords text) :
      Clause letters (keyword :: keywords) (word ++ (spaces ++ text))

section

variable {keyword word : List Char}

lemma Spells.wordChar (h : Spells letters keyword word)
    (hupper : ∀ c ∈ keyword, c.isUpper = true) : ∀ c ∈ word, letters.isWordChar c = true := by
  induction h with
  | nil => simp
  | @cons letter c keyword word hmatch hrest ih =>
    intro d hd
    rcases List.mem_cons.mp hd with rfl | hd
    · exact letters.isWordChar_of_ignoreCase letter d (hupper letter (by simp)) hmatch
    · exact ih (fun c hc => hupper c (by simp [hc])) d hd

lemma Spells.head (h : Spells letters keyword word) (hkeyword : IsKeyword keyword) :
    ∃ letter keyword' c word', keyword = letter :: keyword' ∧ word = c :: word' ∧
      letters.ignoreCase letter c = true ∧ letters.isAlpha c = true := by
  cases h with
  | nil => exact absurd rfl hkeyword.ne_nil
  | @cons letter c keyword word hmatch hrest =>
    exact ⟨letter, keyword, c, word, rfl, rfl, hmatch,
      letters.isAlpha_of_ignoreCase letter c (hkeyword.upper letter (by simp)) hmatch⟩

lemma Spells.upperCase (h : Spells letters keyword word)
    (hupper : ∀ c ∈ keyword, c.isUpper = true) :
    List.Forall₂ (fun letter d : Char => d.val < 128 → d = letter) keyword
      (letters.upperCase word) := by
  induction h with
  | nil => exact .nil
  | @cons letter c keyword word hmatch hrest ih =>
    have htail := ih fun c hc => hupper c (by simp [hc])
    have hhead : ∃ d, letters.upper c = [d] ∧ (d.val < 128 → d = letter) := by
      rcases letters.upper_of_ignoreCase letter c (hupper letter (by simp)) hmatch with
        hsame | ⟨hself, hlarge⟩
      · exact ⟨letter, hsame, fun _ => rfl⟩
      · refine ⟨c, hself, fun hsmall => absurd hsmall ?_⟩
        exact UInt32.not_lt.mpr hlarge
    obtain ⟨d, hd, heq⟩ := hhead
    rw [Unicode.upperCase, List.flatMap_cons, hd]
    exact .cons heq htail

end

lemma prefix_upperCase {keyword before : List Char} {c : Char}
    (hupper : ∀ c ∈ keyword, c.isUpper = true) (hc : letters.isWordChar c = false) :
    keyword <+: letters.upperCase (before ++ c :: rest) ↔ keyword <+: letters.upperCase before := by
  obtain ⟨d, more, hd, hnot⟩ := letters.upper_of_not_word c hc
  have hsplit : letters.upperCase (before ++ c :: rest) =
      letters.upperCase before ++ d :: (more ++ letters.upperCase rest) := by
    rw [upperCase_append, Unicode.upperCase, Unicode.upperCase, List.flatMap_cons, hd]
    rfl
  constructor
  · intro h
    rw [hsplit] at h
    rcases List.prefix_or_prefix_of_prefix h (List.prefix_append _ _) with h' | ⟨tail, rfl⟩
    · exact h'
    · rw [List.prefix_append_right_inj] at h
      cases tail with
      | nil => simp
      | cons e tail =>
        have he : e = d := (List.cons_prefix_cons.mp h).1
        rw [← he, hupper e (by simp)] at hnot
        cases hnot
  · rintro ⟨tail, htail⟩
    rw [hsplit, ← htail]
    exact ⟨tail ++ d :: (more ++ letters.upperCase rest), by simp⟩

lemma isKeyword_or : IsKeyword "OR".toList := ⟨by simp, by simp [Char.isUpper]⟩

lemma isKeyword_into : IsKeyword "INTO".toList := ⟨by simp, by simp [Char.isUpper]⟩

lemma isKeyword_insert : IsKeyword "INSERT".toList := ⟨by simp, by simp [Char.isUpper]⟩

lemma isKeyword_update : IsKeyword "UPDATE".toList := ⟨by simp, by simp [Char.isUpper]⟩

lemma isKeyword_replace : IsKeyword "REPLACE".toList := ⟨by simp, by simp [Char.isUpper]⟩

lemma matchLetters_some {keyword word : List Char}
    (h : matchLetters letters.toCharacters keyword text = some (word, rest)) :
    text = word ++ rest ∧ Spells letters keyword word := by
  induction keyword generalizing text word with
  | nil =>
    cases h
    exact ⟨rfl, .nil⟩
  | cons letter keyword ih =>
    cases text with
    | nil => cases h
    | cons c text =>
      rw [matchLetters] at h
      split at h
      · next hmatch =>
        obtain ⟨found, hfound, hpair⟩ := Option.map_eq_some_iff.mp h
        cases hpair
        obtain ⟨rfl, hspells⟩ := ih hfound
        exact ⟨rfl, .cons hmatch hspells⟩
      · cases h

lemma matchSpaces_some {spaces : List Char} (h : matchSpaces text = some (spaces, rest)) :
    text = spaces ++ rest ∧ spaces ≠ [] ∧ ∀ c ∈ spaces, isPythonSpace c = true := by
  rw [matchSpaces] at h
  split at h
  · cases h
  · next hne =>
    cases h
    exact ⟨List.takeWhile_append_dropWhile.symm, hne, fun c hc => List.mem_takeWhile_imp hc⟩

lemma orPattern_some {verb : String} {algorithms : List String} {found : Found}
    (h : orPattern letters.toCharacters verb algorithms text = some found) :
    ∃ algorithm ∈ algorithms, ∃ spaces tail,
      text = found.group1 ++ (spaces ++ tail) ++ found.after ∧
        Spells letters verb.toList found.group1 ∧ spaces ≠ [] ∧
        (∀ c ∈ spaces, isPythonSpace c = true) ∧
        (IsKeyword algorithm.toList → Clause letters ["OR".toList, algorithm.toList] tail) := by
  simp only [orPattern, Option.bind_eq_bind, Option.bind_eq_some_iff] at h
  obtain ⟨⟨group1, text₁⟩, hverb, ⟨first, text₂⟩, hfirst, ⟨word, text₃⟩, hor, ⟨second, text₄⟩,
    hsecond, h⟩ := h
  obtain ⟨algorithm, halgorithm, h⟩ := List.exists_of_findSome?_eq_some h
  simp only [Option.bind_eq_some_iff] at h
  obtain ⟨⟨group2, text₅⟩, hletters, ⟨third, text₆⟩, hthird, h⟩ := h
  cases h
  obtain ⟨rfl, hspells⟩ := matchLetters_some hverb
  obtain ⟨rfl, hspaces⟩ := matchSpaces_some hfirst
  obtain ⟨rfl, hspellsOr⟩ := matchLetters_some hor
  obtain ⟨rfl, hspacesOr⟩ := matchSpaces_some hsecond
  obtain ⟨rfl, hspellsLast⟩ := matchLetters_some hletters
  obtain ⟨rfl, hspacesLast⟩ := matchSpaces_some hthird
  refine ⟨algorithm, halgorithm, first, word ++ (second ++ (group2 ++ (third ++ []))), by simp,
    hspells, hspaces.1, hspaces.2, fun hkeyword => ?_⟩
  exact .cons isKeyword_or hspellsOr hspacesOr.1 hspacesOr.2
    (.cons hkeyword hspellsLast hspacesLast.1 hspacesLast.2 .nil)

lemma replaceIntoPattern_some {found : Found}
    (h : replaceIntoPattern letters.toCharacters text = some found) :
    ∃ spaces tail, text = found.group1 ++ found.group2 ++ found.after ∧
      found.group2 = spaces ++ tail ∧ Spells letters "REPLACE".toList found.group1 ∧
      spaces ≠ [] ∧ (∀ c ∈ spaces, isPythonSpace c = true) ∧
      Clause letters ["INTO".toList] tail := by
  simp only [replaceIntoPattern, Option.bind_eq_bind, Option.bind_eq_some_iff] at h
  obtain ⟨⟨group1, text₁⟩, hreplace, ⟨first, text₂⟩, hfirst, ⟨word, text₃⟩, hinto,
    ⟨second, text₄⟩, hsecond, h⟩ := h
  cases h
  obtain ⟨rfl, hspells⟩ := matchLetters_some hreplace
  obtain ⟨rfl, hspaces⟩ := matchSpaces_some hfirst
  obtain ⟨rfl, hspellsInto⟩ := matchLetters_some hinto
  obtain ⟨rfl, hspacesInto⟩ := matchSpaces_some hsecond
  refine ⟨first, word ++ (second ++ []), by simp, by simp, hspells, hspaces.1, hspaces.2, ?_⟩
  exact .cons isKeyword_into hspellsInto hspacesInto.1 hspacesInto.2 .nil

/-- A text that starts where words and white space end. -/
def Stops (letters : Letters) (text : List Char) : Prop :=
  ∃ c rest, text = c :: rest ∧ Breaks letters.toCharacters c

/-- What is read of a text does not depend on what follows where words and white space end. -/
def Local {α : Type} (letters : Letters) (read : List Char → Option (α × List Char)) : Prop :=
  ∀ text, ∃ result : Option (α × List Char), ∀ after, Stops letters after →
    read (text ++ after) = result.map fun found => (found.1, found.2 ++ after)

lemma local_matchLetters {keyword : List Char} (hupper : ∀ c ∈ keyword, c.isUpper = true) :
    Local letters (matchLetters letters.toCharacters keyword) := by
  induction keyword with
  | nil => exact fun text => ⟨some ([], text), fun _ _ => rfl⟩
  | cons letter keyword ih =>
    intro text
    cases text with
    | nil =>
      refine ⟨none, ?_⟩
      rintro after ⟨c, rest, rfl, hbreaks⟩
      have hmatch : letters.ignoreCase letter c ≠ true := by
        intro hmatch
        have hword := letters.isWordChar_of_ignoreCase letter c (hupper letter (by simp)) hmatch
        rw [hbreaks.1] at hword
        cases hword
      simp [matchLetters, hmatch]
    | cons c text =>
      obtain ⟨result, hresult⟩ := ih (fun c hc => hupper c (by simp [hc])) text
      by_cases hmatch : letters.ignoreCase letter c = true
      · refine ⟨result.map fun found => (c :: found.1, found.2), fun after hafter => ?_⟩
        rw [List.cons_append, matchLetters, if_pos hmatch, hresult after hafter, Option.map_map,
          Option.map_map]
        rfl
      · refine ⟨none, fun after _ => ?_⟩
        rw [List.cons_append, matchLetters, if_neg hmatch]
        rfl

lemma takeWhile_stops {p : Char → Bool} {c : Char} (hc : p c = false) (text rest : List Char) :
    (text ++ c :: rest).takeWhile p = text.takeWhile p ∧
      (text ++ c :: rest).dropWhile p = text.dropWhile p ++ c :: rest := by
  induction text with
  | nil => simp [hc]
  | cons d text ih =>
    by_cases hd : p d = true
    · simp [hd, ih]
    · simp [hd]

lemma local_matchSpaces : Local letters matchSpaces := by
  intro text
  refine ⟨matchSpaces text, ?_⟩
  rintro after ⟨c, rest, rfl, -, hspace⟩
  obtain ⟨htake, hdrop⟩ := takeWhile_stops hspace text rest
  rw [matchSpaces, matchSpaces, htake, hdrop]
  split <;> rfl

/-- A pattern whose match never reaches into what follows where words and white space end. -/
def LocalPattern (letters : Letters) (pattern : Pattern) : Prop :=
  ∀ text, ∃ result : Option Found, ∀ after, Stops letters after →
    pattern (text ++ after) = result.map fun found => { found with after := found.after ++ after }

lemma Local.bind {α : Type} {read : List Char → Option (α × List Char)}
    {next : α × List Char → Option Found} (h : Local letters read)
    (hnext : ∀ a, LocalPattern letters fun text => next (a, text)) :
    LocalPattern letters fun text => read text >>= next := by
  intro text
  obtain ⟨result, hresult⟩ := h text
  cases result with
  | none => exact ⟨none, fun after hafter => by simp [hresult after hafter]⟩
  | some found =>
    obtain ⟨later, hlater⟩ := hnext found.1 found.2
    exact ⟨later, fun after hafter => by simp [hresult after hafter, hlater after hafter]⟩

lemma localPattern_return (group1 group2 : List Char) :
    LocalPattern letters fun text => some ⟨group1, group2, text⟩ :=
  fun text => ⟨some ⟨group1, group2, text⟩, fun _ _ => rfl⟩

lemma localPattern_findSome? {patterns : List String} {pattern : String → Pattern}
    (h : ∀ algorithm ∈ patterns, LocalPattern letters (pattern algorithm)) :
    LocalPattern letters fun text => patterns.findSome? fun algorithm => pattern algorithm text := by
  induction patterns with
  | nil => exact fun text => ⟨none, fun _ _ => rfl⟩
  | cons algorithm patterns ih =>
    intro text
    obtain ⟨result, hresult⟩ := h algorithm (by simp) text
    obtain ⟨later, hlater⟩ := ih (fun algorithm hmem => h algorithm (by simp [hmem])) text
    cases result with
    | none =>
      refine ⟨later, fun after hafter => ?_⟩
      show (algorithm :: patterns).findSome? _ = _
      rw [List.findSome?_cons, hresult after hafter]
      exact hlater after hafter
    | some found =>
      refine ⟨some found, fun after hafter => ?_⟩
      show (algorithm :: patterns).findSome? _ = _
      rw [List.findSome?_cons, hresult after hafter]
      rfl

lemma local_orPattern {verb : String} {algorithms : List String} (hverb : IsKeyword verb.toList)
    (halgorithms : ∀ algorithm ∈ algorithms, IsKeyword algorithm.toList) :
    LocalPattern letters (orPattern letters.toCharacters verb algorithms) := by
  refine (local_matchLetters hverb.upper).bind fun group1 => ?_
  refine local_matchSpaces.bind fun _ => (local_matchLetters isKeyword_or.upper).bind fun _ => ?_
  refine local_matchSpaces.bind fun _ => localPattern_findSome? fun algorithm halgorithm => ?_
  refine (local_matchLetters (halgorithms algorithm halgorithm).upper).bind fun group2 => ?_
  exact local_matchSpaces.bind fun _ => localPattern_return group1 group2

lemma local_replaceIntoPattern :
    LocalPattern letters (replaceIntoPattern letters.toCharacters) := by
  refine (local_matchLetters isKeyword_replace.upper).bind fun group1 => ?_
  refine local_matchSpaces.bind fun first => ?_
  refine (local_matchLetters isKeyword_into.upper).bind fun into => local_matchSpaces.bind fun second => ?_
  exact localPattern_return group1 (first ++ into ++ second)

lemma local_updateKeywordPattern :
    LocalPattern letters (updateKeywordPattern letters.toCharacters) := by
  refine (local_matchLetters isKeyword_update.upper).bind fun group1 => ?_
  refine local_matchSpaces.bind fun _ => ?_
  exact localPattern_return group1 []

section

variable {s : Scan}

variable (letters) in
/-- Words and white space are plain characters for the scanner. -/
lemma step_inner {c : Char} (h : s.Between)
    (hc : letters.isWordChar c = true ∨ isPythonSpace c = true) (next : Option Char) :
    s.step c next = ⟨s.index + 1, some c, s.depth, .code, false⟩ := by
  have hno : ∀ d, Breaks letters.toCharacters d → c ≠ d := by
    rintro d ⟨hword, hspace⟩ rfl
    rcases hc with hc | hc
    · rw [hword] at hc
      cases hc
    · rw [hspace] at hc
      cases hc
  have hclose : Breaks letters.toCharacters ')' :=
    ⟨not_word_of_ascii (by decide) (by decide) (by decide), by decide⟩
  have hplain : (Token.plain c).WellFormed next := by
    refine ⟨fun hquote => ?_, hno '[' (breaks_of_ascii (by decide)), fun hdash => ?_,
      fun hslash => ?_⟩
    · exact hno c (breaks_of_ascii (List.mem_append_left _ hquote)) rfl
    · exact hno '-' (breaks_of_ascii (by decide)) hdash.1
    · exact hno '/' (breaks_of_ascii (by decide)) hslash.1
  rw [step_plain h hplain, plainDepth, if_neg (hno '(' (breaks_of_ascii (by decide))),
    if_neg (hno ')' hclose)]

lemma skips_word {word : List Char} (h : s.Between)
    (hprevious : s.previous.all (!letters.isWordChar ·) = false)
    (hword : ∀ c ∈ word, letters.isWordChar c = true) :
    s.Skips letters.toCharacters after word := by
  induction word generalizing s with
  | nil => exact .nil h
  | cons c word ih =>
    have hc := hword c (by simp)
    have hstep := step_inner letters h (.inl hc) (word ++ after).head?
    refine .cons (by simp [Scan.atKeyword, hprevious]) (by rw [hstep]) ?_
    rw [hstep]
    exact ih ⟨rfl, rfl⟩ (by simp [hc]) fun c hc => hword c (by simp [hc])

variable (letters) in
lemma not_word_of_space {c : Char} (h : isPythonSpace c = true) : letters.isWordChar c = false :=
  letters.isWordChar_space c h

lemma skips_spaces {spaces : List Char} (h : s.Between)
    (hspaces : ∀ c ∈ spaces, isPythonSpace c = true) :
    s.Skips letters.toCharacters after spaces := by
  induction spaces generalizing s with
  | nil => exact .nil h
  | cons c spaces ih =>
    have hc := hspaces c (by simp)
    have hstep := step_inner letters h (.inr hc) (spaces ++ after).head?
    have hquiet : s.atKeyword letters.toCharacters c = false := by
      have halpha : letters.isAlpha c = false := by
        by_contra halpha
        have hword := letters.isWordChar_of_isAlpha c (by simpa using halpha)
        rw [not_word_of_space letters hc] at hword
        cases hword
      have hunderscore : c ≠ '_' := by
        rintro rfl
        revert hc
        decide
      simp [Scan.atKeyword, halpha, hunderscore]
    refine .cons hquiet (by rw [hstep]) ?_
    rw [hstep]
    exact ih ⟨rfl, rfl⟩ fun c hc => hspaces c (by simp [hc])

lemma silent_word {α : Type} {found : List Char → Option α} {keyword word : List Char}
    (h : s.Between) (hkeyword : IsKeyword keyword) (hword : Spells letters keyword word)
    (hfound : ∀ rest, found (word ++ rest) = none) :
    firstWithin letters.toCharacters found s after word = none ∧
      (after ≠ [] → (s.over after word).Between ∧ (s.over after word).depth = s.depth) := by
  have hwords := hword.wordChar hkeyword.upper
  obtain ⟨-, -, c, word', -, rfl, -, -⟩ := hword.head hkeyword
  have hc := hwords c (by simp)
  have hstep := step_inner letters h (.inl hc) (word' ++ after).head?
  have htail : Scan.Skips letters.toCharacters ⟨s.index + 1, some c, s.depth, .code, false⟩
      after word' :=
    skips_word ⟨rfl, rfl⟩ (by simp [hc]) fun c hc => hwords c (by simp [hc])
  rw [firstWithin, Scan.over, hstep, htail.silent, hfound after]
  exact ⟨by simp, fun hafter => ⟨htail.between hafter, htail.depth hafter⟩⟩

lemma between_word {keyword word : List Char} (h : s.Between) (hkeyword : IsKeyword keyword)
    (hword : Spells letters keyword word) (hafter : after ≠ []) :
    (s.over after word).Between ∧ (s.over after word).depth = s.depth := by
  let nothing : List Char → Option Unit := fun _ => none
  have hnone : ∀ rest, nothing (word ++ rest) = none := fun _ => rfl
  exact (silent_word h hkeyword hword hnone).2 hafter

/-- What the scanner does over a clause: it finds nothing where no keyword of the clause is
looked for, and stands between two tokens after it. -/
structure Scan.PassesClause (letters : Letters) (s : Scan) (after : List Char)
    (keywords : List (List Char)) (text : List Char) : Prop where
  silent : ∀ (α : Type) (found : List Char → Option α),
    (∀ keyword ∈ keywords, ∀ word, Spells letters keyword word →
      ∀ rest, found (word ++ rest) = none) →
      firstWithin letters.toCharacters found s after text = none
  between : after ≠ [] → (s.over after text).Between
  depth : after ≠ [] → (s.over after text).depth = s.depth
  afterWord : keywords ≠ [] → (s.over after text).AfterWord letters.toCharacters

lemma passesClause {keywords : List (List Char)} (hclause : Clause letters keywords text)
    (h : s.Between) : s.PassesClause letters after keywords text := by
  induction hclause generalizing s with
  | nil => exact ⟨fun _ _ _ => rfl, fun _ => h, fun _ => rfl, fun hne => absurd rfl hne⟩
  | @cons keyword keywords word spaces text hkeyword hword hne hspaces htext ih =>
    have hafter : spaces ++ text ++ after ≠ [] := by simp [hne]
    obtain ⟨hbetween, hdepth⟩ := between_word h hkeyword hword hafter
    have hspace : (s.over (spaces ++ text ++ after) word).Skips letters.toCharacters
        (text ++ after) spaces := skips_spaces hbetween hspaces
    have hover : s.over after (word ++ (spaces ++ text)) =
        ((s.over (spaces ++ text ++ after) word).over (text ++ after) spaces).over after text := by
      rw [Scan.over_append, Scan.over_append]
    constructor
    · intro α found hfound
      rw [firstWithin_append, firstWithin_append, hspace.silent,
        (silent_word h hkeyword hword (hfound keyword (by simp) word hword)).1]
      by_cases hrest : text ++ after = []
      · obtain ⟨rfl, rfl⟩ := List.append_eq_nil_iff.mp hrest
        rfl
      · rw [(ih (hspace.between hrest)).silent α found fun keyword hmem =>
          hfound keyword (by simp [hmem])]
        rfl
    · intro hne
      rw [hover]
      exact (ih (hspace.between (by simp [hne]))).between hne
    · intro hne
      have hrest : text ++ after ≠ [] := by simp [hne]
      rw [hover, (ih (hspace.between hrest)).depth hne, hspace.depth hrest, hdepth]
    · intro _
      rw [hover]
      cases htext with
      | nil =>
        obtain ⟨space, hspaces', hlast⟩ : ∃ space, isPythonSpace space = true ∧
            spaces.getLast? = some space :=
          ⟨spaces.getLast hne, hspaces _ (List.getLast_mem hne), List.getLast?_eq_some_getLast hne⟩
        rw [Scan.over, Scan.AfterWord, Scan.previous_over hne, hlast]
        simp [not_word_of_space letters hspaces']
      | @cons keyword' keywords' word' spaces' text' hkeyword' hword' hne' hspaces' htext' =>
        have hrest : word' ++ (spaces' ++ text') ++ after ≠ [] := by simp [hne']
        exact (ih (hspace.between hrest)).afterWord (by simp)

end

lemma eq_of_ascii {keyword word : List Char}
    (h : List.Forall₂ (fun letter d : Char => d.val < 128 → d = letter) keyword word)
    (hascii : ∀ d ∈ word, d.val < 128) : word = keyword := by
  induction h with
  | nil => rfl
  | @cons letter d keyword word hd hrest ih =>
    rw [hd (hascii d (by simp)), ih fun d hd => hascii d (by simp [hd])]

lemma onConflict_spells {keyword word : List Char} (hkeyword : IsKeyword keyword)
    (hlength : 2 ≤ keyword.length) (hon : keyword.take 2 ≠ "ON".toList)
    (hword : Spells letters keyword word) (rest : List Char) :
    onConflict letters.toCharacters (word ++ rest) = none := by
  have hlength' : 2 ≤ word.length := by
    have hsame : keyword.length = word.length := hword.length_eq
    omega
  have hspells : Spells letters (keyword.take 2) (word.take 2) := List.forall₂_take 2 hword
  have hupper := hspells.upperCase fun c hc => hkeyword.upper c (List.mem_of_mem_take hc)
  refine if_neg ?_
  rintro ⟨hread, -⟩
  rw [List.take_append_of_le_length hlength'] at hread
  rw [hread] at hupper
  exact hon (eq_of_ascii hupper (by simp)).symm

/-- The word of a text, after its white space. -/
def nextWord (letters : Letters) (text : List Char) : List Char :=
  (text.dropWhile isPythonSpace).takeWhile letters.isWordChar

lemma dropWhile_append_nil {p : Char → Bool} {c : Char} (h : text.dropWhile p = [])
    (hc : p c = false) : (text ++ c :: rest).dropWhile p = c :: rest := by
  rw [(takeWhile_stops hc text rest).2, h, List.nil_append]

lemma nextWord_append {c : Char} (hspace : isPythonSpace c = false)
    (hword : letters.isWordChar c = false ∨
      text.getLast?.all (!letters.isWordChar ·) = true) :
    nextWord letters (text ++ c :: rest) =
      if text.dropWhile isPythonSpace = [] then (c :: rest).takeWhile letters.isWordChar
      else nextWord letters text := by
  rw [nextWord, nextWord, (takeWhile_stops hspace text rest).2]
  split
  · next hempty => rw [hempty, List.nil_append]
  · next hne =>
    rcases hword with hword | hlast
    · exact (takeWhile_stops hword _ rest).1
    · -- the last character of the text ends its word
      obtain ⟨d, hd⟩ : ∃ d, (text.dropWhile isPythonSpace).getLast? = some d :=
        ⟨_, List.getLast?_eq_some_getLast hne⟩
      obtain ⟨before, hbefore⟩ := List.getLast?_eq_some_iff.mp hd
      have hsame : text.getLast? = some d := by
        obtain ⟨first, hfirst⟩ := List.dropWhile_suffix (l := text) isPythonSpace
        rw [← hfirst, List.getLast?_append, hd]
        rfl
      have hnot : letters.isWordChar d = false := by
        rw [hsame] at hlast
        simpa using hlast
      rw [hbefore, List.append_assoc, List.singleton_append,
        (takeWhile_stops hnot before (c :: rest)).1, (takeWhile_stops hnot before []).1]

lemma nextKeywordAfter_eq (index : ℕ) :
    nextKeywordAfter letters.toCharacters text index = some rest ↔
      nextWord letters (text.drop index) ≠ [] ∧
        letters.upperCase (nextWord letters (text.drop index)) = rest := by
  have hread : nextKeywordAfter letters.toCharacters text index =
      if nextWord letters (text.drop index) = [] then none
      else some (letters.upperCase (nextWord letters (text.drop index))) := rfl
  rw [hread]
  split
  · next hempty => simp [hempty]
  · next hne => simp [hne]

/-- What ends a text before a clause or a place: no word goes on there, and CONFLICT is not what
comes next. -/
structure Ends (letters : Letters) (text : List Char) (c : Char) (rest : List Char) : Prop where
  space : isPythonSpace c = false
  word : letters.isWordChar c = false ∨ text.getLast?.all (!letters.isWordChar ·) = true
  conflict : letters.upperCase ((c :: rest).takeWhile letters.isWordChar) ≠ "CONFLICT".toList

/-- Whether ON CONFLICT is read in a text depends on the text alone. -/
lemma onConflict_ends {c : Char} (htext : text ≠ []) (h : Ends letters text c rest) :
    onConflict letters.toCharacters (text ++ c :: rest) =
      if 2 ≤ text.length then onConflict letters.toCharacters text else none := by
  have hnotOn : ∀ (before : List Char) {d : Char}, letters.isWordChar d = false →
      letters.upperCase (before ++ [d]) ≠ "ON".toList := by
    intro before d hd hread
    obtain ⟨e, more, he, hnot⟩ := letters.upper_of_not_word d hd
    have hmem : e ∈ "ON".toList := by
      rw [← hread, upperCase_append, Unicode.upperCase, Unicode.upperCase, List.flatMap_singleton,
        he]
      simp
    have hcases : e = 'O' ∨ e = 'N' := by simpa using hmem
    rcases hcases with rfl | rfl
    · exact absurd hnot (by decide)
    · exact absurd hnot (by decide)
  match text, htext with
  | [d], _ =>
    rw [if_neg (by simp)]
    refine if_neg ?_
    rintro ⟨hread, -⟩
    rcases h.word with hword | hlast
    · exact hnotOn [d] hword hread
    · have hd : letters.isWordChar d = false := by simpa using hlast
      obtain ⟨e, more, he, hnot⟩ := letters.upper_of_not_word d hd
      have hfirst : e = 'O' := by
        have hcons : letters.upper d ++ letters.upper c = ['O', 'N'] := by
          simpa [Unicode.upperCase] using hread
        rw [he] at hcons
        exact (List.cons.inj hcons).1
      rw [hfirst] at hnot
      exact absurd hnot (by decide)
  | d :: d' :: text, _ =>
    rw [if_pos (by simp)]
    have hlast : letters.isWordChar c = false ∨
        text.getLast?.all (!letters.isWordChar ·) = true := by
      refine h.word.imp_right fun hlast => ?_
      cases text with
      | nil => rfl
      | cons e text => simpa using hlast
    have hnext : nextKeywordAfter letters.toCharacters (d :: d' :: text ++ c :: rest) 2 =
        some "CONFLICT".toList ↔
        nextKeywordAfter letters.toCharacters (d :: d' :: text) 2 = some "CONFLICT".toList := by
      rw [nextKeywordAfter_eq, nextKeywordAfter_eq]
      show nextWord letters (text ++ c :: rest) ≠ [] ∧ _ = _ ↔
        nextWord letters text ≠ [] ∧ letters.upperCase (nextWord letters text) = _
      have happend := @nextWord_append letters text rest c h.space hlast
      by_cases hempty : text.dropWhile isPythonSpace = []
      · rw [if_pos hempty] at happend
        have hnil : nextWord letters text = [] := by rw [nextWord, hempty]; rfl
        have hread : nextWord letters ((d :: d' :: text ++ c :: rest).drop 2) =
            (c :: rest).takeWhile letters.isWordChar := happend
        rw [hread, hnil]
        exact ⟨fun hboth => absurd hboth.2 h.conflict, fun hboth => absurd rfl hboth.1⟩
      · rw [if_neg hempty] at happend
        have hread : nextWord letters ((d :: d' :: text ++ c :: rest).drop 2) =
            nextWord letters text := happend
        rw [hread, happend]
    have hthird : letters.upperCase [d, d'] = "ON".toList →
        ((d :: d' :: text ++ c :: rest)[2]?.all (!letters.isWordChar ·) = true ↔
          (d :: d' :: text)[2]?.all (!letters.isWordChar ·) = true) := by
      intro hread
      cases text with
      | cons e text => rfl
      | nil =>
        have hc : letters.isWordChar c = false := by
          rcases h.word with hword | hlast
          · exact hword
          · have hd' : letters.isWordChar d' = false := by simpa using hlast
            exact absurd hread (hnotOn [d] hd')
        simp [hc]
    have htake : (d :: d' :: text ++ c :: rest).take 2 = [d, d'] := rfl
    have htake' : (d :: d' :: text).take 2 = [d, d'] := rfl
    simp only [onConflict, htake, htake', hnext]
    by_cases hread : letters.upperCase [d, d'] = "ON".toList
    · simp only [hread, true_and, hthird hread]
    · simp only [hread, false_and, if_false]

/-- INSERT or WITH in front of a text in upper case. -/
def InsertLike (upper : List Char) : Prop := "INSERT".toList <+: upper ∨ "WITH".toList <+: upper

lemma startsWithInsertLike_iff : startsWithInsertLikeStatement letters.toCharacters text = true ↔
    InsertLike (letters.upperCase (text.dropWhile isPythonSpace)) := by
  simp [startsWithInsertLikeStatement, InsertLike]

lemma insertLike_upperCase {before : List Char} {c : Char} (hc : letters.isWordChar c = false) :
    InsertLike (letters.upperCase (before ++ c :: rest)) ↔
      InsertLike (letters.upperCase before) := by
  have hwith : ∀ c ∈ "WITH".toList, c.isUpper = true := by simp [Char.isUpper]
  rw [InsertLike, InsertLike, prefix_upperCase isKeyword_insert.upper hc,
    prefix_upperCase hwith hc]

lemma startsWithInsertLike_stops {c : Char} (hc : Breaks letters.toCharacters c) :
    startsWithInsertLikeStatement letters.toCharacters (text ++ c :: rest) = true ↔
      startsWithInsertLikeStatement letters.toCharacters text = true := by
  rw [startsWithInsertLike_iff, startsWithInsertLike_iff, (takeWhile_stops hc.2 text rest).2,
    insertLike_upperCase hc.1]

/-- What stands before a keyword: white space only, or a text that its last character keeps apart
from the keyword. -/
lemma before_keyword {before : List Char} (h : before.getLast?.all (!letters.isWordChar ·) = true) :
    before.dropWhile isPythonSpace = [] ∨ ∃ first c, letters.isWordChar c = false ∧
      before.dropWhile isPythonSpace = first ++ [c] := by
  by_cases hempty : before.dropWhile isPythonSpace = []
  · exact .inl hempty
  · right
    obtain ⟨c, hc⟩ : ∃ c, (before.dropWhile isPythonSpace).getLast? = some c :=
      ⟨_, List.getLast?_eq_some_getLast hempty⟩
    obtain ⟨first, hfirst⟩ := List.getLast?_eq_some_iff.mp hc
    have hsame : before.getLast? = some c := by
      obtain ⟨spaces, hspaces⟩ := List.dropWhile_suffix (l := before) isPythonSpace
      rw [← hspaces, List.getLast?_append, hc]
      rfl
    rw [hsame] at h
    exact ⟨first, c, by simpa using h, hfirst⟩

lemma dropWhile_append_ne {p : Char → Bool} (h : text.dropWhile p ≠ []) (rest : List Char) :
    (text ++ rest).dropWhile p = text.dropWhile p ++ rest := by
  rw [List.dropWhile_append]
  simp [h]

lemma startsWithInsertLike_word {before word spaces keyword : List Char}
    (h : before.dropWhile isPythonSpace = []) (hkeyword : IsKeyword keyword)
    (hword : Spells letters keyword word) (hne : spaces ≠ [])
    (hspaces : ∀ c ∈ spaces, isPythonSpace c = true) :
    startsWithInsertLikeStatement letters.toCharacters (before ++ (word ++ (spaces ++ rest))) =
      true ↔ InsertLike (letters.upperCase word) := by
  have hwords := hword.wordChar hkeyword.upper
  obtain ⟨-, -, c, word', -, rfl, -, -⟩ := hword.head hkeyword
  obtain ⟨space, spaces', rfl⟩ := List.exists_cons_of_ne_nil hne
  have hc : isPythonSpace c = false := by
    by_contra hspace
    have hnot := not_word_of_space letters (by simpa using hspace)
    rw [hwords c (by simp)] at hnot
    cases hnot
  rw [startsWithInsertLike_iff, List.cons_append, dropWhile_append_nil h hc, List.cons_append,
    ← List.cons_append, insertLike_upperCase (not_word_of_space letters (hspaces space (by simp)))]

lemma startsWithInsertLike_before {before first : List Char} {c : Char}
    (hc : letters.isWordChar c = false) (h : before.dropWhile isPythonSpace = first ++ [c]) :
    startsWithInsertLikeStatement letters.toCharacters (before ++ rest) = true ↔
      InsertLike (letters.upperCase first) := by
  rw [startsWithInsertLike_iff, dropWhile_append_ne (by simp [h]), h, List.append_assoc,
    List.singleton_append, insertLike_upperCase hc]

lemma toUpper_of_isUpper {c : Char} (h : c.isUpper = true) : c.val < 128 ∧ c.toUpper = c := by
  have hbounds : 65 ≤ c.val.toNat ∧ c.val.toNat ≤ 90 := by
    simpa [Char.isUpper, UInt32.le_iff_toNat_le] using h
  constructor
  · have hlt : c.val.toNat < 128 := by omega
    exact UInt32.lt_iff_toNat_lt.mpr hlt
  · refine dif_neg ?_
    rintro ⟨hlow, -⟩
    have hlow' : 97 ≤ c.val.toNat := UInt32.le_iff_toNat_le.mp hlow
    omega

lemma spells_self {keyword : List Char} (h : IsKeyword keyword) : Spells letters keyword keyword := by
  refine List.forall₂_same.mpr fun c hc => ?_
  obtain ⟨hascii, hsame⟩ := toUpper_of_isUpper (h.upper c hc)
  rw [letters.ignoreCase_ascii c c hascii]
  simp [hsame]

lemma upperCase_keyword {keyword : List Char} (h : ∀ c ∈ keyword, c.isUpper = true) :
    letters.upperCase keyword = keyword := by
  induction keyword with
  | nil => rfl
  | cons c keyword ih =>
    obtain ⟨hascii, hsame⟩ := toUpper_of_isUpper (h c (by simp))
    have htail := ih fun c hc => h c (by simp [hc])
    rw [Unicode.upperCase] at htail
    rw [Unicode.upperCase, List.flatMap_cons, letters.upper_ascii c hascii, hsame, htail]
    rfl

lemma matchLetters_inside {keyword : List Char} (hupper : ∀ c ∈ keyword, c.isUpper = true)
    (htext : text ≠ []) (hlast : text.getLast?.all (!letters.isWordChar ·) = true) :
    (∀ after, matchLetters letters.toCharacters keyword (text ++ after) = none) ∨
      ∃ word rest, rest ≠ [] ∧ rest.getLast?.all (!letters.isWordChar ·) = true ∧
        ∀ after, matchLetters letters.toCharacters keyword (text ++ after) =
          some (word, rest ++ after) := by
  induction keyword generalizing text with
  | nil => exact .inr ⟨[], text, htext, hlast, fun _ => rfl⟩
  | cons letter keyword ih =>
    obtain ⟨c, text, rfl⟩ := List.exists_cons_of_ne_nil htext
    by_cases hmatch : letters.ignoreCase letter c = true
    · have hword := letters.isWordChar_of_ignoreCase letter c (hupper letter (by simp)) hmatch
      have hne : text ≠ [] := by
        rintro rfl
        simp [hword] at hlast
      have hlast' : text.getLast?.all (!letters.isWordChar ·) = true := by
        obtain ⟨d, text, rfl⟩ := List.exists_cons_of_ne_nil hne
        simpa using hlast
      rcases ih (fun c hc => hupper c (by simp [hc])) hne hlast' with hnone | ⟨word, rest, hrest,
        hlast'', hsome⟩
      · left
        intro after
        rw [List.cons_append, matchLetters, if_pos hmatch, hnone after]
        rfl
      · right
        refine ⟨c :: word, rest, hrest, hlast'', fun after => ?_⟩
        rw [List.cons_append, matchLetters, if_pos hmatch, hsome after]
        rfl
    · left
      intro after
      rw [List.cons_append, matchLetters, if_neg hmatch]

/-- What follows a text where INTO is not read. -/
structure NoInto (letters : Letters) (after : List Char) : Prop where
  space : ∀ c, after.head? = some c → isPythonSpace c = false
  into : matchLetters letters.toCharacters "INTO".toList after = none

lemma matchSpaces_append (h : ∀ c, after.head? = some c → isPythonSpace c = false) :
    matchSpaces (text ++ after) = (matchSpaces text).map fun found => (found.1, found.2 ++ after) := by
  cases after with
  | nil =>
    rw [List.append_nil]
    cases matchSpaces text with
    | none => rfl
    | some found => simp
  | cons c rest =>
    obtain ⟨htake, hdrop⟩ := takeWhile_stops (h c rfl) text rest
    rw [matchSpaces, matchSpaces, htake, hdrop]
    split <;> rfl

lemma replaceIntoPattern_eq (text : List Char) :
    replaceIntoPattern letters.toCharacters text =
      (matchLetters letters.toCharacters "REPLACE".toList text).bind fun replace =>
        (matchSpaces replace.2).bind fun first =>
          (matchLetters letters.toCharacters "INTO".toList first.2).bind fun into =>
            (matchSpaces into.2).bind fun second =>
              some ⟨replace.1, first.1 ++ into.1 ++ second.1, second.2⟩ := rfl

/-- Whether REPLACE INTO is read in a text that no word ends depends on the text alone. -/
lemma replaceInto_inside (htext : text ≠ [])
    (hlast : text.getLast?.all (!letters.isWordChar ·) = true) :
    ∃ read : Bool, ∀ after, NoInto letters after →
      (replaceIntoPattern letters.toCharacters (text ++ after)).isSome = read := by
  rcases matchLetters_inside isKeyword_replace.upper htext hlast with hnone | ⟨word, rest, hrest,
    hlast', hsome⟩
  · refine ⟨false, fun after _ => ?_⟩
    rw [replaceIntoPattern_eq, hnone after]
    rfl
  cases hspaces : matchSpaces rest with
  | none =>
    refine ⟨false, fun after hafter => ?_⟩
    rw [replaceIntoPattern_eq, hsome after, Option.bind_some, matchSpaces_append hafter.space,
      hspaces]
    rfl
  | some found =>
    obtain ⟨first, rest'⟩ := found
    have hread : ∀ after, NoInto letters after →
        replaceIntoPattern letters.toCharacters (text ++ after) =
          (matchLetters letters.toCharacters "INTO".toList (rest' ++ after)).bind fun into =>
            (matchSpaces into.2).bind fun second =>
              some ⟨word, first ++ into.1 ++ second.1, second.2⟩ := by
      intro after hafter
      rw [replaceIntoPattern_eq, hsome after, Option.bind_some, matchSpaces_append hafter.space,
        hspaces]
      rfl
    obtain ⟨hsplit, -, -⟩ := matchSpaces_some hspaces
    by_cases hempty : rest' = []
    · refine ⟨false, fun after hafter => ?_⟩
      rw [hread after hafter, hempty, List.nil_append, hafter.into]
      rfl
    · have hlast'' : rest'.getLast?.all (!letters.isWordChar ·) = true := by
        rw [hsplit, List.getLast?_append] at hlast'
        obtain ⟨c, hc⟩ : ∃ c, rest'.getLast? = some c := ⟨_, List.getLast?_eq_some_getLast hempty⟩
        rw [hc] at hlast' ⊢
        exact hlast'
      rcases matchLetters_inside isKeyword_into.upper hempty hlast'' with hnone | ⟨into, last, -,
        -, hinto⟩
      · refine ⟨false, fun after hafter => ?_⟩
        rw [hread after hafter, hnone after]
        rfl
      · refine ⟨(matchSpaces last).isSome, fun after hafter => ?_⟩
        rw [hread after hafter, hinto after, Option.bind_some, matchSpaces_append hafter.space]
        cases matchSpaces last <;> rfl

lemma matchLetters_spells {keyword other word : List Char} (hkeyword : ∀ c ∈ keyword, c.isUpper = true)
    (hother : ∀ c ∈ other, c.isUpper = true) (hword : Spells letters keyword word)
    (hneither : ¬ other <+: keyword ∧ ¬ keyword <+: other) :
    matchLetters letters.toCharacters other (word ++ rest) = none := by
  induction hword generalizing other with
  | nil => exact absurd (List.nil_prefix) hneither.2
  | @cons letter c keyword word hmatch hrest ih =>
    cases other with
    | nil => exact absurd List.nil_prefix hneither.1
    | cons letter' other =>
      rw [List.cons_append, matchLetters]
      by_cases hmatch' : letters.ignoreCase letter' c = true
      · have hsame := letters.ignoreCase_inj letter letter' c (hkeyword letter (by simp))
          (hother letter' (by simp)) hmatch hmatch'
        subst hsame
        rw [if_pos hmatch', ih (fun c hc => hkeyword c (by simp [hc]))
          (fun c hc => hother c (by simp [hc])) ?_]
        · rfl
        · exact ⟨fun h => hneither.1 (List.cons_prefix_cons.mpr ⟨rfl, h⟩),
            fun h => hneither.2 (List.cons_prefix_cons.mpr ⟨rfl, h⟩)⟩
      · rw [if_neg hmatch']

end SqliteReconcile.ConflictSyntax
