import SqliteReconcile.ClauseRewrites
import SqliteReconcile.SqlTokens

/-!
# The items of a text

A text as the scanner reads it: words, white space, delimited pieces and single characters. On
items a search for a top-level keyword is a search over a list, and the patterns of the clauses
ask for words with white space between them.
-/
namespace SqliteReconcile.TextItems
open StatementLogging ConflictSyntax

inductive Item
  | word (chars : List Char)
  | space (c : Char)
  | delimited (delimiters : Delimiters) (content : List Char)
  | symbol (c : Char)
  deriving DecidableEq

def Item.text : Item → List Char
  | .word chars => chars
  | .space c | .symbol c => [c]
  | .delimited delimiters content => delimiters.text content

def textOf (items : List Item) : List Char := items.flatMap Item.text

@[simp] lemma textOf_nil : textOf [] = [] := rfl

@[simp] lemma textOf_cons (item : Item) (items : List Item) :
    textOf (item :: items) = item.text ++ textOf items := rfl

@[simp] lemma textOf_append (items rest : List Item) :
    textOf (items ++ rest) = textOf items ++ textOf rest := List.flatMap_append

def Item.isSpace : Item → Bool
  | .space _ => true
  | .word _ | .delimited .. | .symbol _ => false

def Item.depthAfter (depth : ℕ) : Item → ℕ
  | .symbol c => plainDepth depth c
  | .word _ | .space _ | .delimited .. => depth

section

variable (characters : Characters)

/-- How an item is read, before the next character. -/
def Item.WellFormed : Item → Option Char → Prop
  | .word chars, next => chars ≠ [] ∧ (∀ c ∈ chars, characters.isWordChar c = true) ∧
      next.all (!characters.isWordChar ·) = true
  | .space c, _ => isPythonSpace c = true
  | .delimited delimiters content, next => delimiters.Holds content ∧ delimiters.Stands next
  | .symbol c, next => Breaks characters c ∧ (Token.plain c).WellFormed next

/-- Items that are read one after the other. -/
def Lexed : List Item → Prop
  | [] => True
  | item :: rest => item.WellFormed characters (textOf rest).head? ∧ Lexed rest

def Item.isKeyword : Item → Bool
  | .word (c :: _) => characters.isAlpha c || c = '_'
  | _ => false

/-- The first keyword at the top level where `found` has an answer, and the items before it. -/
def firstAt {α : Type} (found : List Item → Option α) (depth : ℕ) :
    List Item → Option (List Item × α)
  | [] => none
  | item :: rest =>
    (if depth = 0 && item.isKeyword characters then (found (item :: rest)).map ([], ·)
      else none).or
      ((firstAt found (item.depthAfter depth) rest).map fun first => (item :: first.1, first.2))

end

variable {letters : Letters} {items rest : List Item} {s : Scan}

lemma skips_word_tail {c : Char} {word : List Char} (hs : s.Between)
    (hword : ∀ d ∈ c :: word, letters.isWordChar d = true) (after : List Char) :
    (s.step c (word ++ after).head?).Skips letters.toCharacters after word ∧
      (s.step c (word ++ after).head?).depth = s.depth := by
  have hc := hword c (by simp)
  have hstep := step_inner letters hs (.inl hc) (word ++ after).head?
  rw [hstep]
  exact ⟨skips_word ⟨rfl, rfl⟩ (by simp [hc]) fun d hd => hword d (by simp [hd]), rfl⟩

/-- A word does not follow a word directly, nor does the scanner stand inside one. -/
def WordMayStart (letters : Letters) (s : Scan) : List Item → Prop
  | .word _ :: _ => s.AfterWord letters.toCharacters
  | _ => True

lemma wordMayStart_of_last {before after : List Char} {items : List Item} (hne : before ≠ [])
    (hlast : before.getLast?.all (!letters.isWordChar ·) = true) :
    WordMayStart letters (s.over after before) items := by
  cases items with
  | nil => trivial
  | cons item items =>
    cases item with
    | word chars =>
      rw [WordMayStart, Scan.AfterWord, Scan.previous_over hne]
      exact hlast
    | _ => trivial

lemma wordMayStart_of_word {word : List Char} {s : Scan}
    (h : Lexed letters.toCharacters (.word word :: rest)) : WordMayStart letters s rest := by
  cases rest with
  | nil => trivial
  | cons item rest =>
    cases item with
    | word chars =>
      obtain ⟨⟨-, -, hnext⟩, ⟨hne, hchars, -⟩, -⟩ := h
      obtain ⟨c, chars, rfl⟩ := List.exists_cons_of_ne_nil hne
      have hc := hchars c (by simp)
      simp [Item.text, hc] at hnext
    | _ => trivial

lemma delimited_last {delimiters : Delimiters} {content : List Char} {next : Option Char}
    (h : (Item.delimited delimiters content).WellFormed letters.toCharacters next)
    (hnext : next ≠ none) :
    (delimiters.text content).getLast?.all (!letters.isWordChar ·) = true := by
  have hlast : ∀ c, delimiters.closing.getLast? = some c → letters.isWordChar c = false →
      (delimiters.text content).getLast?.all (!letters.isWordChar ·) = true := by
    intro c hclosing hc
    rw [Delimiters.text, List.getLast?_append, hclosing]
    simp [hc]
  have hascii : ∀ c : Char, c.val < 128 → c.isAlphanum = false → c ≠ '_' →
      letters.isWordChar c = false := fun c h h' h'' => not_word_of_ascii h h' h''
  cases delimiters with
  | quote delimiter =>
    have hbreaks : Breaks letters.toCharacters delimiter :=
      breaks_of_ascii (List.mem_append_left _ h.2.1)
    exact hlast delimiter rfl hbreaks.1
  | bracket => exact hlast ']' rfl (hascii _ (by decide) (by decide) (by decide))
  | blockComment => exact hlast '/' rfl (hascii _ (by decide) (by decide) (by decide))
  | lineComment terminator =>
    rcases h.2 with rfl | rfl | ⟨-, hnone⟩
    · exact hlast '\r' rfl (hascii _ (by decide) (by decide) (by decide))
    · exact hlast '\n' rfl (hascii _ (by decide) (by decide) (by decide))
    · exact absurd hnone hnext

/-- The scanner over the items of a text finds what a search over the items finds. -/
theorem first_items {α β : Type} {found : List Char → Option α} {itemFound : List Item → Option β}
    {value : β → α}
    (hfound : ∀ word rest, Lexed letters.toCharacters (.word word :: rest) →
      found (textOf (.word word :: rest)) = (itemFound (.word word :: rest)).map value)
    (hs : s.Between) (hstart : WordMayStart letters s items)
    (hitems : Lexed letters.toCharacters items) :
    firstWithin letters.toCharacters found s [] (textOf items) =
      (firstAt letters.toCharacters itemFound s.depth items).map
        fun first => (textOf first.1, value first.2) := by
  induction items generalizing s with
  | nil => rfl
  | cons item rest ih =>
    have hrest : ∀ s' : Scan, (textOf rest ≠ [] → s'.Between) →
        (textOf rest ≠ [] → WordMayStart letters s' rest) →
        (textOf rest ≠ [] → s'.depth = item.depthAfter s.depth) →
        firstWithin letters.toCharacters found s' [] (textOf rest) =
          (firstAt letters.toCharacters itemFound (item.depthAfter s.depth) rest).map
            fun first => (textOf first.1, value first.2) := by
      intro s' hbetween hmay hdepth
      by_cases hempty : textOf rest = []
      · have hnil : rest = [] := by
          cases rest with
          | nil => rfl
          | cons item' rest' =>
            exfalso
            have htext : item'.text = [] := (List.append_eq_nil_iff.mp hempty).1
            cases item' with
            | word chars => exact hitems.2.1.1 htext
            | space c => cases htext
            | symbol c => cases htext
            | delimited delimiters content =>
              cases delimiters <;> simp [Item.text, Delimiters.text, Delimiters.opening] at htext
        subst hnil
        rfl
      · rw [← hdepth hempty]
        exact ih (hbetween hempty) (hmay hempty) hitems.2
    have hsilent : item.isKeyword letters.toCharacters = false →
        s.Skips letters.toCharacters (textOf rest) item.text →
        firstWithin letters.toCharacters found s [] (textOf (item :: rest)) =
          (firstWithin letters.toCharacters found (s.over (textOf rest ++ []) item.text) []
            (textOf rest)).map fun first => (item.text ++ first.1, first.2) := by
      intro _ hskips
      have hnone := hskips.silent α found
      rw [textOf_cons, firstWithin_append, List.append_nil, hnone]
      rfl
    have hlater : firstAt letters.toCharacters itemFound s.depth (item :: rest) =
        (if s.depth = 0 && item.isKeyword letters.toCharacters then
          (itemFound (item :: rest)).map ([], ·) else none).or
        ((firstAt letters.toCharacters itemFound (item.depthAfter s.depth) rest).map
          fun first => (item :: first.1, first.2)) := rfl
    have hquiet : item.isKeyword letters.toCharacters = false →
        s.Skips letters.toCharacters (textOf rest) item.text →
        (textOf rest ≠ [] → WordMayStart letters (s.over (textOf rest) item.text) rest) →
        item.depthAfter s.depth = s.depth →
        firstWithin letters.toCharacters found s [] (textOf (item :: rest)) =
          (firstAt letters.toCharacters itemFound s.depth (item :: rest)).map
            fun first => (textOf first.1, value first.2) := by
      intro hkeyword hskips hmay hdepth
      rw [hsilent hkeyword hskips, List.append_nil, hlater, hkeyword, Bool.and_false]
      rw [hrest _ hskips.between hmay fun hne => (hskips.depth hne).trans hdepth.symm]
      simp [Option.map_map, Function.comp_def]
    cases item with
    | word chars =>
      obtain ⟨hne, hchars, -⟩ := hitems.1
      obtain ⟨c, word, rfl⟩ := List.exists_cons_of_ne_nil hne
      obtain ⟨hskips, hdepth⟩ := skips_word_tail hs hchars (textOf rest)
      have hkeyword : s.atKeyword letters.toCharacters c =
          (decide (s.depth = 0) && (Item.word (c :: word)).isKeyword letters.toCharacters) := by
        have hafter : s.previous.all (!letters.isWordChar ·) = true := hstart
        simp [Scan.atKeyword, hs.consumed, hs.inside, hafter, Item.isKeyword]
      have hwithin : firstWithin letters.toCharacters found s [] (textOf (.word (c :: word) :: rest)) =
          (if s.depth = 0 && (Item.word (c :: word)).isKeyword letters.toCharacters then
            (found (textOf (.word (c :: word) :: rest))).map ([], ·) else none).or
          ((firstWithin letters.toCharacters found (s.step c (word ++ textOf rest).head?) []
            (word ++ textOf rest)).map fun first => (c :: first.1, first.2)) := by
        rw [← hkeyword]
        simp [Item.text, firstWithin]
      rw [hwithin, hlater, firstWithin_append, List.append_nil, hskips.silent, Option.none_or,
        hrest _ hskips.between (fun _ => wordMayStart_of_word hitems)
          (fun hne => (hskips.depth hne).trans hdepth), hfound (c :: word) rest hitems]
      split
      · simp [Option.map_or, Option.map_map, Function.comp_def, Item.text]
      · simp [Option.map_map, Function.comp_def, Item.text]
    | space c =>
      have hspace : isPythonSpace c = true := hitems.1
      have hskips : s.Skips letters.toCharacters (textOf rest) [c] :=
        skips_spaces hs fun d hd => (List.mem_singleton.mp hd) ▸ hspace
      have hc := not_word_of_space letters hspace
      have hlast : [c].getLast?.all (!letters.isWordChar ·) = true := by simp [hc]
      exact hquiet rfl hskips (fun _ => wordMayStart_of_last (List.cons_ne_nil c []) hlast) rfl
    | delimited delimiters content =>
      have hskips : s.Skips letters.toCharacters (textOf rest) (delimiters.text content) :=
        skips_delimited hs hitems.1.1 hitems.1.2
      have hne : delimiters.text content ≠ [] := by
        cases delimiters <;> simp [Delimiters.text, Delimiters.opening]
      refine hquiet rfl hskips (fun hrest => wordMayStart_of_last hne ?_) rfl
      exact delimited_last hitems.1 fun hnone => hrest (List.head?_eq_none_iff.mp hnone)
    | symbol c =>
      obtain ⟨hbreaks, hplain⟩ := hitems.1
      have hstep := step_plain hs hplain
      have hnot : s.atKeyword letters.toCharacters c = false := by
        have halpha : letters.isAlpha c = false := by
          by_contra halpha
          have hword := letters.isWordChar_of_isAlpha c (by simpa using halpha)
          rw [hbreaks.1] at hword
          cases hword
        have hunderscore : c ≠ '_' := by
          rintro rfl
          have hword := hbreaks.1
          rw [letters.isWordChar_ascii _ (by decide)] at hword
          revert hword
          decide
        simp [Scan.atKeyword, halpha, hunderscore]
      rw [hlater]
      have hwithin : firstWithin letters.toCharacters found s [] (textOf (.symbol c :: rest)) =
          (firstWithin letters.toCharacters found (s.step c (textOf rest).head?) []
            (textOf rest)).map fun first => (c :: first.1, first.2) := by
        simp [Item.text, firstWithin, hnot]
      rw [hwithin, hstep, hrest _ (fun _ => ⟨rfl, rfl⟩) ?_ (fun _ => rfl)]
      · simp [Item.isKeyword, Option.map_map, Function.comp_def, Item.text]
      · intro _
        cases rest with
        | nil => trivial
        | cons item rest =>
          cases item with
          | word chars => simp [WordMayStart, Scan.AfterWord, hbreaks.1]
          | _ => trivial

end SqliteReconcile.TextItems
