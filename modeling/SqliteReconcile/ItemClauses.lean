import SqliteReconcile.RewriteTwins
import SqliteReconcile.TextItems

/-!
# Clauses among the items

What the patterns of the program read of a text is a run of words with white space after each.
The functions that find and rewrite the clauses of a text do so with its items.
-/
namespace SqliteReconcile.TextItems
open StatementLogging ConflictSyntax

section

variable (characters : Characters)

def spells (keyword word : List Char) : Bool :=
  matchLetters characters keyword word = some (word, [])

def spacedWord (test : List Char → Bool) :
    List Item → Option (List Char × List Item × List Item)
  | .word word :: .space c :: rest =>
    if test word then
      some (word, .space c :: rest.takeWhile Item.isSpace, rest.dropWhile Item.isSpace)
    else none
  | _ => none

/-- What a clause is found as, and the items after it. -/
structure ItemFound where
  group1 : List Char
  group2 : List Char
  after : List Item
  deriving DecidableEq

/-- A verb, OR and an algorithm. -/
def orItems (verb : String) (algorithms : List String) (items : List Item) :
    Option ItemFound := do
  let (group1, _, items) ← spacedWord (spells characters verb.toList) items
  let (_, _, items) ← spacedWord (spells characters "OR".toList) items
  let (group2, _, items) ← spacedWord
    (fun word => algorithms.any fun algorithm => spells characters algorithm.toList word) items
  return ⟨group1, group2, items⟩

def replaceIntoItems (items : List Item) : Option ItemFound := do
  let (group1, first, items) ← spacedWord (spells characters "REPLACE".toList) items
  let (into, second, items) ← spacedWord (spells characters "INTO".toList) items
  return ⟨group1, textOf first ++ into ++ textOf second, items⟩

def conflictFollows (items : List Item) : Bool :=
  match items.dropWhile Item.isSpace with
  | .word word :: _ => characters.upperCase word = "CONFLICT".toList
  | _ => false

def conflictItems : List Item → Option Unit
  | .word word :: rest =>
    if word.length = 2 ∧ characters.upperCase word = "ON".toList ∧
        conflictFollows characters rest = true then some ()
    else none
  | _ => none

end

variable {letters : Letters} {items rest : List Item}

lemma text_word_head {word : List Char} {next : Option Char}
    (h : (Item.word word).WellFormed letters.toCharacters next) :
    ∃ c tail, word = c :: tail ∧ letters.isWordChar c = true := by
  obtain ⟨hne, hword, -⟩ := h
  obtain ⟨c, tail, rfl⟩ := List.exists_cons_of_ne_nil hne
  exact ⟨c, tail, rfl, hword c (by simp)⟩

lemma not_space_of_word {c : Char} (h : letters.isWordChar c = true) : isPythonSpace c = false := by
  by_contra hspace
  rw [not_word_of_space letters (by simpa using hspace)] at h
  cases h

/-- An item that is no white space starts with no white space, and only a word starts with a
character of a word. -/
lemma text_head {item : Item} {next : Option Char}
    (h : item.WellFormed letters.toCharacters next) :
    ∃ c tail, item.text = c :: tail ∧ isPythonSpace c = item.isSpace ∧
      (letters.isWordChar c = true ↔ ∃ word, item = .word word) := by
  cases item with
  | word word =>
    obtain ⟨c, tail, rfl, hc⟩ := text_word_head h
    exact ⟨c, tail, rfl, not_space_of_word hc, by simp [hc]⟩
  | space c =>
    have hc : isPythonSpace c = true := h
    exact ⟨c, [], rfl, hc, by simp [not_word_of_space letters hc]⟩
  | symbol c => exact ⟨c, [], rfl, h.1.2, by simp [h.1.1]⟩
  | delimited delimiters content =>
    obtain ⟨c, tail, hopening, hbreaks⟩ : ∃ c tail, delimiters.opening = c :: tail ∧
        Breaks letters.toCharacters c := by
      cases delimiters with
      | quote delimiter =>
        exact ⟨delimiter, [], rfl, breaks_of_ascii (List.mem_append_left _ h.2.1)⟩
      | bracket => exact ⟨'[', [], rfl, breaks_of_ascii (by simp)⟩
      | lineComment terminator => exact ⟨'-', ['-'], rfl, breaks_of_ascii (by simp)⟩
      | blockComment => exact ⟨'/', ['*'], rfl, breaks_of_ascii (by simp)⟩
    refine ⟨c, tail ++ content ++ delimiters.closing, ?_, hbreaks.2, by simp [hbreaks.1]⟩
    rw [Item.text, Delimiters.text, hopening]
    simp

lemma textOf_head (hitems : Lexed letters.toCharacters items) :
    (∃ word rest, items = .word word :: rest) ∨
      ∀ c, (textOf items).head? = some c → letters.isWordChar c = false := by
  cases items with
  | nil => exact .inr (by simp)
  | cons item rest =>
    obtain ⟨c, tail, htext, -, hword⟩ := text_head hitems.1
    by_cases h : ∃ word, item = .word word
    · obtain ⟨word, rfl⟩ := h
      exact .inl ⟨word, rest, rfl⟩
    · right
      intro d hd
      rw [textOf_cons, htext] at hd
      cases hd
      simpa using fun hc => h (hword.mp hc)

lemma spaces_textOf (hitems : Lexed letters.toCharacters items) :
    (textOf items).takeWhile isPythonSpace = textOf (items.takeWhile Item.isSpace) ∧
      (textOf items).dropWhile isPythonSpace = textOf (items.dropWhile Item.isSpace) := by
  induction items with
  | nil => exact ⟨rfl, rfl⟩
  | cons item rest ih =>
    obtain ⟨htake, hdrop⟩ := ih hitems.2
    obtain ⟨c, tail, htext, hspace, -⟩ := text_head hitems.1
    by_cases hitem : item.isSpace = true
    · cases item with
      | space d =>
        have hd : isPythonSpace d = true := hitems.1
        rw [textOf_cons, Item.text, List.singleton_append, List.takeWhile_cons_of_pos hd,
          List.dropWhile_cons_of_pos hd, List.takeWhile_cons_of_pos hitem,
          List.dropWhile_cons_of_pos hitem, htake, hdrop]
        exact ⟨rfl, rfl⟩
      | word _ => cases hitem
      | delimited _ _ => cases hitem
      | symbol _ => cases hitem
    · have hc : isPythonSpace c = false := by simpa [hspace] using hitem
      simp [htext, hc, hitem]

lemma Lexed.dropWhile {p : Item → Bool} (hitems : Lexed letters.toCharacters items) :
    Lexed letters.toCharacters (items.dropWhile p) := by
  induction items with
  | nil => trivial
  | cons item rest ih =>
    rw [List.dropWhile_cons]
    split
    · exact ih hitems.2
    · exact hitems

lemma matchLetters_append {keyword word after : List Char}
    (hupper : ∀ c ∈ keyword, c.isUpper = true)
    (hafter : ∀ c, after.head? = some c → letters.isWordChar c = false) :
    matchLetters letters.toCharacters keyword (word ++ after) =
      (matchLetters letters.toCharacters keyword word).map
        fun found => (found.1, found.2 ++ after) := by
  induction keyword generalizing word with
  | nil => rfl
  | cons letter keyword ih =>
    cases word with
    | nil =>
      cases after with
      | nil => rfl
      | cons c after =>
        have hc := hafter c rfl
        have hmatch : letters.ignoreCase letter c ≠ true := by
          intro hmatch
          rw [letters.isWordChar_of_ignoreCase letter c (hupper letter (by simp)) hmatch] at hc
          cases hc
        simp [matchLetters, hmatch]
    | cons c word =>
      rw [List.cons_append, matchLetters, matchLetters]
      split
      · rw [ih fun c hc => hupper c (by simp [hc]), Option.map_map, Option.map_map]
        rfl
      · rfl

def readKeyword (letters : Letters) (keyword : String) (text : List Char) :
    Option (List Char × List Char × List Char) :=
  (matchLetters letters.toCharacters keyword.toList text).bind fun found =>
    (matchSpaces found.2).map fun spaces => (found.1, spaces)

lemma matchSpaces_textOf {c : Char} (hitems : Lexed letters.toCharacters (.space c :: rest)) :
    matchSpaces (textOf (.space c :: rest)) =
      some (textOf (.space c :: rest.takeWhile Item.isSpace),
        textOf (rest.dropWhile Item.isSpace)) := by
  have hc : isPythonSpace c = true := hitems.1
  obtain ⟨htake, hdrop⟩ := spaces_textOf hitems.2
  simp [matchSpaces, Item.text, hc, htake, hdrop]

lemma matchSpaces_none {item : Item} (hitems : Lexed letters.toCharacters (item :: rest))
    (hitem : item.isSpace = false) : matchSpaces (textOf (item :: rest)) = none := by
  obtain ⟨c, tail, htext, hspace, -⟩ := text_head hitems.1
  rw [hitem] at hspace
  simp [matchSpaces, htext, hspace]

lemma readKeyword_items {keyword : String} (hkeyword : IsKeyword keyword.toList)
    (hitems : Lexed letters.toCharacters items) :
    readKeyword letters keyword (textOf items) =
      (spacedWord (spells letters.toCharacters keyword.toList) items).map
        fun found => (found.1, textOf found.2.1, textOf found.2.2) := by
  rcases textOf_head hitems with ⟨word, rest, rfl⟩ | hhead
  · have hafter : ∀ c, (textOf rest).head? = some c → letters.isWordChar c = false := by
      intro c hc
      have hnext := hitems.1.2.2
      rw [hc] at hnext
      simpa using hnext
    have hword : textOf (.word word :: rest) = word ++ textOf rest := rfl
    rw [readKeyword, hword, matchLetters_append hkeyword.upper hafter]
    cases hmatch : matchLetters letters.toCharacters keyword.toList word with
    | none =>
      have hspells : spells letters.toCharacters keyword.toList word = false := by
        simp [spells, hmatch]
      cases rest with
      | nil => rfl
      | cons item rest => cases item <;> simp [spacedWord, hspells]
    | some found =>
      obtain ⟨first, tail⟩ := found
      obtain ⟨hsplit, -⟩ := matchLetters_some hmatch
      rw [Option.map_some, Option.bind_some]
      cases tail with
      | nil =>
        have hfirst : first = word := by simp [hsplit]
        subst hfirst
        have hspells : spells letters.toCharacters keyword.toList first = true := by
          simp [spells, hmatch]
        rw [List.nil_append]
        cases rest with
        | nil => rfl
        | cons item rest =>
          cases item with
          | space c =>
            rw [matchSpaces_textOf hitems.2, spacedWord, if_pos hspells]
            rfl
          | word _ => rw [matchSpaces_none hitems.2 rfl]; rfl
          | delimited _ _ => rw [matchSpaces_none hitems.2 rfl]; rfl
          | symbol _ => rw [matchSpaces_none hitems.2 rfl]; rfl
      | cons c tail =>
        have hc : letters.isWordChar c = true := hitems.1.2.1 c (by simp [hsplit])
        have hspace := not_space_of_word hc
        have hspells : spells letters.toCharacters keyword.toList word = false := by
          simp [spells, hmatch]
        have hnone : matchSpaces (c :: tail ++ textOf rest) = none := by
          simp [matchSpaces, hspace]
        rw [hnone]
        cases rest with
        | nil => rfl
        | cons item rest => cases item <;> simp [spacedWord, hspells]
  · have hnone := @matchLetters_append _ _ [] _ hkeyword.upper hhead
    have hempty : matchLetters letters.toCharacters keyword.toList [] = none := by
      obtain ⟨letter, keyword', hcons⟩ := List.exists_cons_of_ne_nil hkeyword.ne_nil
      rw [hcons]
      rfl
    rw [List.nil_append, hempty] at hnone
    rw [readKeyword, hnone]
    have hword : ∀ word rest, items ≠ .word word :: rest := by
      rintro word rest rfl
      obtain ⟨c, tail, rfl, hc⟩ := text_word_head hitems.1
      have hnot := hhead c rfl
      rw [hc] at hnot
      cases hnot
    cases items with
    | nil => rfl
    | cons item rest =>
      cases item with
      | word word => exact absurd rfl (hword word rest)
      | space _ => rfl
      | delimited _ _ => rfl
      | symbol _ => rfl

lemma spacedWord_some {test : List Char → Bool} {word : List Char} {spaces : List Item}
    (h : spacedWord test items = some (word, spaces, rest)) :
    items = .word word :: (spaces ++ rest) ∧ test word = true ∧
      (∃ c more, spaces = .space c :: more ∧ ∀ item ∈ more, item.isSpace = true) := by
  unfold spacedWord at h
  split at h
  · next word c rest =>
    split at h
    · next htest =>
      cases h
      refine ⟨?_, htest, c, _, rfl, fun item hitem => List.mem_takeWhile_imp hitem⟩
      rw [List.cons_append, List.takeWhile_append_dropWhile]
    · cases h
  · cases h

lemma Lexed.append_right {first : List Item} (h : Lexed letters.toCharacters (first ++ rest)) :
    Lexed letters.toCharacters rest := by
  induction first with
  | nil => exact h
  | cons item first ih => exact ih h.2

lemma lexed_of_spacedWord {test : List Char → Bool} {word : List Char} {spaces : List Item}
    (hitems : Lexed letters.toCharacters items)
    (h : spacedWord test items = some (word, spaces, rest)) :
    Lexed letters.toCharacters rest := by
  obtain ⟨rfl, -⟩ := spacedWord_some h
  exact hitems.2.append_right

lemma orPattern_eq (verb : String) (algorithms : List String) (text : List Char) :
    orPattern letters.toCharacters verb algorithms text =
      (readKeyword letters verb text).bind fun first =>
        (readKeyword letters "OR" first.2.2).bind fun second =>
          algorithms.findSome? fun algorithm =>
            (readKeyword letters algorithm second.2.2).map fun third =>
              ⟨first.1, third.1, third.2.2⟩ := by
  simp only [orPattern, readKeyword, Option.bind_eq_bind, Option.bind_assoc, Option.bind_map,
    Option.map_bind]
  congr 1
  funext first
  congr 1
  funext spaces
  congr 1
  funext second
  congr 1
  funext more
  congr 1
  funext algorithm
  cases matchLetters letters.toCharacters algorithm.toList more.2 with
  | none => rfl
  | some found =>
    simp only [Option.bind_some, Function.comp_apply]
    cases matchSpaces found.2 <;> rfl

lemma spacedWord_or (test test' : List Char → Bool) (items : List Item) :
    spacedWord (fun word => test word || test' word) items =
      (spacedWord test items).or (spacedWord test' items) := by
  unfold spacedWord
  split
  · next word c rest =>
    by_cases htest : test word = true
    · simp [htest]
    · simp [htest]
  · rfl

lemma findSome?_readKeyword {algorithms : List String} {α : Type}
    (halgorithms : ∀ algorithm ∈ algorithms, IsKeyword algorithm.toList)
    (hitems : Lexed letters.toCharacters items)
    (f : List Char × List Char × List Char → α) :
    (algorithms.findSome? fun algorithm =>
      (readKeyword letters algorithm (textOf items)).map f) =
      (spacedWord (fun word => algorithms.any fun algorithm =>
        spells letters.toCharacters algorithm.toList word) items).map
          fun found => f (found.1, textOf found.2.1, textOf found.2.2) := by
  induction algorithms with
  | nil =>
    unfold spacedWord
    split <;> simp
  | cons algorithm algorithms ih =>
    have hlater := ih fun other hother => halgorithms other (by simp [hother])
    have hor := spacedWord_or (spells letters.toCharacters algorithm.toList)
      (fun word => algorithms.any fun algorithm =>
        spells letters.toCharacters algorithm.toList word) items
    have hread := readKeyword_items (halgorithms algorithm (by simp)) hitems
    simp only [List.any_cons, hor, Option.map_or]
    rw [List.findSome?_cons, hread, hlater, Option.map_map]
    cases spacedWord (spells letters.toCharacters algorithm.toList) items <;> rfl

lemma orPattern_items {verb : String} {algorithms : List String}
    (hverb : verb.toList ∈ verbs.take 2)
    (halgorithms : ∀ algorithm ∈ algorithms, algorithm ∈ conflictAlgorithms)
    (hitems : Lexed letters.toCharacters items) :
    orPattern letters.toCharacters verb algorithms (textOf items) =
      (orItems letters.toCharacters verb algorithms items).map
        fun found => ⟨found.group1, found.group2, textOf found.after⟩ := by
  have hkeyword := (notOn_verb (List.mem_of_mem_take hverb)).toIsKeyword
  have hkeywords : ∀ algorithm ∈ algorithms, IsKeyword algorithm.toList := fun algorithm h =>
    (notOn_algorithm (halgorithms algorithm h)).toIsKeyword
  rw [orPattern_eq, readKeyword_items hkeyword hitems, orItems]
  cases hfirst : spacedWord (spells letters.toCharacters verb.toList) items with
  | none => rfl
  | some first =>
    obtain ⟨group1, spaces, rest⟩ := first
    have hrest := lexed_of_spacedWord hitems hfirst
    simp only [Option.map_some, Option.bind_some, Option.bind_eq_bind]
    rw [readKeyword_items isKeyword_or hrest]
    cases hsecond : spacedWord (spells letters.toCharacters "OR".toList) rest with
    | none => rfl
    | some second =>
      obtain ⟨word, more, rest'⟩ := second
      have hrest' := lexed_of_spacedWord hrest hsecond
      simp only [Option.map_some, Option.bind_some]
      rw [findSome?_readKeyword hkeywords hrest']
      cases spacedWord (fun word => algorithms.any fun algorithm =>
        spells letters.toCharacters algorithm.toList word) rest' <;> rfl

lemma replaceIntoPattern_items (hitems : Lexed letters.toCharacters items) :
    replaceIntoPattern letters.toCharacters (textOf items) =
      (replaceIntoItems letters.toCharacters items).map
        fun found => ⟨found.group1, found.group2, textOf found.after⟩ := by
  have heq : replaceIntoPattern letters.toCharacters (textOf items) =
      (readKeyword letters "REPLACE" (textOf items)).bind fun first =>
        (readKeyword letters "INTO" first.2.2).map fun second =>
          ⟨first.1, first.2.1 ++ second.1 ++ second.2.1, second.2.2⟩ := by
    rw [replaceIntoPattern_eq]
    simp only [readKeyword, Option.bind_assoc, Option.bind_map, Option.map_bind]
    congr 1
    funext first
    congr 1
    funext spaces
    simp only [Function.comp_apply]
    congr 1
    funext into
    cases matchSpaces into.2 <;> rfl
  rw [heq, readKeyword_items isKeyword_replace hitems, replaceIntoItems]
  cases hfirst : spacedWord (spells letters.toCharacters "REPLACE".toList) items with
  | none => rfl
  | some first =>
    obtain ⟨group1, spaces, rest⟩ := first
    have hrest := lexed_of_spacedWord hitems hfirst
    simp only [Option.map_some, Option.bind_some, Option.bind_eq_bind]
    rw [readKeyword_items isKeyword_into hrest]
    cases spacedWord (spells letters.toCharacters "INTO".toList) rest <;> rfl

lemma upperCase_not_on {before : List Char} {d : Char} (hd : letters.isWordChar d = false) :
    letters.upperCase (before ++ [d]) ≠ "ON".toList := by
  intro hread
  obtain ⟨e, more, he, hnot⟩ := letters.upper_of_not_word d hd
  have hmem : e ∈ "ON".toList := by
    rw [← hread, upperCase_append, Unicode.upperCase, Unicode.upperCase, List.flatMap_singleton, he]
    simp
  have hcases : e = 'O' ∨ e = 'N' := by simpa using hmem
  rcases hcases with rfl | rfl <;> exact absurd hnot (by decide)

lemma takeWhile_word {word : List Char}
    (hitems : Lexed letters.toCharacters (.word word :: rest)) :
    (textOf (.word word :: rest)).takeWhile letters.isWordChar = word := by
  obtain ⟨-, hword, hnext⟩ := hitems.1
  have hafter : (textOf rest).takeWhile letters.isWordChar = [] := by
    cases htext : textOf rest with
    | nil => rfl
    | cons c tail =>
      rw [htext] at hnext
      have hc : letters.isWordChar c = false := by simpa using hnext
      simp [hc]
  rw [textOf_cons, Item.text, List.takeWhile_append_of_pos hword, hafter, List.append_nil]

lemma nextWord_items (hitems : Lexed letters.toCharacters items) :
    nextWord letters (textOf items) =
      match items.dropWhile Item.isSpace with
      | .word word :: _ => word
      | _ => [] := by
  have hdropped := hitems.dropWhile (p := Item.isSpace)
  rw [nextWord, (spaces_textOf hitems).2]
  rcases textOf_head hdropped with ⟨word, rest, hword⟩ | hhead
  · rw [hword] at hdropped ⊢
    exact takeWhile_word hdropped
  · have hempty : (textOf (items.dropWhile Item.isSpace)).takeWhile letters.isWordChar = [] := by
      cases htext : textOf (items.dropWhile Item.isSpace) with
      | nil => rfl
      | cons c tail =>
        have hc := hhead c (by rw [htext]; rfl)
        simp [hc]
    rw [hempty]
    split
    · next word rest hword =>
      rw [hword] at hdropped hhead
      obtain ⟨c, tail, rfl, hc⟩ := text_word_head hdropped.1
      have hnot := hhead c rfl
      rw [hc] at hnot
      cases hnot
    · rfl

lemma onConflict_items {word : List Char}
    (hitems : Lexed letters.toCharacters (.word word :: rest)) :
    onConflict letters.toCharacters (textOf (.word word :: rest)) =
      conflictItems letters.toCharacters (.word word :: rest) := by
  obtain ⟨hne, hword, hnext⟩ := hitems.1
  have hdrop : (textOf (.word word :: rest)).drop word.length = textOf rest := List.drop_left
  have hfollows : nextKeywordAfter letters.toCharacters (textOf (.word word :: rest)) word.length =
      some "CONFLICT".toList ↔ conflictFollows letters.toCharacters rest = true := by
    rw [nextKeywordAfter_eq, hdrop, nextWord_items hitems.2, conflictFollows]
    split
    · next next _ _ =>
      have hne' : letters.upperCase next = "CONFLICT".toList → next ≠ [] := by
        intro hupper hempty
        rw [hempty] at hupper
        exact absurd hupper.symm (by simp [Unicode.upperCase])
      rw [decide_eq_true_eq]
      exact and_iff_right_of_imp hne'
    · exact iff_of_false (fun h => h.1 rfl) Bool.false_ne_true
  rw [onConflict, conflictItems]
  refine if_congr ?_ rfl rfl
  rw [← hfollows, textOf_cons, Item.text]
  cases word with
  | nil => exact absurd rfl hne
  | cons c word =>
    cases word with
    | nil =>
      refine iff_of_false ?_ fun h => absurd h.1 (by simp)
      rintro ⟨hon, -, hconflict⟩
      rw [nextKeywordAfter_eq] at hconflict
      cases htext : textOf rest with
      | nil =>
        rw [htext] at hconflict
        exact hconflict.1 rfl
      | cons d tail =>
        rw [htext] at hnext hon
        exact @upperCase_not_on letters [c] d (by simpa using hnext) hon
    | cons d word =>
      cases word with
      | nil =>
        have hat : ([c, d] ++ textOf rest)[2]? = (textOf rest).head? := by
          rw [List.head?_eq_getElem?]
          rfl
        rw [hat]
        exact ⟨fun h => ⟨rfl, h.1, h.2.2⟩, fun h => ⟨h.2.1, hnext, h.2.2⟩⟩
      | cons e tail =>
        have he : letters.isWordChar e = true := hword e (by simp)
        refine iff_of_false (fun h => ?_) fun h => ?_
        · simpa [he] using h.2.1
        · simpa using h.1

lemma isKeyword_word {characters : Characters} {item : Item} (h : item.isKeyword characters = true) :
    ∃ word, item = .word word := by
  cases item with
  | word word => exact ⟨word, rfl⟩
  | space _ => cases h
  | delimited _ _ => cases h
  | symbol _ => cases h

section

variable {characters : Characters} {α : Type} {found : List Item → Option α} {depth : ℕ}

lemma firstAt_isSome_mono {β : Type} {found' : List Item → Option β}
    (hfound : ∀ items, (found items).isSome = true → (found' items).isSome = true)
    (h : (firstAt characters found depth items).isSome = true) :
    (firstAt characters found' depth items).isSome = true := by
  induction items generalizing depth with
  | nil => cases h
  | cons item items ih =>
    simp only [firstAt, Option.isSome_or, Bool.or_eq_true, Option.isSome_map] at h ⊢
    rcases h with h | h
    · left
      split at h
      · next hkeyword =>
        rw [if_pos hkeyword]
        simpa using hfound _ (by simpa using h)
      · cases h
    · exact .inr (ih h)

lemma firstAt_append_silent {first : List Item}
    (hfirst : ∀ item ∈ first, item.isKeyword characters = false)
    (hdepth : ∀ item ∈ first, ∀ depth, item.depthAfter depth = depth) :
    firstAt characters found depth (first ++ items) =
      (firstAt characters found depth items).map fun answer => (first ++ answer.1, answer.2) := by
  induction first with
  | nil => simp
  | cons item first ih =>
    have hitem := hfirst item (by simp)
    rw [List.cons_append, firstAt, hitem, Bool.and_false, hdepth item (by simp),
      ih (fun other h => hfirst other (by simp [h])) (fun other h => hdepth other (by simp [h]))]
    simp [Option.map_map, Function.comp_def]

end

/-- A search for a pattern over a text is a search over its items. -/
lemma topLevelPatternMatch_items {pattern : Pattern} {itemPattern : List Item → Option ItemFound}
    (hpattern : ∀ word rest, Lexed letters.toCharacters (.word word :: rest) →
      pattern (textOf (.word word :: rest)) = (itemPattern (.word word :: rest)).map
        fun found => ⟨found.group1, found.group2, textOf found.after⟩)
    (hitems : Lexed letters.toCharacters items) :
    topLevelPatternMatch letters.toCharacters (textOf items) pattern =
      (firstAt letters.toCharacters itemPattern 0 items).map fun first =>
        ⟨⟨first.2.group1, first.2.group2, textOf first.2.after⟩, textOf first.1⟩ := by
  have hstart : WordMayStart letters .start items := by
    unfold WordMayStart
    split
    · rfl
    · trivial
  rw [topLevelPatternMatch_eq, first_items hpattern ⟨rfl, rfl⟩ hstart hitems, Option.map_map]
  rfl

section

variable {verb : String} {algorithms : List String}

lemma removeTopLevelOrClause_items (hverb : verb.toList ∈ verbs.take 2)
    (halgorithms : ∀ algorithm ∈ algorithms, algorithm ∈ conflictAlgorithms)
    (hitems : Lexed letters.toCharacters items) :
    removeTopLevelOrClause letters.toCharacters (textOf items)
        (orPattern letters.toCharacters verb algorithms) =
      match firstAt letters.toCharacters (orItems letters.toCharacters verb algorithms) 0 items with
      | none => (textOf items, none)
      | some (before, found) =>
        (textOf (before ++ .word found.group1 :: .space ' ' :: found.after),
          some (orResolution letters found.group1 found.group2)) := by
  rw [removeTopLevelOrClause,
    topLevelPatternMatch_items (fun word rest h => orPattern_items hverb halgorithms h) hitems]
  cases firstAt letters.toCharacters (orItems letters.toCharacters verb algorithms) 0 items with
  | none => rfl
  | some first => simp [orResolution, Item.text]

lemma insertOrResolution_items (hitems : Lexed letters.toCharacters items) :
    insertOrResolution letters.toCharacters (textOf items) =
      (firstAt letters.toCharacters
        (orItems letters.toCharacters "INSERT" conflictAlgorithms) 0 items).map
          fun first => ⟨.insert, letters.upperCase first.2.group2⟩ := by
  have hpattern : ∀ word rest, Lexed letters.toCharacters (.word word :: rest) → _ :=
    fun word rest h => orPattern_items insert_mem_verbs (fun _ h => h) h
  rw [insertOrResolution, insertOrPattern, topLevelPatternMatch_items hpattern hitems,
    Option.map_map]
  rfl

end

lemma rewriteTopLevelReplaceInto_items (insert : String)
    (hitems : Lexed letters.toCharacters items) :
    rewriteTopLevelReplaceInto letters.toCharacters insert (textOf items) =
      match firstAt letters.toCharacters (replaceIntoItems letters.toCharacters) 0 items with
      | none => (textOf items, none)
      | some (before, found) =>
        (textOf before ++ insert.toList ++ found.group2 ++ textOf found.after,
          some ⟨.insert, "REPLACE".toList⟩) := by
  rw [rewriteTopLevelReplaceInto,
    topLevelPatternMatch_items (fun word rest h => replaceIntoPattern_items h) hitems]
  cases firstAt letters.toCharacters (replaceIntoItems letters.toCharacters) 0 items <;> rfl

lemma startsWithInsertLike_items (hitems : Lexed letters.toCharacters items) :
    startsWithInsertLikeStatement letters.toCharacters (textOf items) = true ↔
      ∃ word rest, items.dropWhile Item.isSpace = .word word :: rest ∧
        InsertLike (letters.upperCase word) := by
  have hdropped := hitems.dropWhile (p := Item.isSpace)
  rw [startsWithInsertLike_iff, (spaces_textOf hitems).2]
  rcases textOf_head hdropped with ⟨word, rest, hword⟩ | hhead
  · rw [hword] at hdropped ⊢
    have hsame : InsertLike (letters.upperCase (textOf (.word word :: rest))) ↔
        InsertLike (letters.upperCase word) := by
      rw [textOf_cons, Item.text]
      cases htext : textOf rest with
      | nil => rw [List.append_nil]
      | cons c tail =>
        have hnext := hdropped.1.2.2
        rw [htext] at hnext
        exact insertLike_upperCase (by simpa using hnext)
    rw [hsame]
    constructor
    · exact fun h => ⟨word, rest, rfl, h⟩
    · rintro ⟨other, more, heq, h⟩
      cases heq
      exact h
  · constructor
    · intro h
      exfalso
      cases htext : textOf (items.dropWhile Item.isSpace) with
      | nil =>
        rw [htext] at h
        rcases h with h | h <;> exact absurd (List.prefix_nil.mp h) (by simp)
      | cons c tail =>
        have hc := hhead c (by rw [htext]; rfl)
        rw [htext, ← List.nil_append (c :: tail), insertLike_upperCase hc] at h
        rcases h with h | h <;> exact absurd (List.prefix_nil.mp h) (by simp)
    · rintro ⟨word, rest, hword, -⟩
      rw [hword] at hdropped hhead
      obtain ⟨c, tail, rfl, hc⟩ := text_word_head hdropped.1
      have hnot := hhead c rfl
      rw [hc] at hnot
      cases hnot

lemma stripTopLevelUpsert_items (hitems : Lexed letters.toCharacters items) :
    stripTopLevelUpsert letters.toCharacters (textOf items) =
      if startsWithInsertLikeStatement letters.toCharacters (textOf items) = true then
        (firstAt letters.toCharacters (conflictItems letters.toCharacters) 0 items).map
          fun first => rstrip (textOf first.1) ++ semicolonOf (textOf items)
      else none := by
  have hstart : WordMayStart letters .start items := by
    unfold WordMayStart
    split
    · rfl
    · trivial
  have hfound : ∀ word rest, Lexed letters.toCharacters (.word word :: rest) →
      onConflict letters.toCharacters (textOf (.word word :: rest)) =
        (conflictItems letters.toCharacters (.word word :: rest)).map id := by
    intro word rest h
    rw [onConflict_items h, Option.map_id]
    rfl
  rw [stripTopLevelUpsert_eq, first_items hfound ⟨rfl, rfl⟩ hstart hitems, Option.map_map]
  rfl

end SqliteReconcile.TextItems
