import SqliteReconcile.ConflictLayouts

/-!
# Layouts of white space

Where every gap is white space the clauses are recognised in every layout: each function that
finds and rewrites them takes two layouts of one statement to two layouts of one statement.
-/
namespace SqliteReconcile.TextItems
open StatementLogging ConflictSyntax

/-- The same items with other runs of white space between them. -/
inductive Respaced : List Item → List Item → Prop
  | nil : Respaced [] []
  | item {item : Item} {items items' : List Item} (hitem : item.isSpace = false)
      (h : Respaced items items') : Respaced (item :: items) (item :: items')
  | blanks {blanks blanks' items items' : List Item} (hne : blanks ≠ []) (hne' : blanks' ≠ [])
      (hblanks : ∀ item ∈ blanks, item.isBlank = true)
      (hblanks' : ∀ item ∈ blanks', item.isBlank = true) (h : Respaced items items') :
      Respaced (blanks ++ items) (blanks' ++ items')

variable {letters : Letters} {items items' rest rest' : List Item} {layout layout' : Layout}
variable {touching : List Item → List Item → Prop}

namespace Respaced

lemma symm (h : Respaced items items') : Respaced items' items := by
  induction h with
  | nil => exact .nil
  | item hitem h ih => exact .item hitem ih
  | blanks hne hne' hblanks hblanks' h ih => exact .blanks hne' hne hblanks' hblanks ih

lemma append {first first' : List Item} (h : Respaced first first')
    (hrest : Respaced items items') : Respaced (first ++ items) (first' ++ items') := by
  induction h with
  | nil => exact hrest
  | item hitem h ih => exact .item hitem ih
  | blanks hne hne' hblanks hblanks' h ih =>
    rw [List.append_assoc, List.append_assoc]
    exact .blanks hne hne' hblanks hblanks' ih

lemma dropWhile_blanks {blanks : List Item} (h : ∀ item ∈ blanks, item.isBlank = true)
    (items : List Item) :
    (blanks ++ items).dropWhile Item.isSpace = items.dropWhile Item.isSpace :=
  List.dropWhile_append_of_pos fun item hitem => isSpace_of_isBlank (h item hitem)

lemma dropWhile (h : Respaced items items') :
    Respaced (items.dropWhile Item.isSpace) (items'.dropWhile Item.isSpace) := by
  induction h with
  | nil => exact .nil
  | item hitem h ih =>
    rw [List.dropWhile_cons_of_neg (by simp [hitem]), List.dropWhile_cons_of_neg (by simp [hitem])]
    exact .item hitem h
  | blanks hne hne' hblanks hblanks' h ih =>
    rw [dropWhile_blanks hblanks, dropWhile_blanks hblanks']
    exact ih

lemma of_word {word : List Char} (h : Respaced (.word word :: items) items') :
    ∃ rest', items' = .word word :: rest' ∧ Respaced items rest' := by
  generalize hfirst : Item.word word :: items = first at h
  cases h with
  | nil => cases hfirst
  | item hitem h =>
    cases hfirst
    exact ⟨_, rfl, h⟩
  | blanks hne hne' hblanks hblanks' h =>
    obtain ⟨item, blanks, rfl⟩ := List.exists_cons_of_ne_nil hne
    cases hfirst
    have hblank := hblanks (.word word) (by simp)
    cases hblank

lemma of_space {c : Char} (h : Respaced (.space c :: items) items') :
    ∃ d rest', items' = .space d :: rest' := by
  generalize hfirst : Item.space c :: items = first at h
  cases h with
  | nil => cases hfirst
  | item hitem h =>
    cases hfirst
    cases hitem
  | blanks hne hne' hblanks hblanks' h =>
    rename_i blanks blanks' items items'
    obtain ⟨item, blanks', rfl⟩ := List.exists_cons_of_ne_nil hne'
    have hblank := hblanks' item (by simp)
    cases item with
    | space d => exact ⟨d, blanks' ++ items', rfl⟩
    | word _ => cases hblank
    | delimited _ _ => cases hblank
    | symbol _ => cases hblank

lemma filter_isGap (h : Respaced items items') :
    items.filter (!·.isGap) = items'.filter (!·.isGap) := by
  have hgap : ∀ blanks : List Item, (∀ item ∈ blanks, item.isBlank = true) →
      blanks.filter (!·.isGap) = [] := by
    intro blanks hblanks
    refine List.filter_eq_nil_iff.mpr fun item hitem => ?_
    simp [Item.isGap, hblanks item hitem]
  induction h with
  | nil => rfl
  | item hitem h ih => rw [List.filter_cons, List.filter_cons, ih]
  | blanks hne hne' hblanks hblanks' h ih =>
    rw [List.filter_append, List.filter_append, hgap _ hblanks, hgap _ hblanks', ih]

lemma filter_isSpace (h : Respaced items items') :
    items.filter (!·.isSpace) = items'.filter (!·.isSpace) := by
  have hspace : ∀ blanks : List Item, (∀ item ∈ blanks, item.isBlank = true) →
      blanks.filter (!·.isSpace) = [] := by
    intro blanks hblanks
    refine List.filter_eq_nil_iff.mpr fun item hitem => ?_
    simp [isSpace_of_isBlank (hblanks item hitem)]
  induction h with
  | nil => rfl
  | item hitem h ih => rw [List.filter_cons, List.filter_cons, ih]
  | blanks hne hne' hblanks hblanks' h ih =>
    rw [List.filter_append, List.filter_append, hspace _ hblanks, hspace _ hblanks', ih]

lemma isBlank_of_isSpace (h : Respaced items items') {item : Item} (hitem : item ∈ items)
    (hspace : item.isSpace = true) : item.isBlank = true := by
  induction h with
  | nil => cases hitem
  | @item other items items' hother h ih =>
    rcases List.mem_cons.mp hitem with rfl | hitem
    · rw [hother] at hspace
      cases hspace
    · exact ih hitem
  | blanks hne hne' hblanks hblanks' h ih =>
    rcases List.mem_append.mp hitem with hitem | hitem
    · exact hblanks item hitem
    · exact ih hitem

lemma spacedWord {test : List Char → Bool} {word : List Char} {spaces : List Item}
    (h : Respaced items items') (hfound : spacedWord test items = some (word, spaces, rest)) :
    ∃ spaces' rest', TextItems.spacedWord test items' = some (word, spaces', rest') ∧
      Respaced rest rest' := by
  obtain ⟨hitems, htest, c, more, hspaces, hmore⟩ := spacedWord_some hfound
  rw [hitems] at h hfound
  obtain ⟨after', rfl, hafter⟩ := h.of_word
  have hafter' := hafter
  rw [hspaces, List.cons_append] at hafter'
  obtain ⟨d, tail', rfl⟩ := hafter'.of_space
  refine ⟨.space d :: tail'.takeWhile Item.isSpace, tail'.dropWhile Item.isSpace,
    if_pos htest, ?_⟩
  have hrest : rest = (spaces ++ rest).dropWhile Item.isSpace := by
    obtain ⟨hsame, -⟩ := (Blanked.refl (spaces ++ rest)).spacedWord hfound
    exact hsame
  rw [hrest]
  exact hafter.dropWhile

lemma orItems {verb : String} {algorithms : List String} {found : ItemFound}
    (h : Respaced items items')
    (hfound : orItems letters.toCharacters verb algorithms items = some found) :
    ∃ after', TextItems.orItems letters.toCharacters verb algorithms items' =
      some ⟨found.group1, found.group2, after'⟩ ∧ Respaced found.after after' := by
  simp only [TextItems.orItems, Option.bind_eq_bind, Option.bind_eq_some_iff] at hfound
  obtain ⟨⟨group1, _, _⟩, hfirst, ⟨_, _, _⟩, hsecond, ⟨group2, _, after⟩, hthird, hfound⟩ := hfound
  obtain ⟨_, rest₁, hfirst', hrest₁⟩ := h.spacedWord hfirst
  obtain ⟨_, rest₂, hsecond', hrest₂⟩ := hrest₁.spacedWord hsecond
  obtain ⟨_, after', hthird', hafter⟩ := hrest₂.spacedWord hthird
  cases hfound
  refine ⟨after', ?_, hafter⟩
  simp only [TextItems.orItems, Option.bind_eq_bind, hfirst', hsecond', hthird', Option.bind_some]
  rfl

lemma replaceIntoItems (h : Respaced items items')
    (hfound : (replaceIntoItems letters.toCharacters items).isSome = true) :
    (TextItems.replaceIntoItems letters.toCharacters items').isSome = true := by
  obtain ⟨found, hfound⟩ := Option.isSome_iff_exists.mp hfound
  simp only [TextItems.replaceIntoItems, Option.bind_eq_bind, Option.bind_eq_some_iff] at hfound
  obtain ⟨⟨_, _, _⟩, hfirst, ⟨_, _, _⟩, hsecond, -⟩ := hfound
  obtain ⟨_, rest₁, hfirst', hrest₁⟩ := h.spacedWord hfirst
  obtain ⟨_, rest₂, hsecond', -⟩ := hrest₁.spacedWord hsecond
  simp only [TextItems.replaceIntoItems, Option.bind_eq_bind, hfirst', hsecond', Option.bind_some]
  rfl

lemma conflictItems {word : List Char} (h : Respaced items items')
    (hfound : (conflictItems letters.toCharacters (.word word :: items)).isSome = true) :
    (TextItems.conflictItems letters.toCharacters (.word word :: items')).isSome = true := by
  rw [TextItems.conflictItems] at hfound ⊢
  split at hfound
  · next hcond =>
    obtain ⟨hlength, hon, hfollows⟩ := hcond
    have hfollows' : conflictFollows letters.toCharacters items' = true := by
      unfold conflictFollows at hfollows ⊢
      split at hfollows
      · next next rest hnext =>
        have hdropped := h.dropWhile
        rw [hnext] at hdropped
        obtain ⟨rest', hnext', -⟩ := hdropped.of_word
        rw [hnext']
        exact hfollows
      · cases hfollows
    rw [if_pos ⟨hlength, hon, hfollows'⟩]
    rfl
  · cases hfound

end Respaced

/-- What is found in one of two texts that differ in white space is found in the other. -/
lemma firstAt_respaced {α : Type} {found : List Item → Option α} {depth : ℕ}
    (hfound : ∀ word items items', Respaced items items' →
      (found (.word word :: items)).isSome = true → (found (.word word :: items')).isSome = true)
    (h : Respaced items items') :
    Option.Rel (fun first first' => ∃ word rest rest', items = first.1 ++ .word word :: rest ∧
        items' = first'.1 ++ .word word :: rest' ∧ Respaced first.1 first'.1 ∧
        Respaced rest rest' ∧ found (.word word :: rest) = some first.2 ∧
        found (.word word :: rest') = some first'.2)
      (firstAt letters.toCharacters found depth items)
      (firstAt letters.toCharacters found depth items') := by
  induction h generalizing depth with
  | nil => exact .none
  | @item item items items' hitem h ih =>
    rw [firstAt, firstAt]
    by_cases hhere : (depth = 0 && item.isKeyword letters.toCharacters) = true ∧
        (found (item :: items)).isSome = true
    · obtain ⟨hkeyword, hsome⟩ := hhere
      obtain ⟨word, rfl⟩ := isKeyword_word (by simpa using (Bool.and_eq_true _ _ ▸ hkeyword).2)
      have hsome' := hfound word items items' h hsome
      obtain ⟨value, hvalue⟩ := Option.isSome_iff_exists.mp hsome
      obtain ⟨value', hvalue'⟩ := Option.isSome_iff_exists.mp hsome'
      rw [if_pos hkeyword, if_pos hkeyword, hvalue, hvalue']
      exact .some ⟨word, items, items', rfl, rfl, .nil, h, hvalue, hvalue'⟩
    · have hnone : (if (depth = 0 && item.isKeyword letters.toCharacters) = true then
          (found (item :: items)).map (([] : List Item), ·) else none) = none := by
        split
        · next hkeyword =>
          cases hvalue : found (item :: items) with
          | none => rfl
          | some value => exact absurd ⟨hkeyword, by rw [hvalue]; rfl⟩ hhere
        · rfl
      have hnone' : (if (depth = 0 && item.isKeyword letters.toCharacters) = true then
          (found (item :: items')).map (([] : List Item), ·) else none) = none := by
        split
        · next hkeyword =>
          obtain ⟨word, rfl⟩ := isKeyword_word (by simpa using (Bool.and_eq_true _ _ ▸ hkeyword).2)
          cases hvalue : found (.word word :: items') with
          | none => rfl
          | some value =>
            have hsome := hfound word items' items h.symm (by rw [hvalue]; rfl)
            exact absurd ⟨hkeyword, hsome⟩ hhere
        · rfl
      rw [hnone, hnone', Option.none_or, Option.none_or]
      have hlater := @ih (item.depthAfter depth)
      revert hlater
      generalize firstAt letters.toCharacters found (item.depthAfter depth) items = first
      generalize firstAt letters.toCharacters found (item.depthAfter depth) items' = first'
      intro hlater
      cases hlater with
      | none => exact .none
      | some hrel =>
        obtain ⟨word, rest, rest', hsplit, hsplit', hbefore, hrest, hvalue, hvalue'⟩ := hrel
        exact .some ⟨word, rest, rest', by rw [hsplit]; rfl, by rw [hsplit']; rfl,
          .item hitem hbefore, hrest, hvalue, hvalue'⟩
  | @blanks blanks blanks' items items' hne hne' hblanks hblanks' h ih =>
    have hsilent : ∀ {blanks : List Item}, (∀ item ∈ blanks, item.isBlank = true) →
        (∀ item ∈ blanks, item.isKeyword letters.toCharacters = false) ∧
          ∀ item ∈ blanks, ∀ depth, item.depthAfter depth = depth := by
      intro blanks hblanks
      refine ⟨fun item hitem => ?_, fun item hitem depth => ?_⟩
      all_goals
        have hblank := isSpace_of_isBlank (hblanks item hitem)
        cases item with
        | space _ => rfl
        | word _ => cases hblank
        | delimited _ _ => cases hblank
        | symbol _ => cases hblank
    rw [firstAt_append_silent (hsilent hblanks).1 (hsilent hblanks).2,
      firstAt_append_silent (hsilent hblanks').1 (hsilent hblanks').2]
    have hlater := @ih depth
    revert hlater
    generalize firstAt letters.toCharacters found depth items = first
    generalize firstAt letters.toCharacters found depth items' = first'
    intro hlater
    cases hlater with
    | none => exact .none
    | some hrel =>
      obtain ⟨word, rest, rest', hsplit, hsplit', hbefore, hrest, hvalue, hvalue'⟩ := hrel
      exact .some ⟨word, rest, rest', by rw [hsplit, List.append_assoc],
        by rw [hsplit', List.append_assoc], .blanks hne hne' hblanks hblanks' hbefore, hrest,
        hvalue, hvalue'⟩

/-- White space in front as well. -/
def RespacedText (items items' : List Item) : Prop :=
  ∃ blanks blanks' rest rest', items = blanks ++ rest ∧ items' = blanks' ++ rest' ∧
    (∀ item ∈ blanks, item.isBlank = true) ∧ (∀ item ∈ blanks', item.isBlank = true) ∧
      Respaced rest rest'

/-- Two texts without comments that differ in white space. -/
structure Readings (letters : Letters) (items items' : List Item) : Prop where
  respaced : RespacedText items items'
  lexed : Lexed letters.toCharacters items
  lexed' : Lexed letters.toCharacters items'
  uncommented : ∀ item ∈ items, item.isComment = false
  uncommented' : ∀ item ∈ items', item.isComment = false

lemma RespacedText.append {first first' : List Item} (h : RespacedText first first')
    (hrest : Respaced items items') : RespacedText (first ++ items) (first' ++ items') := by
  obtain ⟨blanks, blanks', rest, rest', rfl, rfl, hblanks, hblanks', hrespaced⟩ := h
  exact ⟨blanks, blanks', rest ++ items, rest' ++ items', by simp, by simp, hblanks, hblanks',
    hrespaced.append hrest⟩

lemma RespacedText.filter_isGap (h : RespacedText items items') :
    items.filter (!·.isGap) = items'.filter (!·.isGap) := by
  have hgap : ∀ blanks : List Item, (∀ item ∈ blanks, item.isBlank = true) →
      blanks.filter (!·.isGap) = [] := by
    intro blanks hblanks
    refine List.filter_eq_nil_iff.mpr fun item hitem => ?_
    simp [Item.isGap, hblanks item hitem]
  obtain ⟨blanks, blanks', rest, rest', rfl, rfl, hblanks, hblanks', hrespaced⟩ := h
  rw [List.filter_append, List.filter_append, hgap _ hblanks, hgap _ hblanks',
    hrespaced.filter_isGap]

lemma firstAt_respacedText {α : Type} {found : List Item → Option α}
    (hfound : ∀ word items items', Respaced items items' →
      (found (.word word :: items)).isSome = true → (found (.word word :: items')).isSome = true)
    (h : RespacedText items items') :
    Option.Rel (fun first first' => ∃ word rest rest', items = first.1 ++ .word word :: rest ∧
        items' = first'.1 ++ .word word :: rest' ∧ RespacedText first.1 first'.1 ∧
        Respaced rest rest' ∧ found (.word word :: rest) = some first.2 ∧
        found (.word word :: rest') = some first'.2)
      (firstAt letters.toCharacters found 0 items)
      (firstAt letters.toCharacters found 0 items') := by
  obtain ⟨blanks, blanks', rest, rest', rfl, rfl, hblanks, hblanks', hrespaced⟩ := h
  have hsilent : ∀ {blanks : List Item}, (∀ item ∈ blanks, item.isBlank = true) →
      (∀ item ∈ blanks, item.isKeyword letters.toCharacters = false) ∧
        ∀ item ∈ blanks, ∀ depth, item.depthAfter depth = depth := by
    intro blanks hblanks
    refine ⟨fun item hitem => ?_, fun item hitem depth => ?_⟩
    all_goals
      have hblank := isSpace_of_isBlank (hblanks item hitem)
      cases item with
      | space _ => rfl
      | word _ => cases hblank
      | delimited _ _ => cases hblank
      | symbol _ => cases hblank
  rw [firstAt_append_silent (hsilent hblanks).1 (hsilent hblanks).2,
    firstAt_append_silent (hsilent hblanks').1 (hsilent hblanks').2]
  have hlater := @firstAt_respaced letters _ _ _ _ 0 hfound hrespaced
  revert hlater
  generalize firstAt letters.toCharacters found 0 rest = first
  generalize firstAt letters.toCharacters found 0 rest' = first'
  intro hlater
  cases hlater with
  | none => exact .none
  | some hrel =>
    obtain ⟨word, more, more', hsplit, hsplit', hbefore, hmore, hvalue, hvalue'⟩ := hrel
    exact .some ⟨word, more, more', by rw [hsplit, List.append_assoc],
      by rw [hsplit', List.append_assoc],
      ⟨blanks, blanks', _, _, rfl, rfl, hblanks, hblanks', hbefore⟩, hmore, hvalue, hvalue'⟩

lemma Lexed.replaceWord {before : List Item} {word word' : List Char}
    (hitems : Lexed letters.toCharacters (before ++ .word word :: items))
    (hword : Lexed letters.toCharacters (.word word' :: items')) :
    Lexed letters.toCharacters (before ++ .word word' :: items') := by
  induction before with
  | nil => exact hword
  | cons item before ih =>
    refine ⟨?_, ih hitems.2⟩
    cases before with
    | cons second before =>
      have hhead := textOf_head_congr hitems.2 (before ++ .word word' :: items')
      exact hhead ▸ hitems.1
    | nil =>
      obtain ⟨c, tail, rfl, hc⟩ := text_word_head hitems.2.1
      obtain ⟨c', tail', rfl, hc'⟩ := text_word_head hword.1
      have hnext : item.WellFormed letters.toCharacters (some c) := hitems.1
      show item.WellFormed letters.toCharacters (some c')
      have hnot : ∀ {d : Char}, letters.isWordChar d = false → d ≠ c' := by
        intro d hd heq
        rw [heq, hc'] at hd
        cases hd
      cases item with
      | word word => simp [Item.WellFormed, hc] at hnext
      | space d => exact hnext
      | symbol d =>
        refine ⟨hnext.1, hnext.2.1, hnext.2.2.1, fun hdash => ?_, fun hstar => ?_⟩
        · refine hnot (not_word_of_ascii ?_ ?_ ?_) (Option.some.inj hdash.2).symm <;> decide
        · refine hnot (not_word_of_ascii ?_ ?_ ?_) (Option.some.inj hstar.2).symm <;> decide
      | delimited delimiters content =>
        cases delimiters with
        | quote delimiter =>
          refine ⟨hnext.1, hnext.2.1, fun heq => ?_⟩
          have hbreaks : Breaks letters.toCharacters delimiter :=
            breaks_of_ascii (List.mem_append_left _ hnext.2.1)
          exact hnot hbreaks.1 (Option.some.inj heq).symm
        | bracket => exact hnext
        | blockComment => exact hnext
        | lineComment terminator =>
          refine ⟨hnext.1, ?_⟩
          rcases hnext.2 with h | h | ⟨-, h⟩
          · exact .inl h
          · exact .inr (.inl h)
          · cases h

lemma orItems_some {verb : String} {algorithms : List String} {found : ItemFound}
    (h : orItems letters.toCharacters verb algorithms items = some found) :
    ∃ first word second third, items = .word found.group1 ::
        (first ++ .word word :: (second ++ .word found.group2 :: (third ++ found.after))) ∧
      spells letters.toCharacters verb.toList found.group1 = true ∧
      spells letters.toCharacters "OR".toList word = true ∧
      (∃ algorithm ∈ algorithms, spells letters.toCharacters algorithm.toList found.group2 = true) ∧
      (∃ c more, first = .space c :: more ∧ ∀ item ∈ more, item.isSpace = true) := by
  simp only [orItems, Option.bind_eq_bind, Option.bind_eq_some_iff] at h
  obtain ⟨⟨group1, first, _⟩, hfirst, ⟨word, second, _⟩, hsecond, ⟨group2, third, after⟩, hthird,
    hfound⟩ := h
  cases hfound
  obtain ⟨rfl, hspells, hspaces⟩ := spacedWord_some hfirst
  obtain ⟨hrest, hspells', -⟩ := spacedWord_some hsecond
  obtain ⟨hrest', hspells'', -⟩ := spacedWord_some hthird
  simp only at hrest hrest'
  refine ⟨first, word, second, third, ?_, hspells, hspells', List.any_eq_true.mp hspells'', hspaces⟩
  rw [hrest, hrest']

lemma lexed_word_space {word : List Char}
    (hitems : Lexed letters.toCharacters (.word word :: items))
    (hrest : Lexed letters.toCharacters rest) :
    Lexed letters.toCharacters (.word word :: .space ' ' :: rest) := by
  have hblank : isPythonSpace ' ' = true := by decide
  exact ⟨⟨hitems.1.1, hitems.1.2.1, by simp [Item.text, not_word_of_space letters hblank]⟩, hblank,
    hrest⟩

section

variable {verb : String} {algorithms : List String}

lemma length_lt_of_or {before : List Item} {word : List Char} {found : ItemFound}
    (h : orItems letters.toCharacters verb algorithms (.word word :: rest) = some found) :
    (textOf (before ++ .word found.group1 :: .space ' ' :: found.after)).length <
      (textOf (before ++ .word word :: rest)).length := by
  obtain ⟨first, second, third, fourth, hsplit, -, hor, -, c, more, hfirst, -⟩ := orItems_some h
  have hlength : second.length = 2 := by
    have hmatch : matchLetters letters.toCharacters "OR".toList second = some (second, []) := by
      simpa [spells] using hor
    have hspells := (matchLetters_some hmatch).2
    have hsame : "OR".toList.length = second.length := hspells.length_eq
    simpa using hsame.symm
  rw [hsplit, hfirst]
  simp [Item.text, hlength]
  omega

lemma removeTopLevelOrClause_readings (hverb : verb.toList ∈ verbs.take 2)
    (halgorithms : ∀ algorithm ∈ algorithms, algorithm ∈ conflictAlgorithms)
    (h : Readings letters items items') :
    ∃ after after' resolution, Readings letters after after' ∧
      removeTopLevelOrClause letters.toCharacters (textOf items)
        (orPattern letters.toCharacters verb algorithms) = (textOf after, resolution) ∧
      removeTopLevelOrClause letters.toCharacters (textOf items')
        (orPattern letters.toCharacters verb algorithms) = (textOf after', resolution) ∧
      (resolution = none → after = items ∧ after' = items') ∧
      (resolution ≠ none → (textOf after).length < (textOf items).length ∧
        (textOf after').length < (textOf items').length) := by
  rw [removeTopLevelOrClause_items hverb halgorithms h.lexed,
    removeTopLevelOrClause_items hverb halgorithms h.lexed']
  have hfound : ∀ word items items', Respaced items items' →
      (orItems letters.toCharacters verb algorithms (.word word :: items)).isSome = true →
      (orItems letters.toCharacters verb algorithms (.word word :: items')).isSome = true := by
    intro word items items' hrespaced hsome
    obtain ⟨found, hfound⟩ := Option.isSome_iff_exists.mp hsome
    obtain ⟨after', hfound', -⟩ := (Respaced.item rfl hrespaced).orItems hfound
    rw [hfound']
    rfl
  have hrel := @firstAt_respacedText letters _ _ _ _ hfound h.respaced
  revert hrel
  generalize firstAt letters.toCharacters (orItems letters.toCharacters verb algorithms) 0 items =
    first
  generalize firstAt letters.toCharacters (orItems letters.toCharacters verb algorithms) 0 items' =
    first'
  intro hrel
  cases hrel with
  | none =>
    exact ⟨items, items', none, h, rfl, rfl, fun _ => ⟨rfl, rfl⟩, fun hne => absurd rfl hne⟩
  | @some first first' hrel =>
    obtain ⟨before, found⟩ := first
    obtain ⟨before', found'⟩ := first'
    obtain ⟨word, rest, rest', rfl, rfl, hbefore, hrest, hvalue, hvalue'⟩ := hrel
    have hword : Respaced (.word word :: rest) (.word word :: rest') := .item rfl hrest
    obtain ⟨after', hfound', hafter⟩ := hword.orItems hvalue
    simp only at hbefore hvalue hvalue'
    have hsame : found' = ⟨found.group1, found.group2, after'⟩ :=
      Option.some.inj (hvalue'.symm.trans hfound')
    have hkept : ∀ {before rest : List Item} {found : ItemFound},
        orItems letters.toCharacters verb algorithms (.word word :: rest) = some found →
        Lexed letters.toCharacters (before ++ .word word :: rest) →
        (∀ item ∈ before ++ .word word :: rest, item.isComment = false) →
        Lexed letters.toCharacters (before ++ .word found.group1 :: .space ' ' :: found.after) ∧
          ∀ item ∈ before ++ .word found.group1 :: .space ' ' :: found.after,
            item.isComment = false := by
      intro before rest found hvalue hlexed hcomments
      obtain ⟨first, word', second, third, hsplit, -⟩ := orItems_some hvalue
      cases hsplit
      have htail := hlexed.append_right
      have hafter : Lexed letters.toCharacters found.after :=
        htail.2.append_right.2.append_right.2.append_right
      refine ⟨hlexed.replaceWord (lexed_word_space htail hafter), fun item hitem => ?_⟩
      simp only [List.mem_append, List.mem_cons] at hitem
      rcases hitem with hitem | rfl | rfl | hitem
      · exact hcomments item (by simp [hitem])
      · rfl
      · rfl
      · exact hcomments item (by simp [hitem])
    obtain ⟨hlexed, hcomments⟩ := hkept hvalue h.lexed h.uncommented
    obtain ⟨hlexed', hcomments'⟩ := hkept hvalue' h.lexed' h.uncommented'
    refine ⟨before ++ .word found.group1 :: .space ' ' :: found.after,
      before' ++ .word found'.group1 :: .space ' ' :: found'.after,
      some (orResolution letters found.group1 found.group2),
      ⟨?_, hlexed, hlexed', hcomments, hcomments'⟩, rfl, ?_, fun hne => ?_, fun _ => ?_⟩
    · refine hbefore.append ?_
      rw [hsame]
      have hblank : ∀ item ∈ [Item.space ' '], item.isBlank = true := by
        intro item hitem
        rw [List.mem_singleton.mp hitem]
        rfl
      exact .item rfl (.blanks (by simp) (by simp) hblank hblank hafter)
    · rw [hsame]
    · cases hne
    · exact ⟨length_lt_of_or hvalue, length_lt_of_or hvalue'⟩

lemma insertOrResolution_readings (h : Readings letters items items') :
    insertOrResolution letters.toCharacters (textOf items) =
      insertOrResolution letters.toCharacters (textOf items') := by
  have hfound : ∀ word items items', Respaced items items' →
      (orItems letters.toCharacters "INSERT" conflictAlgorithms (.word word :: items)).isSome =
        true →
      (orItems letters.toCharacters "INSERT" conflictAlgorithms (.word word :: items')).isSome =
        true := by
    intro word items items' hrespaced hsome
    obtain ⟨found, hfound⟩ := Option.isSome_iff_exists.mp hsome
    obtain ⟨after', hfound', -⟩ := (Respaced.item rfl hrespaced).orItems hfound
    rw [hfound']
    rfl
  rw [insertOrResolution_items h.lexed, insertOrResolution_items h.lexed']
  have hrel := @firstAt_respacedText letters _ _ _ _ hfound h.respaced
  revert hrel
  generalize firstAt letters.toCharacters
    (orItems letters.toCharacters "INSERT" conflictAlgorithms) 0 items = first
  generalize firstAt letters.toCharacters
    (orItems letters.toCharacters "INSERT" conflictAlgorithms) 0 items' = first'
  intro hrel
  cases hrel with
  | none => rfl
  | some hrel =>
    obtain ⟨word, rest, rest', -, -, -, hrest, hvalue, hvalue'⟩ := hrel
    have hword : Respaced (.word word :: rest) (.word word :: rest') := .item rfl hrest
    obtain ⟨after', hfound', -⟩ := hword.orItems hvalue
    have hsame := Option.some.inj (hvalue'.symm.trans hfound')
    simp [hsame]

end

def insertItems (insert : String) : List Item :=
  if insert = "INSERT" then [.word "INSERT".toList]
  else [.word "INSERT".toList, .space ' ', .word "OR".toList, .space ' ', .word "REPLACE".toList]

lemma replaceIntoItems_some {word : List Char} {found : ItemFound}
    (h : replaceIntoItems letters.toCharacters (.word word :: rest) = some found) :
    textOf rest = found.group2 ++ textOf found.after ∧
      spells letters.toCharacters "REPLACE".toList word = true ∧
      ∃ c more, rest = .space c :: more := by
  simp only [replaceIntoItems, Option.bind_eq_bind, Option.bind_eq_some_iff] at h
  obtain ⟨⟨group1, first, _⟩, hfirst, ⟨into, second, after⟩, hsecond, hfound⟩ := h
  cases hfound
  obtain ⟨hitems, hspells, c, more, hspaces, -⟩ := spacedWord_some hfirst
  obtain ⟨hrest, -, -⟩ := spacedWord_some hsecond
  cases hitems
  simp only at hrest
  refine ⟨by simp [hrest, Item.text], hspells, c, more ++ _, by rw [hspaces]; rfl⟩

lemma rewriteTopLevelReplaceInto_readings {insert : String}
    (hinsert : insert = "INSERT" ∨ insert = "INSERT OR REPLACE")
    (h : Readings letters items items') :
    ∃ after after' resolution, Readings letters after after' ∧
      rewriteTopLevelReplaceInto letters.toCharacters insert (textOf items) =
        (textOf after, resolution) ∧
      rewriteTopLevelReplaceInto letters.toCharacters insert (textOf items') =
        (textOf after', resolution) ∧
      (resolution = none → after = items ∧ after' = items') := by
  rw [rewriteTopLevelReplaceInto_items insert h.lexed,
    rewriteTopLevelReplaceInto_items insert h.lexed']
  have hfound : ∀ word items items', Respaced items items' →
      (replaceIntoItems letters.toCharacters (.word word :: items)).isSome = true →
      (replaceIntoItems letters.toCharacters (.word word :: items')).isSome = true :=
    fun word items items' hrespaced => (Respaced.item rfl hrespaced).replaceIntoItems
  have hrel := @firstAt_respacedText letters _ _ _ _ hfound h.respaced
  revert hrel
  generalize firstAt letters.toCharacters (replaceIntoItems letters.toCharacters) 0 items = first
  generalize firstAt letters.toCharacters (replaceIntoItems letters.toCharacters) 0 items' = first'
  intro hrel
  cases hrel with
  | none => exact ⟨items, items', none, h, rfl, rfl, fun _ => ⟨rfl, rfl⟩⟩
  | @some first first' hrel =>
    obtain ⟨before, found⟩ := first
    obtain ⟨before', found'⟩ := first'
    obtain ⟨word, rest, rest', rfl, rfl, hbefore, hrest, hvalue, hvalue'⟩ := hrel
    simp only at hbefore hvalue hvalue'
    have htext : textOf (insertItems insert) = insert.toList := by
      rcases hinsert with rfl | rfl <;> decide
    have hwords : ∀ {keyword : String} {c : Char} {items : List Item}, IsKeyword keyword.toList →
        Lexed letters.toCharacters (.space c :: items) →
        Lexed letters.toCharacters (.word keyword.toList :: .space c :: items) := by
      intro keyword c items hkeyword hitems
      have hchars := (@spells_self letters _ hkeyword).wordChar hkeyword.upper
      have hc : isPythonSpace c = true := hitems.1
      exact ⟨⟨hkeyword.ne_nil, hchars, by simp [Item.text, not_word_of_space letters hc]⟩, hitems⟩
    have hblank : isPythonSpace ' ' = true := by decide
    have hkept : ∀ {before rest : List Item} {found : ItemFound},
        replaceIntoItems letters.toCharacters (.word word :: rest) = some found →
        Lexed letters.toCharacters (before ++ .word word :: rest) →
        (∀ item ∈ before ++ .word word :: rest, item.isComment = false) →
        Lexed letters.toCharacters (before ++ (insertItems insert ++ rest)) ∧
          ∀ item ∈ before ++ (insertItems insert ++ rest), item.isComment = false := by
      intro before rest found hvalue hlexed hcomments
      obtain ⟨-, -, c, more, rfl⟩ := replaceIntoItems_some hvalue
      have htail := hlexed.append_right
      constructor
      · rcases hinsert with rfl | rfl
        · exact hlexed.replaceWord (hwords isKeyword_insert htail.2)
        · exact hlexed.replaceWord (hwords isKeyword_insert
            ⟨hblank, hwords isKeyword_or ⟨hblank, hwords isKeyword_replace htail.2⟩⟩)
      · intro item hitem
        rcases List.mem_append.mp hitem with hitem | hitem
        · exact hcomments item (by simp [hitem])
        rcases List.mem_append.mp hitem with hitem | hitem
        · rcases hinsert with rfl | rfl
          · rw [List.mem_singleton.mp hitem]
            rfl
          · simp only [insertItems, show ("INSERT OR REPLACE" = "INSERT") = False by decide,
              if_false, List.mem_cons, List.not_mem_nil, or_false] at hitem
            rcases hitem with rfl | rfl | rfl | rfl | rfl <;> rfl
        · exact hcomments item (by simp [hitem])
    obtain ⟨hlexed, hcomments⟩ := hkept hvalue h.lexed h.uncommented
    obtain ⟨hlexed', hcomments'⟩ := hkept hvalue' h.lexed' h.uncommented'
    have hsame : Respaced (insertItems insert) (insertItems insert) := by
      have hone : ∀ item ∈ [Item.space ' '], item.isBlank = true := by
        intro item hitem
        rw [List.mem_singleton.mp hitem]
        rfl
      rcases hinsert with rfl | rfl
      · exact .item rfl .nil
      · exact .item rfl (.blanks (by simp) (by simp) hone hone
          (.item rfl (.blanks (by simp) (by simp) hone hone (.item rfl .nil))))
    refine ⟨before ++ (insertItems insert ++ rest), before' ++ (insertItems insert ++ rest'),
      some ⟨.insert, "REPLACE".toList⟩,
      ⟨hbefore.append (hsame.append hrest), hlexed, hlexed', hcomments, hcomments'⟩, ?_, ?_,
      fun hne => ?_⟩
    · simp [htext, (replaceIntoItems_some hvalue).1]
    · simp [htext, (replaceIntoItems_some hvalue').1]
    · cases hne

lemma text_last {item : Item} {next : Option Char}
    (h : item.WellFormed letters.toCharacters next) (hspace : item.isSpace = false)
    (hcomment : item.isComment = false) :
    ∃ first c, item.text = first ++ [c] ∧ isPythonSpace c = false := by
  cases item with
  | word word =>
    obtain ⟨c, hc⟩ : ∃ c, word.getLast? = some c := ⟨_, List.getLast?_eq_some_getLast h.1⟩
    obtain ⟨first, hfirst⟩ := List.getLast?_eq_some_iff.mp hc
    exact ⟨first, c, hfirst, not_space_of_word (h.2.1 c (by simp [hfirst]))⟩
  | space c => cases hspace
  | symbol c => exact ⟨[], c, rfl, h.1.2⟩
  | delimited delimiters content =>
    cases delimiters with
    | quote delimiter =>
      have hbreaks : Breaks letters.toCharacters delimiter :=
        breaks_of_ascii (List.mem_append_left _ h.2.1)
      exact ⟨delimiter :: content, delimiter, rfl, hbreaks.2⟩
    | bracket => exact ⟨'[' :: content, ']', rfl, by decide⟩
    | lineComment terminator => cases hcomment
    | blockComment => cases hcomment

lemma rstrip_items (hitems : Lexed letters.toCharacters (items ++ rest))
    (hcomments : ∀ item ∈ items, item.isComment = false) :
    rstrip (textOf items) = textOf (items.rdropWhile Item.isSpace) := by
  induction items using List.reverseRecOn generalizing rest with
  | nil => rfl
  | append_singleton items item ih =>
    rw [List.append_assoc] at hitems
    have hlast := hitems.append_right.1
    have hlater := ih hitems fun other h => hcomments other (by simp [h])
    rw [textOf_append, rstrip_append]
    by_cases hspace : item.isSpace = true
    · rw [List.rdropWhile_concat_pos _ _ _ hspace, ← hlater]
      refine if_pos (rstrip_spaces fun c hc => ?_)
      cases item with
      | space d =>
        have hd : isPythonSpace d = true := hlast
        have hsame : c = d := by simpa [Item.text] using hc
        rw [hsame]
        exact hd
      | word _ => cases hspace
      | delimited _ _ => cases hspace
      | symbol _ => cases hspace
    · obtain ⟨first, c, htext, hc⟩ := text_last hlast (by simpa using hspace)
        (hcomments item (by simp))
      have hkept : rstrip (textOf [item]) = textOf [item] := by
        rw [textOf_cons, textOf_nil, List.append_nil, htext, rstrip]
        exact List.rdropWhile_concat_neg _ _ _ (by simp [hc])
      have hne : textOf [item] ≠ [] := by
        rw [textOf_cons, htext]
        simp
      rw [List.rdropWhile_concat_neg _ _ _ hspace, hkept, if_neg hne, textOf_append]

lemma getLast?_rstrip (hitems : Lexed letters.toCharacters items)
    (hcomments : ∀ item ∈ items, item.isComment = false) :
    (rstrip (textOf items)).getLast? =
      (items.filter (!·.isSpace)).getLast?.bind fun item => item.text.getLast? := by
  have hall : Lexed letters.toCharacters (items ++ []) := by rwa [List.append_nil]
  rw [rstrip_items hall hcomments]
  clear hall
  induction items using List.reverseRecOn with
  | nil => rfl
  | append_singleton items item ih =>
    have hlast := hitems.append_right.1
    by_cases hspace : item.isSpace = true
    · have hfirst : ∀ items : List Item, Lexed letters.toCharacters (items ++ [item]) →
          (∀ item ∈ items, item.isComment = false) → Lexed letters.toCharacters items := by
        intro items hitems hcomments
        have hbefore : Lexed letters.toCharacters (items ++ []) :=
          hitems.before hcomments trivial (by simp)
        rwa [List.append_nil] at hbefore
      rw [List.rdropWhile_concat_pos _ _ _ hspace, List.filter_append]
      simp only [List.filter_cons, hspace, Bool.not_true, Bool.false_eq_true, if_false,
        List.filter_nil, List.append_nil]
      exact ih (hfirst items hitems fun other h => hcomments other (by simp [h]))
        fun other h => hcomments other (by simp [h])
    · obtain ⟨first, c, htext, -⟩ := text_last hlast (by simpa using hspace)
        (hcomments item (by simp))
      rw [List.rdropWhile_concat_neg _ _ _ hspace, List.filter_append]
      simp [hspace, htext]

lemma RespacedText.filter_isSpace (h : RespacedText items items') :
    items.filter (!·.isSpace) = items'.filter (!·.isSpace) := by
  have hspace : ∀ blanks : List Item, (∀ item ∈ blanks, item.isBlank = true) →
      blanks.filter (!·.isSpace) = [] := by
    intro blanks hblanks
    refine List.filter_eq_nil_iff.mpr fun item hitem => ?_
    simp [isSpace_of_isBlank (hblanks item hitem)]
  obtain ⟨blanks, blanks', rest, rest', rfl, rfl, hblanks, hblanks', hrespaced⟩ := h
  rw [List.filter_append, List.filter_append, hspace _ hblanks, hspace _ hblanks',
    hrespaced.filter_isSpace]

lemma RespacedText.isBlank_of_isSpace (h : RespacedText items items') {item : Item}
    (hitem : item ∈ items) (hspace : item.isSpace = true) : item.isBlank = true := by
  obtain ⟨blanks, blanks', rest, rest', rfl, rfl, hblanks, hblanks', hrespaced⟩ := h
  rcases List.mem_append.mp hitem with hitem | hitem
  · exact hblanks item hitem
  · exact hrespaced.isBlank_of_isSpace hitem hspace

lemma RespacedText.symm (h : RespacedText items items') : RespacedText items' items := by
  obtain ⟨blanks, blanks', rest, rest', hitems, hitems', hblanks, hblanks', hrespaced⟩ := h
  exact ⟨blanks', blanks, rest', rest, hitems', hitems, hblanks', hblanks, hrespaced.symm⟩

lemma semicolonOf_readings (h : Readings letters items items') :
    semicolonOf (textOf items) = semicolonOf (textOf items') := by
  have hsuffix : ∀ text : List Char, [';'] <:+ text ↔ text.getLast? = some ';' := by
    intro text
    rw [List.getLast?_eq_some_iff]
    exact exists_congr fun first => eq_comm
  have hlast : (rstrip (textOf items)).getLast? = (rstrip (textOf items')).getLast? := by
    rw [getLast?_rstrip h.lexed h.uncommented, getLast?_rstrip h.lexed' h.uncommented',
      h.respaced.filter_isSpace]
  rw [semicolonOf, semicolonOf]
  exact if_congr (by rw [hsuffix, hsuffix, hlast]) rfl rfl

lemma startsWith_of_respaced (hitems : Lexed letters.toCharacters items)
    (hitems' : Lexed letters.toCharacters items') (h : RespacedText items items')
    (hstarts : startsWithInsertLikeStatement letters.toCharacters (textOf items) = true) :
    startsWithInsertLikeStatement letters.toCharacters (textOf items') = true := by
  obtain ⟨word, rest, hword, hlike⟩ := (startsWithInsertLike_items hitems).mp hstarts
  obtain ⟨blanks, blanks', tail, tail', rfl, rfl, hblanks, hblanks', hrespaced⟩ := h
  rw [Respaced.dropWhile_blanks hblanks] at hword
  have hdropped := hrespaced.dropWhile
  rw [hword] at hdropped
  obtain ⟨rest', hword', -⟩ := hdropped.of_word
  refine (startsWithInsertLike_items hitems').mpr ⟨word, rest', ?_, hlike⟩
  rw [Respaced.dropWhile_blanks hblanks', hword']

lemma filter_rdropWhile (h : ∀ item ∈ items, item.isSpace = true → item.isBlank = true) :
    (items.rdropWhile Item.isSpace).filter (!·.isGap) = items.filter (!·.isGap) := by
  induction items using List.reverseRecOn with
  | nil => rfl
  | append_singleton items item ih =>
    by_cases hspace : item.isSpace = true
    · have hgap : item.isGap = true := by
        rw [Item.isGap, h item (by simp) hspace, Bool.true_or]
      rw [List.rdropWhile_concat_pos _ _ _ hspace, List.filter_append,
        ih fun other hother => h other (by simp [hother])]
      simp [hgap]
    · rw [List.rdropWhile_concat_neg _ _ _ hspace]

lemma withoutUpsert_readings (h : Readings letters items items') :
    ∃ after after' stripped,
      withoutUpsert letters.toCharacters (textOf items) = (after, stripped) ∧
      withoutUpsert letters.toCharacters (textOf items') = (after', stripped) ∧
      SameTokens letters after after' := by
  have hsame : SameTokens letters (textOf items) (textOf items') :=
    ⟨items, items', rfl, rfl, h.lexed, h.lexed', h.respaced.filter_isGap⟩
  rw [withoutUpsert_eq, withoutUpsert_eq, stripTopLevelUpsert_items h.lexed,
    stripTopLevelUpsert_items h.lexed']
  by_cases hstarts : startsWithInsertLikeStatement letters.toCharacters (textOf items) = true
  · have hstarts' := startsWith_of_respaced h.lexed h.lexed' h.respaced hstarts
    rw [if_pos hstarts, if_pos hstarts']
    have hfound : ∀ word items items', Respaced items items' →
        (conflictItems letters.toCharacters (.word word :: items)).isSome = true →
        (conflictItems letters.toCharacters (.word word :: items')).isSome = true :=
      fun word items items' hrespaced => hrespaced.conflictItems
    have hrel := @firstAt_respacedText letters _ _ _ _ hfound h.respaced
    revert hrel
    generalize firstAt letters.toCharacters (conflictItems letters.toCharacters) 0 items = first
    generalize firstAt letters.toCharacters (conflictItems letters.toCharacters) 0 items' = first'
    intro hrel
    cases hrel with
    | none => exact ⟨_, _, false, rfl, rfl, hsame⟩
    | @some first first' hrel =>
      obtain ⟨before, found⟩ := first
      obtain ⟨before', found'⟩ := first'
      obtain ⟨word, rest, rest', hsplit, hsplit', hbefore, -⟩ := hrel
      simp only at hsplit hsplit' hbefore
      refine ⟨_, _, true, rfl, rfl, ?_⟩
      rw [semicolonOf_readings h]
      obtain ⟨semicolon, hsemicolon, hlexed⟩ : ∃ semicolon : List Item,
          textOf semicolon = semicolonOf (textOf items') ∧
            (semicolon = [] ∨ semicolon = [.symbol ';']) := by
        rw [semicolonOf]
        split
        · exact ⟨[.symbol ';'], rfl, .inr rfl⟩
        · exact ⟨[], rfl, .inl rfl⟩
      have hread : ∀ {before rest : List Item},
          Lexed letters.toCharacters (before ++ .word word :: rest) →
          (∀ item ∈ before ++ .word word :: rest, item.isComment = false) →
          textOf (before.rdropWhile Item.isSpace ++ semicolon) =
              rstrip (textOf before) ++ semicolonOf (textOf items') ∧
            Lexed letters.toCharacters (before.rdropWhile Item.isSpace ++ semicolon) := by
        intro before rest hbefore hcomments
        have hcomments' : ∀ item ∈ before, item.isComment = false := fun item hitem =>
          hcomments item (by simp [hitem])
        rw [textOf_append, hsemicolon, rstrip_items hbefore hcomments']
        refine ⟨rfl, ?_⟩
        obtain ⟨spaces, hspaces⟩ := List.rdropWhile_prefix Item.isSpace before
        have hsplit : Lexed letters.toCharacters
            (before.rdropWhile Item.isSpace ++ (spaces ++ .word word :: rest)) := by
          rw [← List.append_assoc, hspaces]
          exact hbefore
        refine hsplit.before (fun item hitem => hcomments' item ?_) ?_ ?_
        · rw [← hspaces]
          exact List.mem_append_left _ hitem
        · rcases hlexed with rfl | rfl
          · trivial
          · have hbreaks : Breaks letters.toCharacters ';' :=
              ⟨not_word_of_ascii (by decide) (by decide) (by decide), by decide⟩
            have hplain : (Token.plain ';').WellFormed none :=
              ⟨by decide, by decide, by simp, by simp⟩
            exact ⟨⟨hbreaks, hplain⟩, trivial⟩
        · intro c hc
          rcases hlexed with rfl | rfl
          · cases hc
          · cases hc
            exact endsTokens_ascii (by simp)
      obtain ⟨htext, hlexed₁⟩ := hread (hsplit ▸ h.lexed) (hsplit ▸ h.uncommented)
      obtain ⟨htext', hlexed₂⟩ := hread (hsplit' ▸ h.lexed') (hsplit' ▸ h.uncommented')
      refine ⟨_, _, htext, htext', hlexed₁, hlexed₂, ?_⟩
      rw [List.filter_append, List.filter_append,
        filter_rdropWhile fun item hitem => hbefore.isBlank_of_isSpace hitem,
        filter_rdropWhile fun item hitem => hbefore.symm.isBlank_of_isSpace hitem,
        hbefore.filter_isGap]
  · have hstarts' : startsWithInsertLikeStatement letters.toCharacters (textOf items') ≠ true :=
      fun hstarts' => hstarts (startsWith_of_respaced h.lexed' h.lexed h.respaced.symm hstarts')
    rw [if_neg hstarts, if_neg hstarts']
    exact ⟨_, _, false, rfl, rfl, hsame⟩

end SqliteReconcile.TextItems
