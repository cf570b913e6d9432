import SqliteReconcile.ClauseRewrites

/-!
# Rewriting around a place

A clause is rewritten before or after a place whose content can be replaced. The scanner reaches
the place as before, and the first ON CONFLICT stays where it was.
-/
namespace SqliteReconcile.ConflictSyntax
open StatementLogging

variable {letters : Letters} {α : Type} {found : List Char → Option α} {s : Scan}
variable {text rest after after' : List Char}

/-- The first keyword stands after white space alone. -/
def AtStart (letters : Letters) (found : List Char → Option α) (s : Scan)
    (after text : List Char) : Prop :=
  ∃ before value, firstWithin letters.toCharacters found s after text = some (before, value) ∧
    before.dropWhile isPythonSpace = []

lemma firstWithin_congr
    (h : ∀ part, part ≠ [] → part <:+ text → found (part ++ after) = found (part ++ after')) :
    firstWithin letters.toCharacters found s after text =
      firstWithin letters.toCharacters found s after' text := by
  induction text generalizing s with
  | nil => rfl
  | cons c text ih =>
    have hrest : ∀ next next', text ≠ [] ∨ next = next' →
        firstWithin letters.toCharacters found (s.step c (text.head?.or next)) after text =
          firstWithin letters.toCharacters found (s.step c (text.head?.or next')) after' text := by
      intro next next' hnext
      rw [ih fun part hne hpart => h part hne (hpart.trans (List.suffix_cons c text))]
      rcases hnext with hne | rfl
      · obtain ⟨d, rest, rfl⟩ := List.exists_cons_of_ne_nil hne
        rfl
      · rfl
    rw [firstWithin, firstWithin, h (c :: text) (by simp) List.suffix_rfl]
    by_cases hempty : text = []
    · subst hempty
      rfl
    · rw [List.head?_append, List.head?_append, hrest _ _ (.inl hempty)]

lemma atStart_cons {c : Char} :
    AtStart letters found s after (c :: text) ↔
      s.atKeyword letters.toCharacters c = true ∧ (found (c :: text ++ after)).isSome = true ∨
      isPythonSpace c = true ∧
        AtStart letters found (s.step c (text ++ after).head?) after text := by
  rw [AtStart, firstWithin]
  by_cases hfound : s.atKeyword letters.toCharacters c = true ∧
      (found (c :: text ++ after)).isSome = true
  · obtain ⟨hkeyword, hsome⟩ := hfound
    obtain ⟨value, hvalue⟩ := Option.isSome_iff_exists.mp hsome
    rw [if_pos hkeyword, hvalue]
    exact iff_of_true ⟨[], value, rfl, rfl⟩ (.inl ⟨hkeyword, rfl⟩)
  · have hfirst : (if s.atKeyword letters.toCharacters c = true then
        (found (c :: text ++ after)).map (([] : List Char), ·) else none) = none := by
      by_cases hkeyword : s.atKeyword letters.toCharacters c = true
      · have hnone : found (c :: text ++ after) = none :=
          Option.not_isSome_iff_eq_none.mp fun hsome => hfound ⟨hkeyword, hsome⟩
        rw [if_pos hkeyword, hnone]
        rfl
      · rw [if_neg hkeyword]
    rw [hfirst, Option.none_or, or_iff_right hfound]
    constructor
    · rintro ⟨before, value, hlater, hspaces⟩
      obtain ⟨⟨later, value'⟩, hlater', hpair⟩ := Option.map_eq_some_iff.mp hlater
      cases hpair
      by_cases hc : isPythonSpace c = true
      · rw [List.dropWhile_cons_of_pos hc] at hspaces
        exact ⟨hc, later, value', hlater', hspaces⟩
      · rw [List.dropWhile_cons_of_neg hc] at hspaces
        cases hspaces
    · rintro ⟨hc, before, value, hlater, hspaces⟩
      refine ⟨c :: before, value, by rw [hlater]; rfl, ?_⟩
      rw [List.dropWhile_cons_of_pos hc, hspaces]

lemma atStart_nil : ¬ AtStart letters found s after [] := by
  rintro ⟨before, value, h, -⟩
  cases h

lemma atStart_congr (h : ∀ part, part ≠ [] → part <:+ text →
      (found (part ++ after)).isSome = (found (part ++ after')).isSome) :
    AtStart letters found s after text ↔ AtStart letters found s after' text := by
  induction text generalizing s with
  | nil => exact iff_of_false atStart_nil atStart_nil
  | cons c text ih =>
    have hrest := fun s => ih (s := s) fun part hne hpart =>
      h part hne (hpart.trans (List.suffix_cons c text))
    rw [atStart_cons, atStart_cons, h (c :: text) (by simp) List.suffix_rfl]
    by_cases hempty : text = []
    · subst hempty
      simp [atStart_nil]
    · obtain ⟨d, text', rfl⟩ := List.exists_cons_of_ne_nil hempty
      rw [hrest]
      rfl

lemma atStart_append {c : Char} {before : List Char} (hc : isPythonSpace c = false)
    (hnone : found (c :: rest ++ after) = none) :
    AtStart letters found s after (before ++ c :: rest) ↔
      AtStart letters found s (c :: rest ++ after) before := by
  constructor
  · rintro ⟨first, value, hfirst, hspaces⟩
    rw [firstWithin_append, Option.or_eq_some_iff] at hfirst
    rcases hfirst with hfirst | ⟨-, hlater⟩
    · exact ⟨first, value, hfirst, hspaces⟩
    · obtain ⟨⟨later, value'⟩, hlater', hpair⟩ := Option.map_eq_some_iff.mp hlater
      cases hpair
      have hspaces' : later.dropWhile isPythonSpace = [] := by
        have hall : ∀ d ∈ before ++ later, isPythonSpace d = true :=
          List.dropWhile_eq_nil_iff.mp hspaces
        exact List.dropWhile_eq_nil_iff.mpr fun d hd => hall d (by simp [hd])
      have hat : AtStart letters found (s.over (c :: rest ++ after) before) after (c :: rest) :=
        ⟨later, value', hlater', hspaces'⟩
      rcases atStart_cons.mp hat with ⟨-, hsome⟩ | ⟨hspace, -⟩
      · rw [hnone] at hsome
        cases hsome
      · rw [hc] at hspace
        cases hspace
  · rintro ⟨first, value, hfirst, hspaces⟩
    exact ⟨first, value, by rw [firstWithin_append, hfirst]; rfl, hspaces⟩

def verbs : List (List Char) := ["INSERT".toList, "UPDATE".toList, "REPLACE".toList]

/-- A keyword that is not read as ON. -/
structure NotOn (keyword : List Char) : Prop extends IsKeyword keyword where
  length : 2 ≤ keyword.length
  on : keyword.take 2 ≠ "ON".toList

/-- A clause that starts with a word. -/
inductive StartsClause (letters : Letters) (word : List Char) : List Char → Prop
  | intro {verb spaces tail : List Char} {keywords : List (List Char)} (hverb : verb ∈ verbs)
      (hword : Spells letters verb word) (hne : spaces ≠ [])
      (hspaces : ∀ c ∈ spaces, isPythonSpace c = true) (htail : Clause letters keywords tail)
      (hkeywords : ∀ keyword ∈ keywords, NotOn keyword) :
      StartsClause letters word (word ++ (spaces ++ tail))

lemma notOn_verb {verb : List Char} (h : verb ∈ verbs) : NotOn verb := by
  simp only [verbs, List.mem_cons, List.not_mem_nil, or_false] at h
  rcases h with rfl | rfl | rfl
  · exact ⟨isKeyword_insert, by simp, by simp⟩
  · exact ⟨isKeyword_update, by simp, by simp⟩
  · exact ⟨isKeyword_replace, by simp, by simp⟩

namespace StartsClause

variable {word clause : List Char}

lemma head (h : StartsClause letters word clause) :
    ∃ c more, clause = c :: more ∧ letters.isWordChar c = true ∧ isPythonSpace c = false ∧
      ∀ rest, (clause ++ rest).takeWhile letters.isWordChar = word := by
  cases h with
  | @intro verb spaces tail keywords hverb hword hne hspaces htail hkeywords =>
  have hkeyword := (notOn_verb hverb).toIsKeyword
  have hwords := hword.wordChar hkeyword.upper
  obtain ⟨-, -, c, word', -, rfl, -, -⟩ := hword.head hkeyword
  have hc := hwords c (by simp)
  refine ⟨c, _, rfl, hc, ?_, fun rest => ?_⟩
  · by_contra hspace
    rw [not_word_of_space letters (by simpa using hspace)] at hc
    cases hc
  · obtain ⟨space, spaces, rfl⟩ := List.exists_cons_of_ne_nil hne
    have hspace := not_word_of_space letters (hspaces space (by simp))
    have hread := (takeWhile_stops hspace (c :: word') (spaces ++ tail ++ rest)).1
    rw [List.takeWhile_eq_self_iff.mpr hwords] at hread
    simpa only [List.append_assoc, List.cons_append] using hread

lemma passes (h : StartsClause letters word clause) (hs : s.Between) (after : List Char) :
    ∃ keywords, keywords ≠ [] ∧ (∀ keyword ∈ keywords, NotOn keyword) ∧
      s.PassesClause letters after keywords clause := by
  obtain ⟨hverb, hword, hne, hspaces, htail, hkeywords⟩ := h
  have hkeyword := notOn_verb hverb
  refine ⟨_, List.cons_ne_nil _ _, ?_,
    passesClause (.cons hkeyword.toIsKeyword hword hne hspaces htail) hs⟩
  intro keyword hmem
  rcases List.mem_cons.mp hmem with rfl | hmem
  · exact hkeyword
  · exact hkeywords keyword hmem

lemma noConflict_within (h : StartsClause letters word clause) (hs : s.Between) :
    firstWithin letters.toCharacters (onConflict letters.toCharacters) s after clause = none := by
  obtain ⟨keywords, -, hkeywords, hpasses⟩ := h.passes hs after
  refine hpasses.silent _ _ fun keyword hmem word hword rest => ?_
  have hnot := hkeywords keyword hmem
  exact onConflict_spells hnot.toIsKeyword hnot.length hnot.on hword rest

lemma onConflict_none (h : StartsClause letters word clause) (rest : List Char) :
    onConflict letters.toCharacters (clause ++ rest) = none := by
  obtain ⟨hverb, hword, -, -, -, -⟩ := h
  have hnot := notOn_verb hverb
  rw [List.append_assoc]
  exact onConflict_spells hnot.toIsKeyword hnot.length hnot.on hword _

lemma ends (h : StartsClause letters word clause)
    (hlast : text.getLast?.all (!letters.isWordChar ·) = true) (rest : List Char) :
    ∃ c more, clause ++ rest = c :: more ∧ Ends letters text c more := by
  obtain ⟨c, more, hclause, hword, hspace, htake⟩ := h.head
  refine ⟨c, more ++ rest, by rw [hclause]; rfl, hspace, .inr hlast, ?_⟩
  have hread := htake rest
  rw [hclause, List.cons_append] at hread
  rw [hread]
  obtain ⟨hverb, hspells, -, -, -, -⟩ := h
  have hlength := (hspells.upperCase (notOn_verb hverb).upper).length_eq
  intro hconflict
  rw [hconflict] at hlength
  simp only [verbs, List.mem_cons, List.not_mem_nil, or_false] at hverb
  rcases hverb with rfl | rfl | rfl
  all_goals simp at hlength

lemma noInto (h : StartsClause letters word clause) (rest : List Char) :
    NoInto letters (clause ++ rest) := by
  obtain ⟨c, more, hclause, -, hspace, -⟩ := h.head
  constructor
  · intro d hd
    rw [hclause] at hd
    cases hd
    exact hspace
  · obtain ⟨hverb, hspells, -, -, -, -⟩ := h
    rw [List.append_assoc]
    refine matchLetters_spells (notOn_verb hverb).upper isKeyword_into.upper hspells ?_
    simp only [verbs, List.mem_cons, List.not_mem_nil, or_false] at hverb
    rcases hverb with rfl | rfl | rfl
    all_goals simp [List.cons_prefix_cons]

end StartsClause

lemma replaceInto_none {verb word spaces : List Char} (hverb : verb ∈ verbs.take 2)
    (hword : Spells letters verb word) :
    replaceIntoPattern letters.toCharacters (word ++ (spaces ++ rest)) = none := by
  rw [replaceIntoPattern_eq, matchLetters_spells (notOn_verb (List.mem_of_mem_take hverb)).upper
    isKeyword_replace.upper hword]
  · rfl
  · simp only [verbs, List.take, List.mem_cons, List.not_mem_nil, or_false] at hverb
    rcases hverb with rfl | rfl
    all_goals simp [List.cons_prefix_cons]

lemma over_word {c c' : Char} (hc : letters.isWordChar c = true)
    (hc' : letters.isWordChar c' = true)
    (hlast : text.getLast?.all (!letters.isWordChar ·) = true) (more more' : List Char) :
    s.over (c :: more) text = s.over (c' :: more') text := by
  induction text generalizing s with
  | nil => rfl
  | cons d text ih =>
    cases text with
    | cons e text =>
      rw [Scan.over, Scan.over]
      exact ih (by simpa using hlast)
    | nil =>
      have hd : letters.isWordChar d = false := by simpa using hlast
      have hno : ∀ e, letters.isWordChar e = false → some c ≠ some e ∧ some c' ≠ some e := by
        intro e he
        constructor
        · rintro ⟨⟩
          rw [he] at hc
          cases hc
        · rintro ⟨⟩
          rw [he] at hc'
          cases hc'
      have hdash := hno '-' (not_word_of_ascii (by decide) (by decide) (by decide))
      have hslash := hno '/' (not_word_of_ascii (by decide) (by decide) (by decide))
      have hstar := hno '*' (not_word_of_ascii (by decide) (by decide) (by decide))
      have hself := hno d hd
      show s.step d (some c) = s.step d (some c')
      unfold Scan.step
      cases s.inside with
      | quote delimiter =>
        by_cases hdelimiter : d = delimiter
        · subst hdelimiter
          simp only [hself.1, hself.2, if_false]
        · simp only [hdelimiter, if_false]
      | _ => simp only [hdash.1, hdash.2, hslash.1, hslash.2, hstar.1, hstar.2, and_false, if_false]

/-- The scanner stands between two tokens where the place opens, and what follows the place may
follow it. -/
structure Stage (place : Place) (before after : List Char) : Prop where
  between : (Scan.start.over place.opening before).Between
  stands : place.Stands after.head?

def afterPlace (place : Place) (before : List Char) : Scan :=
  ⟨0, none, (Scan.start.over place.opening before).depth, .code, false⟩

def around (place : Place) (before after content : List Char) : List Char :=
  before ++ (place.text content ++ after)

variable {place : Place} {before before' content : List Char}

lemma head?_text (place : Place) (content after : List Char) :
    (place.text content ++ after).head? = place.opening.head? := by
  obtain ⟨c, rest, hopening⟩ := List.exists_cons_of_ne_nil (opening_ne_nil place)
  rw [Place.text, hopening]
  rfl

lemma stops_text (letters : Letters) (h : place.Stands after.head?) (content : List Char) :
    Stops letters (place.text content ++ after) := by
  obtain ⟨c, rest, hopening, hbreaks⟩ := breaks_opening letters.toCharacters h
  exact ⟨c, rest ++ (content ++ place.closing ++ after), by simp [Place.text, hopening], hbreaks⟩

lemma stops_opening (letters : Letters) (h : place.Stands after.head?) :
    Stops letters place.opening := by
  obtain ⟨c, rest, hopening, hbreaks⟩ := breaks_opening letters.toCharacters h
  exact ⟨c, rest, hopening, hbreaks⟩

lemma first_around (h : Stage place before after) (hholds : place.Holds content) :
    firstWithin letters.toCharacters found .start [] (around place before after content) =
      (firstWithin letters.toCharacters found .start (place.text content ++ after) before).or
        ((firstWithin letters.toCharacters found (afterPlace place before) [] after).map
          fun first => (before ++ (place.text content ++ first.1), first.2)) := by
  have hover : Scan.start.over (place.text content ++ after ++ []) before =
      Scan.start.over place.opening before :=
    Scan.over_congr (by rw [List.append_nil, head?_text]) before
  have hskips : (Scan.start.over place.opening before).Skips letters.toCharacters (after ++ [])
      (place.text content) := skips_place h.between hholds (by simpa using h.stands)
  rw [around, firstWithin_append, firstWithin_append, hover, hskips.silent, Option.none_or,
    List.append_nil, List.append_nil]
  by_cases hempty : after = []
  · subst hempty
    rfl
  · have hagrees : ((Scan.start.over place.opening before).over after (place.text content)).Agrees
        letters.toCharacters (afterPlace place before) := by
      have hbetween := hskips.between (by simpa using hempty)
      have hdepth := hskips.depth (by simpa using hempty)
      rw [List.append_nil] at hbetween hdepth
      exact ⟨hdepth, hbetween.inside, hbetween.consumed, afterWord_place h.stands hempty⟩
    rw [hagrees.firstWithin, Option.map_map]
    rfl

/-- Nothing that the place holds decides whether ON CONFLICT stands before it. -/
lemma ends_stops (h : Stops letters after) (text : List Char) :
    ∃ c more, after = c :: more ∧ Ends letters text c more := by
  obtain ⟨c, more, rfl, hword, hspace⟩ := h
  refine ⟨c, more, rfl, hspace, .inl hword, ?_⟩
  rw [List.takeWhile_cons_of_neg (by simp [hword])]
  intro hempty
  cases hempty

lemma conflict_congr (h : ∀ part, part ≠ [] → part <:+ text →
      (∃ c more, after = c :: more ∧ Ends letters part c more) ∧
        ∃ c more, after' = c :: more ∧ Ends letters part c more) :
    ∀ part, part ≠ [] → part <:+ text →
      onConflict letters.toCharacters (part ++ after) =
        onConflict letters.toCharacters (part ++ after') := by
  intro part hne hpart
  obtain ⟨⟨c, more, rfl, hends⟩, ⟨c', more', rfl, hends'⟩⟩ := h part hne hpart
  rw [onConflict_ends hne hends, onConflict_ends hne hends']

lemma last_of_suffix {part : List Char} (hlast : text.getLast?.all (!letters.isWordChar ·) = true)
    (hne : part ≠ []) (hpart : part <:+ text) :
    part.getLast?.all (!letters.isWordChar ·) = true := by
  obtain ⟨first, rfl⟩ := hpart
  obtain ⟨c, hc⟩ : ∃ c, part.getLast? = some c := ⟨_, List.getLast?_eq_some_getLast hne⟩
  rw [List.getLast?_append, hc] at hlast
  rw [hc]
  exact hlast

/-- What a rewritten clause leaves as it was: where the scanner stands at the place, and where the
first ON CONFLICT stands. -/
structure Kept (letters : Letters) (place : Place) (before after before' after' : List Char) :
    Prop where
  stage : Stage place before' after'
  depth : (Scan.start.over place.opening before').depth =
    (Scan.start.over place.opening before).depth
  noConflict :
    firstWithin letters.toCharacters (onConflict letters.toCharacters) .start place.opening
        before' = none ↔
      firstWithin letters.toCharacters (onConflict letters.toCharacters) .start place.opening
        before = none
  atCut : AtStart letters (onConflict letters.toCharacters) (afterPlace place before') [] after' ↔
    AtStart letters (onConflict letters.toCharacters) (afterPlace place before) [] after

lemma Kept.refl (h : Stage place before after) : Kept letters place before after before after :=
  ⟨h, rfl, .rfl, .rfl⟩

lemma Kept.trans {before'' after'' : List Char} (h : Kept letters place before after before' after')
    (h' : Kept letters place before' after' before'' after'') :
    Kept letters place before after before'' after'' :=
  ⟨h'.stage, h'.depth.trans h.depth, h'.noConflict.trans h.noConflict, h'.atCut.trans h.atCut⟩

section

variable {first old new word word' : List Char}

lemma agrees_clause (hold : StartsClause letters word old) (hnew : StartsClause letters word' new)
    (hlast : first.getLast?.all (!letters.isWordChar ·) = true)
    (hs : (s.over old first).Between) (hafter : after ≠ []) :
    ((s.over (old ++ after) first).over after old).Agrees letters.toCharacters
      ((s.over (new ++ after) first).over after new) := by
  obtain ⟨c, more, hcons, hc, -, -⟩ := hold.head
  obtain ⟨c', more', hcons', hc', -, -⟩ := hnew.head
  have hover : s.over (old ++ after) first = s.over old first :=
    Scan.over_congr (by rw [hcons]; rfl) first
  have hsame : s.over (new ++ after) first = s.over old first := by
    rw [hcons, hcons']
    exact over_word hc' hc hlast _ _
  obtain ⟨keywords, hne, -, hpasses⟩ := hold.passes hs after
  obtain ⟨keywords', hne', -, hpasses'⟩ := hnew.passes hs after
  rw [hover, hsame]
  constructor
  · rw [hpasses.depth hafter, hpasses'.depth hafter]
  · rw [(hpasses.between hafter).inside, (hpasses'.between hafter).inside]
  · rw [(hpasses.between hafter).consumed, (hpasses'.between hafter).consumed]
  · exact (hpasses.afterWord hne).trans (hpasses'.afterWord hne').symm

lemma over_clause (text : List Char) :
    s.over after (first ++ (text ++ rest)) =
      ((s.over (text ++ (rest ++ after)) first).over (rest ++ after) text).over after rest := by
  rw [Scan.over_append, Scan.over_append, List.append_assoc]

lemma noConflict_clause (h : StartsClause letters word text)
    (hs : (s.over (text ++ (rest ++ after)) first).Between) :
    firstWithin letters.toCharacters (onConflict letters.toCharacters) s after
        (first ++ (text ++ rest)) = none ↔
      firstWithin letters.toCharacters (onConflict letters.toCharacters) s
          (text ++ (rest ++ after)) first = none ∧
        firstWithin letters.toCharacters (onConflict letters.toCharacters)
          ((s.over (text ++ (rest ++ after)) first).over (rest ++ after) text) after rest = none := by
  rw [firstWithin_append, firstWithin_append, List.append_assoc, h.noConflict_within hs,
    Option.none_or, Option.or_eq_none_iff, Option.map_eq_none_iff, Option.map_eq_none_iff]

lemma conflict_clauses (hold : StartsClause letters word old)
    (hnew : StartsClause letters word' new)
    (hlast : first.getLast?.all (!letters.isWordChar ·) = true) (rest : List Char) :
    ∀ part, part ≠ [] → part <:+ first →
      onConflict letters.toCharacters (part ++ (old ++ rest)) =
        onConflict letters.toCharacters (part ++ (new ++ rest)) :=
  conflict_congr fun _ hne hpart =>
    ⟨hold.ends (last_of_suffix hlast hne hpart) rest,
      hnew.ends (last_of_suffix hlast hne hpart) rest⟩

lemma kept_before (hold : StartsClause letters word old) (hnew : StartsClause letters word' new)
    (hlast : first.getLast?.all (!letters.isWordChar ·) = true)
    (hs : (Scan.start.over old first).Between)
    (h : Stage place (first ++ (old ++ rest)) after) :
    Kept letters place (first ++ (old ++ rest)) after (first ++ (new ++ rest)) after := by
  have hne : rest ++ place.opening ≠ [] := by simp [opening_ne_nil]
  have hagrees := agrees_clause hold hnew hlast hs hne
  have hafter : (Scan.start.over place.opening (first ++ (old ++ rest))).Agrees
      letters.toCharacters (Scan.start.over place.opening (first ++ (new ++ rest))) := by
    rw [over_clause, over_clause]
    exact hagrees.over rest
  have hdepth := hafter.depth.symm
  refine ⟨⟨⟨?_, ?_⟩, h.stands⟩, hdepth, ?_, ?_⟩
  · rw [← hafter.inside]
    exact h.between.inside
  · rw [← hafter.consumed]
    exact h.between.consumed
  · obtain ⟨c, more, hcons, hc, -, -⟩ := hold.head
    obtain ⟨c', more', hcons', hc', -, -⟩ := hnew.head
    have hover : Scan.start.over (old ++ (rest ++ place.opening)) first =
        Scan.start.over old first := Scan.over_congr (by rw [hcons]; rfl) first
    have hsame : Scan.start.over (new ++ (rest ++ place.opening)) first =
        Scan.start.over old first := by
      rw [hcons, hcons']
      exact over_word hc' hc hlast _ _
    rw [noConflict_clause hnew (by rw [hsame]; exact hs),
      noConflict_clause hold (by rw [hover]; exact hs),
      firstWithin_congr (conflict_clauses hnew hold hlast _), hagrees.firstWithin]
  · rw [afterPlace, afterPlace, hdepth]

lemma stands_word {c c' : Char} (hc' : letters.isWordChar c' = true)
    (h : place.Stands (some c)) : place.Stands (some c') := by
  cases place with
  | group => trivial
  | delimited delimiters =>
    cases delimiters with
    | quote delimiter =>
      refine ⟨h.1, ?_⟩
      rintro ⟨⟩
      have hbreaks : Breaks letters.toCharacters c' :=
        breaks_of_ascii (List.mem_append_left _ h.1)
      rw [hbreaks.1] at hc'
      cases hc'
    | bracket => trivial
    | lineComment terminator =>
      rcases h with h | h | ⟨-, hnone⟩
      · exact .inl h
      · exact .inr (.inl h)
      · cases hnone
    | blockComment => trivial

lemma kept_after (hold : StartsClause letters word old) (hnew : StartsClause letters word' new)
    (hlast : first.getLast?.all (!letters.isWordChar ·) = true)
    (h : Stage place before (first ++ (old ++ rest))) :
    Kept letters place before (first ++ (old ++ rest)) before (first ++ (new ++ rest)) := by
  obtain ⟨c, more, hcons, hc, hspace, -⟩ := hold.head
  obtain ⟨c', more', hcons', hc', hspace', -⟩ := hnew.head
  refine ⟨⟨h.between, ?_⟩, rfl, .rfl, ?_⟩
  · have hstands := h.stands
    cases first with
    | nil =>
      rw [hcons] at hstands
      rw [hcons']
      exact stands_word hc' hstands
    | cons d first => exact hstands
  · have hcut : ∀ (d : Char) (tail : List Char), isPythonSpace d = false →
        onConflict letters.toCharacters (d :: tail) = none →
        (AtStart letters (onConflict letters.toCharacters) (afterPlace place before) []
          (first ++ d :: tail) ↔ AtStart letters (onConflict letters.toCharacters)
            (afterPlace place before) (d :: tail) first) := by
      intro d tail hd hnone
      have happend : AtStart letters (onConflict letters.toCharacters) (afterPlace place before) []
          (first ++ d :: tail) ↔ AtStart letters (onConflict letters.toCharacters)
            (afterPlace place before) (d :: tail ++ []) first :=
        atStart_append hd (by simpa using hnone)
      rwa [List.append_nil] at happend
    have hnone := hold.onConflict_none rest
    have hnone' := hnew.onConflict_none rest
    have hsome : AtStart letters (onConflict letters.toCharacters) (afterPlace place before)
        (new ++ rest) first ↔ AtStart letters (onConflict letters.toCharacters)
          (afterPlace place before) (old ++ rest) first :=
      atStart_congr fun part hne hpart =>
        congrArg Option.isSome (conflict_clauses hnew hold hlast rest part hne hpart)
    rw [hcons, List.cons_append] at hnone hsome ⊢
    rw [hcons', List.cons_append] at hnone' hsome ⊢
    rw [hcut c _ hspace hnone, hcut c' _ hspace' hnone', hsome]

end

lemma first_local {pattern : Pattern} (h : LocalPattern letters pattern) (s : Scan)
    (text : List Char) : ∃ result : Option (List Char × Found), ∀ after, Stops letters after →
      firstWithin letters.toCharacters pattern s after text = result.map fun first =>
        (first.1, { first.2 with after := first.2.after ++ after }) := by
  induction text generalizing s with
  | nil => exact ⟨none, fun _ _ => rfl⟩
  | cons c text ih =>
    obtain ⟨here, hhere⟩ := h (c :: text)
    obtain ⟨later, hlater⟩ : ∃ later : Option (List Char × Found), ∀ after,
        Stops letters after → firstWithin letters.toCharacters pattern
          (s.step c (text ++ after).head?) after text = later.map fun first =>
            (first.1, { first.2 with after := first.2.after ++ after }) := by
      cases text with
      | nil => exact ⟨none, fun _ _ => rfl⟩
      | cons d text => exact ih (s.step c (some d))
    refine ⟨(if s.atKeyword letters.toCharacters c then here.map (([] : List Char), ·)
      else none).or (later.map fun first => (c :: first.1, first.2)), fun after hafter => ?_⟩
    rw [firstWithin, hhere after hafter, hlater after hafter, Option.map_or]
    congr 1
    · split
      · rw [Option.map_map, Option.map_map]
        rfl
      · rfl
    · rw [Option.map_map, Option.map_map]
      rfl

/-- Where a pattern matches in the text around a place, whatever the place holds. -/
inductive MatchAround (letters : Letters) (place : Place) (before after : List Char)
    (pattern : Pattern) : Prop
  | nowhere
      (hfirst : firstWithin letters.toCharacters pattern .start place.opening before = none)
      (hmatch : ∀ content, place.Holds content →
        topLevelPatternMatch letters.toCharacters (around place before after content) pattern =
          none)
  | before {first part : List Char} {c : Char} {found : Found}
      (hbefore : before = first ++ c :: part)
      (hfirst : ∃ value, firstWithin letters.toCharacters pattern .start place.opening before =
        some (first, value))
      (hkeyword : (Scan.start.over (c :: part ++ place.opening) first).atKeyword
        letters.toCharacters c = true)
      (hfound : ∀ after, Stops letters after →
        pattern (c :: part ++ after) = some { found with after := found.after ++ after })
      (hmatch : ∀ content, place.Holds content →
        topLevelPatternMatch letters.toCharacters (around place before after content) pattern =
          some ⟨{ found with after := found.after ++ (place.text content ++ after) }, first⟩)
  | after {first part : List Char} {c : Char} {found : Found} (hafter : after = first ++ c :: part)
      (hfirst : firstWithin letters.toCharacters pattern .start place.opening before = none)
      (hkeyword : ((afterPlace place before).over (c :: part) first).atKeyword
        letters.toCharacters c = true)
      (hfound : pattern (c :: part) = some found)
      (hmatch : ∀ content, place.Holds content →
        topLevelPatternMatch letters.toCharacters (around place before after content) pattern =
          some ⟨found, before ++ (place.text content ++ first)⟩)

lemma matchAround {pattern : Pattern} (hlocal : LocalPattern letters pattern)
    (h : Stage place before after) : MatchAround letters place before after pattern := by
  obtain ⟨result, hresult⟩ := first_local hlocal .start before
  have hopening := hresult place.opening (stops_opening letters h.stands)
  have hcontent : ∀ content, place.Holds content →
      topLevelPatternMatch letters.toCharacters (around place before after content) pattern =
        ((result.map fun first => (first.1,
            { first.2 with after := first.2.after ++ (place.text content ++ after) })).or
          ((firstWithin letters.toCharacters pattern (afterPlace place before) [] after).map
            fun first => (before ++ (place.text content ++ first.1), first.2))).map
              fun first => ⟨first.2, first.1⟩ := by
    intro content hholds
    rw [topLevelPatternMatch_eq, first_around h hholds,
      hresult _ (stops_text letters h.stands content)]
  cases result with
  | none =>
    cases hafter : firstWithin letters.toCharacters pattern (afterPlace place before) [] after with
    | none =>
      refine .nowhere hopening fun content hholds => ?_
      rw [hcontent content hholds, hafter]
      rfl
    | some found =>
      obtain ⟨first, found⟩ := found
      obtain ⟨c, part, hsplit, hfound, hkeyword⟩ := firstWithin_some hafter
      rw [List.append_nil] at hfound hkeyword
      refine .after hsplit hopening hkeyword hfound fun content hholds => ?_
      rw [hcontent content hholds, hafter]
      rfl
  | some found =>
    obtain ⟨first, found⟩ := found
    obtain ⟨c, part, hsplit, hfound, hkeyword⟩ := firstWithin_some hopening
    have heverywhere : ∀ after, Stops letters after →
        pattern (c :: part ++ after) = some { found with after := found.after ++ after } := by
      intro after hafter
      obtain ⟨here, hhere⟩ := hlocal (c :: part)
      have hboth := (hhere _ (stops_opening letters h.stands)).symm.trans hfound
      rw [hhere after hafter]
      cases here with
      | none => cases hboth
      | some value =>
        have hvalue : value = found := by
          obtain ⟨group1, group2, rest⟩ := value
          obtain ⟨group1', group2', rest'⟩ := found
          simp only [Option.map_some, Option.some.injEq, Found.mk.injEq,
            List.append_cancel_right_eq] at hboth
          obtain ⟨rfl, rfl, rfl⟩ := hboth
          rfl
        rw [hvalue]
        rfl
    refine .before hsplit ⟨_, hopening⟩ hkeyword heverywhere fun content hholds => ?_
    rw [hcontent content hholds]
    rfl

lemma of_atKeyword {c : Char} (h : s.atKeyword letters.toCharacters c = true) :
    s.Between ∧ s.depth = 0 ∧ s.AfterWord letters.toCharacters := by
  simp only [Scan.atKeyword, Bool.and_eq_true, Bool.not_eq_true', decide_eq_true_eq] at h
  obtain ⟨⟨⟨⟨hconsumed, hinside⟩, hdepth⟩, -⟩, hprevious⟩ := h
  exact ⟨⟨hinside, hconsumed⟩, hdepth, hprevious⟩

lemma last_of_keyword {c : Char}
    (h : (s.over after text).atKeyword letters.toCharacters c = true) :
    text.getLast?.all (!letters.isWordChar ·) = true := by
  by_cases hempty : text = []
  · simp [hempty]
  · rw [← Scan.previous_over hempty]
    exact (of_atKeyword h).2.2

/-- What a rewriting makes of the text before the place: nothing, or one clause for another. -/
inductive Replaced (letters : Letters) (place : Place) (pattern : Pattern)
    (words : List Char → List Char → Prop) (before before' : List Char) : Prop
  | nothing
      (hfirst : firstWithin letters.toCharacters pattern .start place.opening before = none)
      (hsame : before' = before)
  | clause {first rest old new word word' : List Char}
      (hfirst : ∃ value, firstWithin letters.toCharacters pattern .start place.opening before =
        some (first, value))
      (hbefore : before = first ++ (old ++ rest)) (hbefore' : before' = first ++ (new ++ rest))
      (hold : StartsClause letters word old) (hnew : StartsClause letters word' new)
      (hwords : words word word')
      (hlast : first.getLast?.all (!letters.isWordChar ·) = true)

/-- What the first match of a pattern is rewritten to. -/
def rewriteFirst (letters : Letters) (pattern : Pattern)
    (render : List Char → List Char → List Char) (text : List Char) :
    Option (List Char × List Char × List Char) :=
  (topLevelPatternMatch letters.toCharacters text pattern).map fun found =>
    (found.before ++ (render found.group1 found.group2 ++ found.after), found.group1, found.group2)

/-- Every match is a clause, and a clause is written instead. -/
def Renders (letters : Letters) (pattern : Pattern) (render : List Char → List Char → List Char)
    (words : List Char → List Char → Prop) : Prop :=
  ∀ text found, pattern text = some found → ∃ old word word', text = old ++ found.after ∧
    StartsClause letters word old ∧
      StartsClause letters word' (render found.group1 found.group2) ∧ words word word'

/-- A rewriting leaves the place where it is. -/
lemma rewriteFirst_around {pattern : Pattern} {render : List Char → List Char → List Char}
    {words : List Char → List Char → Prop} (hlocal : LocalPattern letters pattern)
    (hrenders : Renders letters pattern render words) (h : Stage place before after) :
    ∃ before' after' groups, Kept letters place before after before' after' ∧
      Replaced letters place pattern words before before' ∧
      (groups = none → before' = before ∧ after' = after) ∧
      ∀ content, place.Holds content →
        rewriteFirst letters pattern render (around place before after content) =
          groups.map fun groups => (around place before' after' content, groups) := by
  cases matchAround hlocal h with
  | nowhere hfirst hmatch =>
    refine ⟨before, after, none, .refl h, .nothing hfirst rfl, fun _ => ⟨rfl, rfl⟩,
      fun content hholds => ?_⟩
    rw [rewriteFirst, hmatch content hholds]
    rfl
  | @before first part c found hbefore hfirst hkeyword hfound hmatch =>
    obtain ⟨hbetween, -, -⟩ := of_atKeyword hkeyword
    obtain ⟨old, word, word', hsplit, hold, hnew, hwords⟩ :=
      hrenders _ _ (hfound _ (stops_opening letters h.stands))
    have hpart : c :: part = old ++ found.after := by
      rw [← List.append_assoc] at hsplit
      exact List.append_cancel_right hsplit
    have hlast := last_of_keyword hkeyword
    have hs : (Scan.start.over old first).Between := by
      obtain ⟨d, more, hcons, -⟩ := hold.head
      have hover : Scan.start.over old first = Scan.start.over (c :: part ++ place.opening) first := by
        refine Scan.over_congr ?_ first
        rw [hpart, hcons]
        rfl
      rw [hover]
      exact hbetween
    rw [hpart] at hbefore
    subst hbefore
    refine ⟨first ++ (render found.group1 found.group2 ++ found.after), after,
      some (found.group1, found.group2), kept_before hold hnew hlast hs h,
      .clause hfirst rfl rfl hold hnew hwords hlast, fun hnone => (by cases hnone),
      fun content hholds => ?_⟩
    rw [rewriteFirst, hmatch content hholds]
    simp [around]
  | @after first part c found hafter hfirst hkeyword hfound hmatch =>
    obtain ⟨old, word, word', hsplit, hold, hnew, hwords⟩ := hrenders _ _ hfound
    have hlast := last_of_keyword hkeyword
    rw [hsplit] at hafter
    subst hafter
    refine ⟨before, first ++ (render found.group1 found.group2 ++ found.after),
      some (found.group1, found.group2), kept_after hold hnew hlast h, .nothing hfirst rfl,
      fun hnone => (by cases hnone), fun content hholds => ?_⟩
    rw [rewriteFirst, hmatch content hholds]
    simp [around]

/-- REPLACE INTO is the first thing before the place. -/
def ReplaceAtStart (letters : Letters) (place : Place) (before : List Char) : Prop :=
  AtStart letters (replaceIntoPattern letters.toCharacters) .start place.opening before

lemma StartsClause.startsWith {word clause first : List Char}
    (h : StartsClause letters word clause) (hfirst : first.dropWhile isPythonSpace = [])
    (rest : List Char) :
    startsWithInsertLikeStatement letters.toCharacters (first ++ (clause ++ rest)) = true ↔
      InsertLike (letters.upperCase word) := by
  obtain ⟨hverb, hword, hne, hspaces, -, -⟩ := h
  rw [List.append_assoc, List.append_assoc]
  exact startsWithInsertLike_word hfirst (notOn_verb hverb).toIsKeyword hword hne hspaces

def OrWords (letters : Letters) (word word' : List Char) : Prop :=
  word' = word ∧ ∃ verb ∈ verbs.take 2, Spells letters verb word

lemma startsWith_or {pattern : Pattern}
    (h : Replaced letters place pattern (OrWords letters) before before') :
    startsWithInsertLikeStatement letters.toCharacters before' = true ↔
      startsWithInsertLikeStatement letters.toCharacters before = true := by
  cases h with
  | nothing hfirst hsame => rw [hsame]
  | clause hfirst hbefore hbefore' hold hnew hwords hlast =>
    obtain ⟨rfl, -⟩ := hwords
    rw [hbefore, hbefore']
    rcases before_keyword hlast with hempty | ⟨first, c, hc, hsplit⟩
    · rw [hold.startsWith hempty, hnew.startsWith hempty]
    · rw [startsWithInsertLike_before hc hsplit, startsWithInsertLike_before hc hsplit]

lemma StartsClause.replaceInto_none {verb word clause : List Char} (hverb : verb ∈ verbs.take 2)
    (hword : Spells letters verb word) (h : StartsClause letters word clause) (rest : List Char) :
    replaceIntoPattern letters.toCharacters (clause ++ rest) = none := by
  obtain ⟨-, -, -, -, -, -⟩ := h
  rw [List.append_assoc, List.append_assoc]
  exact ConflictSyntax.replaceInto_none hverb hword

lemma replaceAtStart_clause {verb word clause first : List Char} (hverb : verb ∈ verbs.take 2)
    (hword : Spells letters verb word) (h : StartsClause letters word clause) :
    ReplaceAtStart letters place (first ++ (clause ++ rest)) ↔
      AtStart letters (replaceIntoPattern letters.toCharacters) .start
        (clause ++ (rest ++ place.opening)) first := by
  obtain ⟨c, more, hcons, -, hspace, -⟩ := h.head
  have hnone := h.replaceInto_none hverb hword (rest ++ place.opening)
  have happend : AtStart letters (replaceIntoPattern letters.toCharacters) .start place.opening
      (first ++ c :: (more ++ rest)) ↔ AtStart letters (replaceIntoPattern letters.toCharacters)
        .start (c :: (more ++ rest) ++ place.opening) first := by
    refine atStart_append hspace ?_
    rw [hcons] at hnone
    simpa using hnone
  rw [hcons]
  simpa [ReplaceAtStart] using happend

lemma replaceAtStart_or {pattern : Pattern}
    (h : Replaced letters place pattern (OrWords letters) before before') :
    ReplaceAtStart letters place before' ↔ ReplaceAtStart letters place before := by
  cases h with
  | nothing hfirst hsame => rw [hsame]
  | clause hfirst hbefore hbefore' hold hnew hwords hlast =>
    obtain ⟨rfl, verb, hverb, hword⟩ := hwords
    rw [hbefore, hbefore', replaceAtStart_clause hverb hword hold,
      replaceAtStart_clause hverb hword hnew]
    refine atStart_congr fun part hne hpart => ?_
    obtain ⟨read, hread⟩ := replaceInto_inside hne (last_of_suffix hlast hne hpart)
    rw [hread _ (hnew.noInto _), hread _ (hold.noInto _)]

def ReplaceWords (letters : Letters) (word word' : List Char) : Prop :=
  Spells letters "REPLACE".toList word ∧ word' = "INSERT".toList

lemma startsWith_replace
    (h : Replaced letters place (replaceIntoPattern letters.toCharacters) (ReplaceWords letters)
      before before') :
    startsWithInsertLikeStatement letters.toCharacters before' = true ↔
      startsWithInsertLikeStatement letters.toCharacters before = true ∨
        ReplaceAtStart letters place before := by
  cases h with
  | nothing hfirst hsame =>
    have hnot : ¬ ReplaceAtStart letters place before := by
      rintro ⟨first, value, hsome, -⟩
      rw [hfirst] at hsome
      cases hsome
    rw [hsame, or_iff_left hnot]
  | @clause first rest old new word word' hfirst hbefore hbefore' hold hnew hwords hlast =>
    obtain ⟨hword, rfl⟩ := hwords
    obtain ⟨value, hvalue⟩ := hfirst
    have hat : ReplaceAtStart letters place before ↔ first.dropWhile isPythonSpace = [] := by
      constructor
      · rintro ⟨first', value', hsome, hspaces⟩
        rw [hvalue] at hsome
        cases hsome
        exact hspaces
      · intro hspaces
        exact ⟨first, value, hvalue, hspaces⟩
    rw [hat, hbefore, hbefore']
    rcases before_keyword hlast with hempty | ⟨first', c, hc, hsplit⟩
    · rw [hnew.startsWith hempty, upperCase_keyword isKeyword_insert.upper]
      exact iff_of_true (.inl List.prefix_rfl) (.inr hempty)
    · rw [startsWithInsertLike_before hc hsplit, startsWithInsertLike_before hc hsplit, hsplit]
      simp

end SqliteReconcile.ConflictSyntax
