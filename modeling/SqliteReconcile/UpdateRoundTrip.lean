import SqliteReconcile.RewriteTwins

/-!
# Removing and restoring UPDATE OR

The OR clause of an UPDATE is taken out of a text before it is parsed and put back before the
text is executed. Both functions stop at the first word UPDATE at the top level.
-/
namespace SqliteReconcile.ConflictSyntax
open StatementLogging

section

variable (characters : Characters)

def updateWord (text : List Char) : Option Unit := do
  let (_, rest) ← matchLetters characters "UPDATE".toList text
  if rest.head?.all (!characters.isWordChar ·) then some () else none

def firstUpdateWord (sql : List Char) : Option ℕ :=
  (topLevelKeywordIndexes characters sql).find? fun index =>
    (updateWord characters (sql.drop index)).isSome

end

structure Spaces (text : List Char) : Prop where
  ne_nil : text ≠ []
  space : ∀ c ∈ text, isPythonSpace c = true

/-- The first word UPDATE of a text, and what surrounds it. -/
structure FirstUpdate (letters : Letters) (before verb rest sql : List Char) : Prop where
  text : sql = before ++ (verb ++ rest)
  verb : Spells letters "UPDATE".toList verb
  first : firstUpdateWord letters.toCharacters sql = some before.length

/-- `OR algorithm` after a verb, its words in any case and with any white space around them. What
follows it starts with no white space. -/
inductive OrClause (letters : Letters) (algorithm : String) (word after : List Char) :
    List Char → Prop
  | intro {first orWord second third : List Char} (hfirst : Spaces first)
      (hor : Spells letters "OR".toList orWord) (hsecond : Spaces second)
      (hword : Spells letters algorithm.toList word) (hthird : Spaces third)
      (hafter : ∀ c, after.head? = some c → isPythonSpace c = false) :
      OrClause letters algorithm word after (first ++ (orWord ++ (second ++ (word ++ (third ++ after)))))

/-- A resolution that the removal of an UPDATE OR clause makes. -/
structure UpdateResolution (letters : Letters) (resolution : SQLiteConflictResolution) : Prop where
  kind : resolution.statementKind = .update
  algorithm : ∃ algorithm ∈ conflictAlgorithms, ∃ word, Spells letters algorithm.toList word ∧
    resolution.algorithm = letters.upperCase word

variable {letters : Letters} {text rest rest' after before verb word : List Char} {algorithm : String}

lemma firstWithin_here {α : Type} {found : List Char → Option α} {s : Scan} {c : Char} {value : α} :
    firstWithin letters.toCharacters found s after (before ++ c :: rest) = some (before, value) ↔
      firstWithin letters.toCharacters found s (c :: rest ++ after) before = none ∧
        (s.over (c :: rest ++ after) before).atKeyword letters.toCharacters c = true ∧
        found (c :: rest ++ after) = some value := by
  constructor
  · intro h
    have hnone : firstWithin letters.toCharacters found s (c :: rest ++ after) before = none := by
      cases hfirst : firstWithin letters.toCharacters found s (c :: rest ++ after) before with
      | none => rfl
      | some first =>
        rw [firstWithin_append, hfirst, Option.some_or] at h
        obtain rfl : first = (before, value) := Option.some.inj h
        obtain ⟨d, more, hsplit, -, -⟩ := firstWithin_some hfirst
        have hlength := congrArg List.length hsplit
        simp only [List.length_append, List.length_cons] at hlength
        omega
    obtain ⟨d, more, hsplit, hfound, hkeyword⟩ := firstWithin_some h
    obtain ⟨rfl, rfl⟩ := List.cons.inj (List.append_cancel_left hsplit)
    exact ⟨hnone, hkeyword, hfound⟩
  · rintro ⟨hnone, hkeyword, hfound⟩
    rw [firstWithin_append, hnone, Option.none_or, firstWithin, if_pos hkeyword, hfound]
    simp

lemma firstUpdateWord_eq (sql : List Char) :
    firstUpdateWord letters.toCharacters sql =
      (firstWithin letters.toCharacters (updateWord letters.toCharacters) .start [] sql).map
        fun first => first.1.length := by
  rw [firstUpdateWord, List.find?_eq_findSome?_guard]
  refine findSome?_keywordIndexes (fun before (_ : Unit) => before.length) ?_ []
    (List.nil_append sql).symm passed_start
  rintro before c rest rfl -
  rw [Option.guard, List.drop_left]
  cases updateWord letters.toCharacters (c :: rest) with
  | none => rfl
  | some value => rfl

lemma FirstUpdate.firstWithin {sql : List Char} (h : FirstUpdate letters before verb rest sql) :
    firstWithin letters.toCharacters (updateWord letters.toCharacters) .start []
      (before ++ (verb ++ rest)) = some (before, ()) := by
  have hfirst := h.first
  rw [firstUpdateWord_eq, Option.map_eq_some_iff, h.text] at hfirst
  obtain ⟨⟨first, value⟩, hfirst, hlength⟩ := hfirst
  obtain ⟨c, more, hsplit, -, -⟩ := firstWithin_some hfirst
  obtain ⟨rfl, -⟩ := List.append_inj hsplit hlength.symm
  exact hfirst

lemma matchLetters_spelled {keyword : List Char} (h : Spells letters keyword word)
    (rest : List Char) :
    matchLetters letters.toCharacters keyword (word ++ rest) = some (word, rest) := by
  induction h with
  | nil => rfl
  | @cons letter c keyword word hmatch hrest ih =>
    rw [List.cons_append, matchLetters, if_pos hmatch, ih]
    rfl

lemma matchSpaces_spaces {spaces : List Char} (h : Spaces spaces)
    (hafter : ∀ c, after.head? = some c → isPythonSpace c = false) :
    matchSpaces (spaces ++ after) = some (spaces, after) := by
  have hall : ∀ c ∈ spaces, isPythonSpace c = true := h.space
  have htake : after.takeWhile isPythonSpace = [] ∧ after.dropWhile isPythonSpace = after := by
    cases after with
    | nil => exact ⟨rfl, rfl⟩
    | cons c after => simp [hafter c rfl]
  rw [matchSpaces, List.takeWhile_append_of_pos hall, List.dropWhile_append_of_pos hall, htake.1,
    htake.2, List.append_nil, if_neg h.ne_nil]

lemma Spells.head_not_space {keyword : List Char} (h : Spells letters keyword word)
    (hkeyword : IsKeyword keyword) (rest : List Char) :
    ∀ c, (word ++ rest).head? = some c → isPythonSpace c = false := by
  obtain ⟨-, -, c, word', -, rfl, -, halpha⟩ := h.head hkeyword
  intro d hd
  obtain rfl : c = d := by simpa using hd
  by_contra hspace
  have hword := letters.isWordChar_of_isAlpha c halpha
  rw [not_word_of_space letters (by simpa using hspace)] at hword
  cases hword

lemma findSome?_algorithms {α : Type} {next : List Char × List Char → Option α} {value : α}
    (halgorithm : algorithm ∈ conflictAlgorithms) (hword : Spells letters algorithm.toList word)
    (hnext : next (word, rest) = some value) :
    (conflictAlgorithms.findSome? fun algorithm =>
      (matchLetters letters.toCharacters algorithm.toList (word ++ rest)).bind next) =
        some value := by
  have hself : (matchLetters letters.toCharacters algorithm.toList (word ++ rest)).bind next =
      some value := by
    rw [matchLetters_spelled hword]
    exact hnext
  have hneither : ∀ other ∈ conflictAlgorithms, other ≠ algorithm →
      ¬ other.toList <+: algorithm.toList ∧ ¬ algorithm.toList <+: other.toList := by
    have hall : ∀ other ∈ conflictAlgorithms, ∀ algorithm ∈ conflictAlgorithms,
        other ≠ algorithm → ¬ other.toList <+: algorithm.toList := by decide
    exact fun other hother hne =>
      ⟨hall other hother algorithm halgorithm hne, hall algorithm halgorithm other hother hne.symm⟩
  have hothers : ∀ other ∈ conflictAlgorithms, other ≠ algorithm →
      (matchLetters letters.toCharacters other.toList (word ++ rest)).bind next = none := by
    intro other hother hne
    rw [matchLetters_spells (notOn_algorithm halgorithm).upper (notOn_algorithm hother).upper hword
      (hneither other hother hne)]
    rfl
  generalize conflictAlgorithms = algorithms at halgorithm hothers ⊢
  induction algorithms with
  | nil => cases halgorithm
  | cons other algorithms ih =>
    rw [List.findSome?_cons]
    by_cases hsame : other = algorithm
    · subst hsame
      rw [hself]
    · rw [hothers other (by simp) hsame]
      refine ih ?_ fun other hother => hothers other (by simp [hother])
      exact (List.mem_cons.mp halgorithm).resolve_left (Ne.symm hsame)

lemma updateOrPattern_clause (hverb : Spells letters "UPDATE".toList verb)
    (halgorithm : algorithm ∈ conflictAlgorithms)
    (h : OrClause letters algorithm word after rest) :
    updateOrPattern letters.toCharacters (verb ++ rest) = some ⟨verb, word, after⟩ := by
  cases h with
  | @intro first orWord second third hfirst hor hsecond hword hthird hafter =>
    have hfirst' := matchSpaces_spaces hfirst
      (hor.head_not_space isKeyword_or (second ++ (word ++ (third ++ after))))
    have hsecond' := matchSpaces_spaces hsecond
      (hword.head_not_space (notOn_algorithm halgorithm).toIsKeyword (third ++ after))
    simp only [updateOrPattern, orPattern, Option.bind_eq_bind, matchLetters_spelled hverb, hfirst',
      Option.bind_some, matchLetters_spelled hor, hsecond']
    refine findSome?_algorithms halgorithm hword ?_
    rw [matchSpaces_spaces hthird hafter]
    rfl

lemma updateKeywordPattern_spaces {spaces : List Char} (hverb : Spells letters "UPDATE".toList verb)
    (hspaces : Spaces spaces) (hafter : ∀ c, after.head? = some c → isPythonSpace c = false) :
    updateKeywordPattern letters.toCharacters (verb ++ (spaces ++ after)) =
      some ⟨verb, [], after⟩ := by
  simp only [updateKeywordPattern, Option.bind_eq_bind, matchLetters_spelled hverb,
    matchSpaces_spaces hspaces hafter, Option.bind_some]
  rfl

/-- A text that a pattern of UPDATE matches starts with the word UPDATE. -/
def OfUpdate (letters : Letters) (pattern : Pattern) : Prop :=
  ∀ text, updateWord letters.toCharacters text = none → pattern text = none

/-- No white space follows the letters of UPDATE in another word. -/
lemma noSpaces_of_updateWord {found : List Char × List Char}
    (h : updateWord letters.toCharacters text = none)
    (hverb : matchLetters letters.toCharacters "UPDATE".toList text = some found) :
    matchSpaces found.2 = none := by
  cases hspaces : matchSpaces found.2 with
  | none => rfl
  | some spaces =>
    obtain ⟨hsplit, hne, hall⟩ := matchSpaces_some hspaces
    obtain ⟨c, more, hcons⟩ := List.exists_cons_of_ne_nil hne
    have hword := not_word_of_space letters (hall c (by simp [hcons]))
    have hhead : found.2.head?.all (!letters.isWordChar ·) = true := by
      rw [hsplit, hcons]
      simp [hword]
    rw [updateWord, hverb] at h
    simp [hhead] at h

lemma ofUpdate_updateOrPattern : OfUpdate letters (updateOrPattern letters.toCharacters) := by
  intro text h
  cases hverb : matchLetters letters.toCharacters "UPDATE".toList text with
  | none => simp only [updateOrPattern, orPattern, hverb, Option.bind_eq_bind, Option.bind_none]
  | some found =>
    simp only [updateOrPattern, orPattern, hverb, Option.bind_eq_bind, Option.bind_some,
      noSpaces_of_updateWord h hverb, Option.bind_none]

lemma ofUpdate_updateKeywordPattern :
    OfUpdate letters (updateKeywordPattern letters.toCharacters) := by
  intro text h
  cases hverb : matchLetters letters.toCharacters "UPDATE".toList text with
  | none => simp only [updateKeywordPattern, hverb, Option.bind_eq_bind, Option.bind_none]
  | some found =>
    simp only [updateKeywordPattern, hverb, Option.bind_eq_bind, Option.bind_some,
      noSpaces_of_updateWord h hverb, Option.bind_none]

lemma firstWithin_none_of {α β : Type} {found : List Char → Option α}
    {found' : List Char → Option β} {s : Scan} (h : ∀ text, found text = none → found' text = none)
    (hnone : firstWithin letters.toCharacters found s after text = none) :
    firstWithin letters.toCharacters found' s after text = none := by
  induction text generalizing s with
  | nil => rfl
  | cons c text ih =>
    rw [firstWithin, Option.or_eq_none_iff, Option.map_eq_none_iff] at hnone ⊢
    refine ⟨?_, ih hnone.2⟩
    have hhere := hnone.1
    split at hhere
    · next hkeyword =>
      rw [if_pos hkeyword, Option.map_eq_none_iff]
      exact h _ (Option.map_eq_none_iff.mp hhere)
    · next hkeyword => exact if_neg hkeyword

/-- The word UPDATE is read before any other clause as well. -/
lemma FirstUpdate.respell {sql : List Char} (h : FirstUpdate letters before verb rest sql)
    (hrest : rest'.head?.all (!letters.isWordChar ·) = true) :
    FirstUpdate letters before verb rest' (before ++ (verb ++ rest')) := by
  refine ⟨rfl, h.verb, ?_⟩
  have hfirst := h.firstWithin
  obtain ⟨-, -, c, word', -, hverb, -, -⟩ := h.verb.head isKeyword_update
  have hspelled := matchLetters_spelled h.verb rest'
  rw [hverb, List.cons_append, firstWithin_here, List.append_nil] at hfirst
  obtain ⟨hnone, hkeyword, -⟩ := hfirst
  have hover : Scan.start.over (c :: (word' ++ rest')) before =
      Scan.start.over (c :: (word' ++ rest)) before := Scan.over_congr (by rfl) before
  have hcongr : ∀ part, part ≠ [] → part <:+ before →
      updateWord letters.toCharacters (part ++ c :: (word' ++ rest')) =
        updateWord letters.toCharacters (part ++ c :: (word' ++ rest)) := by
    intro part hne hpart
    have hlast := last_of_suffix (last_of_keyword hkeyword) hne hpart
    rcases matchLetters_inside isKeyword_update.upper hne hlast with hno | ⟨word, tail, htail, -, hyes⟩
    · simp only [updateWord, hno]
    · obtain ⟨d, tail, rfl⟩ := List.exists_cons_of_ne_nil htail
      simp only [updateWord, hyes, List.cons_append]
      rfl
  have hfound : updateWord letters.toCharacters (c :: (word' ++ rest')) = some () := by
    rw [hverb, List.cons_append] at hspelled
    rw [updateWord, hspelled]
    exact if_pos hrest
  have hhere : ConflictSyntax.firstWithin letters.toCharacters (updateWord letters.toCharacters)
      .start [] (before ++ c :: (word' ++ rest')) = some (before, ()) := by
    rw [firstWithin_here, List.append_nil, hover]
    exact ⟨(firstWithin_congr hcongr).trans hnone, hkeyword, hfound⟩
  rw [firstUpdateWord_eq, hverb, List.cons_append, hhere]
  rfl

/-- A pattern of UPDATE matches at the first word UPDATE or not before it. -/
lemma FirstUpdate.patternMatch {sql : List Char} {pattern : Pattern} {found : Found}
    (h : FirstUpdate letters before verb rest sql) (hpattern : OfUpdate letters pattern)
    (hfound : pattern (verb ++ rest) = some found) :
    topLevelPatternMatch letters.toCharacters sql pattern = some ⟨found, before⟩ := by
  have hfirst := h.firstWithin
  obtain ⟨-, -, c, word', -, hverb, -, -⟩ := h.verb.head isKeyword_update
  rw [hverb, List.cons_append] at hfirst hfound
  rw [firstWithin_here, List.append_nil] at hfirst
  have hhere : ConflictSyntax.firstWithin letters.toCharacters pattern .start []
      (before ++ c :: (word' ++ rest)) = some (before, found) := by
    rw [firstWithin_here, List.append_nil]
    exact ⟨firstWithin_none_of hpattern hfirst.1, hfirst.2.1, hfound⟩
  rw [topLevelPatternMatch_eq, h.text, hverb, List.cons_append, hhere]
  rfl

lemma FirstUpdate.noConflict {sql old new : List Char} (h : FirstUpdate letters before verb rest sql)
    (hold : StartsClause letters verb old) (hnew : StartsClause letters verb new)
    (hrest : verb ++ rest = old ++ after)
    (hnone : findTopLevelOnConflict letters.toCharacters sql = none) :
    findTopLevelOnConflict letters.toCharacters (before ++ (new ++ after)) = none := by
  obtain ⟨c, more, hcons, hc, -, -⟩ := hold.head
  obtain ⟨c', more', hcons', hc', -, -⟩ := hnew.head
  have hfirst := h.firstWithin
  rw [hrest, hcons, List.cons_append, firstWithin_here, List.append_nil] at hfirst
  have hkeyword := hfirst.2.1
  have hlast := last_of_keyword hkeyword
  have hold' : Scan.start.over (old ++ (after ++ [])) before =
      Scan.start.over (c :: (more ++ after)) before := by
    rw [hcons, List.cons_append, List.append_nil]
  have hnew' : Scan.start.over (new ++ (after ++ [])) before =
      Scan.start.over (c :: (more ++ after)) before := by
    rw [hcons', List.cons_append, List.append_nil]
    exact over_word hc' hc hlast _ _
  have hs := (of_atKeyword hkeyword).1
  rw [findTopLevelOnConflict_eq, Option.map_eq_none_iff, h.text, hrest,
    noConflict_clause hold (by rw [hold']; exact hs)] at hnone
  rw [findTopLevelOnConflict_eq, Option.map_eq_none_iff,
    noConflict_clause hnew (by rw [hnew']; exact hs),
    firstWithin_congr (conflict_clauses hnew hold hlast _)]
  refine ⟨hnone.1, ?_⟩
  cases after with
  | nil => rfl
  | cons d after =>
    have hbetween : (Scan.start.over old before).Between := by
      have hover : Scan.start.over old before = Scan.start.over (c :: (more ++ d :: after)) before :=
        Scan.over_congr (by rw [hcons]; rfl) before
      rw [hover]
      exact hs
    have hne : d :: after ++ [] ≠ [] := by simp
    have hagrees := agrees_clause hold hnew hlast hbetween hne
    rw [← hagrees.firstWithin]
    exact hnone.2

lemma withoutUpsert_none {sql : List Char}
    (h : findTopLevelOnConflict letters.toCharacters sql = none) :
    withoutUpsert letters.toCharacters sql = (sql, false) := by
  rw [withoutUpsert, stripTopLevelUpsert, h]
  cases startsWithInsertLikeStatement letters.toCharacters sql <;> rfl

lemma upperCase_update_ne (h : Spells letters "UPDATE".toList verb) :
    letters.upperCase verb ≠ "INSERT".toList := by
  intro hinsert
  have hupper := h.upperCase isKeyword_update.upper
  rw [hinsert] at hupper
  have hascii : ∀ d ∈ "INSERT".toList, d.val < 128 := by simp
  have hsame : "INSERT".toList = "UPDATE".toList := eq_of_ascii hupper hascii
  cases hsame

lemma OrClause.startsClause (h : OrClause letters algorithm word after rest)
    (halgorithm : algorithm ∈ conflictAlgorithms) (hverb : Spells letters "UPDATE".toList verb) :
    ∃ clause, verb ++ rest = clause ++ after ∧ StartsClause letters verb clause := by
  cases h with
  | @intro first orWord second third hfirst hor hsecond hword hthird hafter =>
    have hlast := notOn_algorithm halgorithm
    refine ⟨verb ++ (first ++ (orWord ++ (second ++ (word ++ (third ++ []))))), by simp, ?_⟩
    refine .intro (List.mem_of_mem_take update_mem_verbs) hverb hfirst.ne_nil hfirst.space
      (.cons isKeyword_or hor hsecond.ne_nil hsecond.space
        (.cons hlast.toIsKeyword hword hthird.ne_nil hthird.space .nil)) ?_
    intro keyword hkeyword
    rcases List.mem_pair.mp hkeyword with rfl | rfl
    · exact notOn_or
    · exact hlast

lemma head?_spaces {spaces : List Char} (h : Spaces spaces) :
    (spaces ++ after).head?.all (!letters.isWordChar ·) = true := by
  obtain ⟨c, more, rfl⟩ := List.exists_cons_of_ne_nil h.ne_nil
  simp [not_word_of_space letters (h.space c (by simp))]

lemma spaces_blank : Spaces [' '] := ⟨by simp, by simp [isPythonSpace]⟩

lemma normalize_updateOr {sql : List Char} (h : FirstUpdate letters before verb rest sql)
    (halgorithm : algorithm ∈ conflictAlgorithms)
    (hclause : OrClause letters algorithm word after rest)
    (hnone : findTopLevelOnConflict letters.toCharacters sql = none) :
    normalizeSqlForSqlglot letters.toCharacters sql =
      ⟨before ++ (verb ++ ([' '] ++ after)), some ⟨.update, letters.upperCase word⟩, false⟩ := by
  have hmatch := h.patternMatch ofUpdate_updateOrPattern
    (updateOrPattern_clause h.verb halgorithm hclause)
  obtain ⟨clause, hsplit, hstarts⟩ := hclause.startsClause halgorithm h.verb
  have hspace := startsClause_space (List.mem_of_mem_take update_mem_verbs) h.verb
  have hconflict := h.noConflict hstarts hspace hsplit hnone
  have hsql : before ++ verb ++ [' '] ++ after = before ++ (verb ++ [' '] ++ after) := by simp
  have hclauses : normalizeClauses letters.toCharacters sql =
      (before ++ (verb ++ [' '] ++ after), some ⟨.update, letters.upperCase word⟩) := by
    rw [normalizeClauses, removeTopLevelOrClause, hmatch, ← hsql]
    simp only [if_neg (upperCase_update_ne h.verb)]
  rw [normalizeSqlForSqlglot, hclauses]
  dsimp only
  rw [withoutUpsert_none hconflict, List.append_assoc]

lemma restore_update {sql spaces : List Char} (h : FirstUpdate letters before verb rest sql)
    (hrest : rest = spaces ++ after) (hspaces : Spaces spaces)
    (hafter : ∀ c, after.head? = some c → isPythonSpace c = false) (algorithm : List Char) :
    restoreUpdateConflictResolution letters.toCharacters sql (some ⟨.update, algorithm⟩) =
      before ++ (verb ++ ([' '] ++ ("OR".toList ++ ([' '] ++ (algorithm ++ ([' '] ++ after)))))) := by
  subst hrest
  have hmatch := h.patternMatch ofUpdate_updateKeywordPattern
    (updateKeywordPattern_spaces h.verb hspaces hafter)
  rw [restoreUpdateConflictResolution, if_neg (by simp), hmatch]
  simp

lemma Spells.upperCase_self {keyword : List Char} (h : Spells letters keyword word)
    (hkeyword : ∀ c ∈ keyword, c.isUpper = true) :
    Spells letters keyword (letters.upperCase word) ∧
      letters.upperCase (letters.upperCase word) = letters.upperCase word := by
  induction h with
  | nil => exact ⟨.nil, rfl⟩
  | @cons letter c keyword word hmatch hrest ih =>
    obtain ⟨hspells, hsame⟩ := ih fun d hd => hkeyword d (by simp [hd])
    have hletter := hkeyword letter (by simp)
    obtain ⟨hascii, hself⟩ := toUpper_of_isUpper hletter
    have hhead : ∃ d, letters.upper c = [d] ∧ letters.ignoreCase letter d = true ∧
        letters.upper d = [d] := by
      rcases letters.upper_of_ignoreCase letter c hletter hmatch with hupper | ⟨hupper, -⟩
      · refine ⟨letter, hupper, ?_, ?_⟩
        · simp [letters.ignoreCase_ascii letter letter hascii, hself]
        · rw [letters.upper_ascii letter hascii, hself]
      · exact ⟨c, hupper, hmatch, hupper⟩
    obtain ⟨d, hd, hmatch', hd'⟩ := hhead
    have hcons : letters.upperCase (c :: word) = d :: letters.upperCase word := by
      rw [Unicode.upperCase, List.flatMap_cons, hd]
      rfl
    have hcons' : letters.upperCase (d :: letters.upperCase word) =
        d :: letters.upperCase (letters.upperCase word) := by
      rw [Unicode.upperCase, List.flatMap_cons, hd']
      rfl
    rw [hcons, hcons', hsame]
    exact ⟨.cons hmatch' hspells, rfl⟩

lemma spells_ascii {keyword : List Char}
    (h : List.Forall₂ (fun letter c => c.toUpper = letter) keyword word) :
    Spells asciiLetters keyword word :=
  h.imp fun _ _ hmatch => decide_eq_true hmatch

def nestedPrefix : List Char := "WITH a AS (SELECT 'UPDATE ') /* update */ ".toList

end SqliteReconcile.ConflictSyntax
