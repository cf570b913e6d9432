import SqliteReconcile.PlaceRewrites

/-!
# Rewriting twins

Two texts that differ in the content of one string, quoted identifier, comment or parenthesised
group are rewritten alike, unless the place is a comment right before the UPSERT clause that is
stripped.
-/
namespace SqliteReconcile.ConflictSyntax
open StatementLogging

variable {letters : Letters} {place : Place} {text before after content : List Char}

lemma notOn_algorithm {algorithm : String} (h : algorithm ∈ conflictAlgorithms) :
    NotOn algorithm.toList := by
  simp only [conflictAlgorithms, List.mem_cons, List.not_mem_nil, or_false] at h
  rcases h with rfl | rfl | rfl | rfl | rfl
  all_goals exact ⟨⟨by simp, by simp [Char.isUpper]⟩, by simp, by simp⟩

lemma notOn_or : NotOn "OR".toList := ⟨isKeyword_or, by simp, by simp⟩

lemma notOn_into : NotOn "INTO".toList := ⟨isKeyword_into, by simp, by simp⟩

def orRender (group1 _ : List Char) : List Char := group1 ++ [' ']

def orResolution (letters : Letters) (group1 group2 : List Char) : SQLiteConflictResolution :=
  { statementKind := if letters.upperCase group1 = "INSERT".toList then .insert else .update
    algorithm := letters.upperCase group2 }

lemma removeTopLevelOrClause_eq (pattern : Pattern) (sql : List Char) :
    removeTopLevelOrClause letters.toCharacters sql pattern =
      match rewriteFirst letters pattern orRender sql with
      | none => (sql, none)
      | some (rewritten, group1, group2) =>
        (rewritten, some (orResolution letters group1 group2)) := by
  rw [removeTopLevelOrClause, rewriteFirst]
  cases topLevelPatternMatch letters.toCharacters sql pattern with
  | none => rfl
  | some found => simp [orRender, orResolution]

lemma startsClause_space {verb word : List Char} (hverb : verb ∈ verbs)
    (hword : Spells letters verb word) : StartsClause letters word (word ++ [' ']) := by
  have hspace : ∀ c ∈ [' '], isPythonSpace c = true := by simp [isPythonSpace]
  have hclause : StartsClause letters word (word ++ ([' '] ++ [])) :=
    .intro hverb hword (by simp) hspace .nil (by simp)
  simpa using hclause

lemma renders_or {verb : String} {algorithms : List String} (hverb : verb.toList ∈ verbs.take 2)
    (halgorithms : ∀ algorithm ∈ algorithms, algorithm ∈ conflictAlgorithms) :
    Renders letters (orPattern letters.toCharacters verb algorithms) orRender
      (OrWords letters) := by
  intro text found h
  obtain ⟨algorithm, halgorithm, spaces, tail, hsplit, hword, hne, hspaces, htail⟩ :=
    orPattern_some h
  have hnot := notOn_algorithm (halgorithms algorithm halgorithm)
  have hmem := List.mem_of_mem_take hverb
  refine ⟨found.group1 ++ (spaces ++ tail), found.group1, found.group1, hsplit, ?_,
    startsClause_space hmem hword, rfl, verb.toList, hverb, hword⟩
  refine .intro hmem hword hne hspaces (htail hnot.toIsKeyword) fun keyword hkeyword => ?_
  rcases List.mem_pair.mp hkeyword with rfl | rfl
  · exact notOn_or
  · exact hnot

lemma local_or {verb : String} {algorithms : List String} (hverb : verb.toList ∈ verbs.take 2)
    (halgorithms : ∀ algorithm ∈ algorithms, algorithm ∈ conflictAlgorithms) :
    LocalPattern letters (orPattern letters.toCharacters verb algorithms) :=
  local_orPattern (notOn_verb (List.mem_of_mem_take hverb)).toIsKeyword
    fun algorithm halgorithm => (notOn_algorithm (halgorithms algorithm halgorithm)).toIsKeyword

/-- What a step of the rewriting leaves as it was, the start of the text among it. -/
structure KeptStart (letters : Letters) (place : Place)
    (before after before' after' : List Char) : Prop
    extends Kept letters place before after before' after' where
  startsWith : startsWithInsertLikeStatement letters.toCharacters before' = true ↔
    startsWithInsertLikeStatement letters.toCharacters before = true
  replaceAtStart : ReplaceAtStart letters place before' ↔ ReplaceAtStart letters place before

lemma removeTopLevelOrClause_around {verb : String} {algorithms : List String}
    (hverb : verb.toList ∈ verbs.take 2)
    (halgorithms : ∀ algorithm ∈ algorithms, algorithm ∈ conflictAlgorithms)
    (h : Stage place before after) :
    ∃ before' after' resolution, KeptStart letters place before after before' after' ∧
      ∀ content, place.Holds content →
        removeTopLevelOrClause letters.toCharacters (around place before after content)
            (orPattern letters.toCharacters verb algorithms) =
          (around place before' after' content, resolution) := by
  obtain ⟨before', after', groups, hkept, hreplaced, hsame, hrewrite⟩ :=
    @rewriteFirst_around letters _ _ _ _ _ _ (local_or hverb halgorithms)
      (renders_or hverb halgorithms) h
  have hstart : KeptStart letters place before after before' after' :=
    ⟨hkept, startsWith_or hreplaced, replaceAtStart_or hreplaced⟩
  cases groups with
  | none =>
    obtain ⟨rfl, rfl⟩ := hsame rfl
    refine ⟨_, _, none, hstart, fun content hholds => ?_⟩
    rw [removeTopLevelOrClause_eq, hrewrite content hholds]
    rfl
  | some groups =>
    refine ⟨before', after', some (orResolution letters groups.1 groups.2), hstart, fun content hholds => ?_⟩
    rw [removeTopLevelOrClause_eq, hrewrite content hholds]
    rfl

lemma insertOrResolution_eq (sql : List Char) :
    insertOrResolution letters.toCharacters sql =
      (rewriteFirst letters (insertOrPattern letters.toCharacters) orRender sql).map
        fun rewritten => ⟨.insert, letters.upperCase rewritten.2.2⟩ := by
  rw [insertOrResolution, rewriteFirst, Option.map_map]
  rfl

lemma insertOrResolution_around (h : Stage place before after) :
    ∃ resolution, ∀ content, place.Holds content →
      insertOrResolution letters.toCharacters (around place before after content) = resolution := by
  have halgorithms : ∀ algorithm ∈ conflictAlgorithms, algorithm ∈ conflictAlgorithms :=
    fun _ h => h
  have hverb : "INSERT".toList ∈ verbs.take 2 := by simp [verbs]
  obtain ⟨before', after', groups, -, -, -, hrewrite⟩ :=
    @rewriteFirst_around letters _ _ _ _ _ _ (local_or hverb halgorithms)
      (renders_or hverb halgorithms) h
  refine ⟨groups.map fun groups => ⟨.insert, letters.upperCase groups.2⟩, fun content hholds => ?_⟩
  rw [insertOrResolution_eq, insertOrPattern, hrewrite content hholds, Option.map_map]
  rfl

def replaceRender (insert : String) (_ group2 : List Char) : List Char := insert.toList ++ group2

lemma rewriteTopLevelReplaceInto_eq (insert : String) (sql : List Char) :
    rewriteTopLevelReplaceInto letters.toCharacters insert sql =
      match rewriteFirst letters (replaceIntoPattern letters.toCharacters) (replaceRender insert)
        sql with
      | none => (sql, none)
      | some (rewritten, _) => (rewritten, some ⟨.insert, "REPLACE".toList⟩) := by
  rw [rewriteTopLevelReplaceInto, rewriteFirst]
  cases topLevelPatternMatch letters.toCharacters sql (replaceIntoPattern letters.toCharacters) with
  | none => rfl
  | some found => simp [replaceRender]

lemma startsClause_insert {spaces tail : List Char} {keywords : List (List Char)}
    (hne : spaces ≠ []) (hspaces : ∀ c ∈ spaces, isPythonSpace c = true)
    (htail : Clause letters keywords tail) (hkeywords : ∀ keyword ∈ keywords, NotOn keyword) :
    StartsClause letters "INSERT".toList ("INSERT".toList ++ (spaces ++ tail)) :=
  .intro (by simp [verbs]) (spells_self isKeyword_insert) hne hspaces htail hkeywords

lemma renders_replace {insert : String} (h : insert = "INSERT" ∨ insert = "INSERT OR REPLACE") :
    Renders letters (replaceIntoPattern letters.toCharacters) (replaceRender insert)
      (ReplaceWords letters) := by
  intro text found hfound
  obtain ⟨spaces, tail, hsplit, hgroup2, hword, hne, hspaces, htail⟩ :=
    replaceIntoPattern_some hfound
  have hkeywords : ∀ keyword ∈ ["INTO".toList], NotOn keyword := by
    intro keyword hmem
    rw [List.mem_singleton.mp hmem]
    exact notOn_into
  refine ⟨found.group1 ++ found.group2, found.group1, "INSERT".toList, hsplit, ?_, ?_, hword, rfl⟩
  · rw [hgroup2]
    exact .intro (by simp [verbs]) hword hne hspaces htail hkeywords
  · rw [replaceRender, hgroup2]
    rcases h with rfl | rfl
    · exact startsClause_insert hne hspaces htail hkeywords
    · have hspace : ∀ c ∈ [' '], isPythonSpace c = true := by simp [isPythonSpace]
      have hclause : Clause letters ["OR".toList, "REPLACE".toList, "INTO".toList]
          ("OR".toList ++ ([' '] ++ ("REPLACE".toList ++ (spaces ++ tail)))) :=
        .cons isKeyword_or (spells_self isKeyword_or) (by simp) hspace
          (.cons isKeyword_replace (spells_self isKeyword_replace) hne hspaces htail)
      have hnot : ∀ keyword ∈ ["OR".toList, "REPLACE".toList, "INTO".toList], NotOn keyword := by
        intro keyword hmem
        simp only [List.mem_cons, List.not_mem_nil, or_false] at hmem
        rcases hmem with rfl | rfl | rfl
        · exact notOn_or
        · exact notOn_verb (by simp [verbs])
        · exact notOn_into
      exact startsClause_insert (by simp) hspace hclause hnot

/-- REPLACE INTO is rewritten around the place. A text that started so starts with INSERT then. -/
lemma rewriteTopLevelReplaceInto_around {insert : String}
    (hinsert : insert = "INSERT" ∨ insert = "INSERT OR REPLACE") (h : Stage place before after) :
    ∃ before' after' resolution, Kept letters place before after before' after' ∧
      (startsWithInsertLikeStatement letters.toCharacters before' = true ↔
        startsWithInsertLikeStatement letters.toCharacters before = true ∨
          ReplaceAtStart letters place before) ∧
      ∀ content, place.Holds content →
        rewriteTopLevelReplaceInto letters.toCharacters insert (around place before after content) =
          (around place before' after' content, resolution) := by
  obtain ⟨before', after', groups, hkept, hreplaced, hsame, hrewrite⟩ :=
    @rewriteFirst_around letters _ _ _ _ _ _ local_replaceIntoPattern (renders_replace hinsert) h
  have hstart := startsWith_replace hreplaced
  cases groups with
  | none =>
    obtain ⟨rfl, rfl⟩ := hsame rfl
    refine ⟨_, _, none, hkept, hstart, fun content hholds => ?_⟩
    rw [rewriteTopLevelReplaceInto_eq, hrewrite content hholds]
    rfl
  | some groups =>
    refine ⟨before', after', some ⟨.insert, "REPLACE".toList⟩, hkept, hstart,
      fun content hholds => ?_⟩
    rw [rewriteTopLevelReplaceInto_eq, hrewrite content hholds]
    rfl

lemma KeptStart.trans {before' after' before'' after'' : List Char}
    (h : KeptStart letters place before after before' after')
    (h' : KeptStart letters place before' after' before'' after'') :
    KeptStart letters place before after before'' after'' :=
  ⟨h.toKept.trans h'.toKept, h'.startsWith.trans h.startsWith,
    h'.replaceAtStart.trans h.replaceAtStart⟩

lemma insert_mem_verbs : "INSERT".toList ∈ verbs.take 2 := by simp [verbs]

lemma update_mem_verbs : "UPDATE".toList ∈ verbs.take 2 := by simp [verbs]

lemma rollback_algorithms : ∀ algorithm ∈ ["ROLLBACK"], algorithm ∈ conflictAlgorithms := by
  simp [conflictAlgorithms]

lemma reviewable_algorithms :
    ∀ algorithm ∈ reviewableAlgorithms, algorithm ∈ conflictAlgorithms := by
  simp [conflictAlgorithms, reviewableAlgorithms]

lemma neutralizeRollback_around (h : Stage place before after) :
    ∃ before' after', ∀ content, place.Holds content →
      neutralizeRollbackConflictResolution letters.toCharacters
          (around place before after content) = around place before' after' content := by
  obtain ⟨before₁, after₁, resolution₁, hkept₁, hinsert⟩ :=
    @removeTopLevelOrClause_around letters _ _ _ _ _ insert_mem_verbs rollback_algorithms h
  obtain ⟨before₂, after₂, resolution₂, -, hupdate⟩ :=
    @removeTopLevelOrClause_around letters _ _ _ _ _ update_mem_verbs rollback_algorithms
      hkept₁.stage
  refine ⟨before₂, after₂, fun content hholds => ?_⟩
  rw [neutralizeRollbackConflictResolution, insertOrRollbackPattern, hinsert content hholds,
    updateOrRollbackPattern, hupdate content hholds]

lemma strictClauses_around (h : Stage place before after) :
    ∃ before' after' labels, Kept letters place before after before' after' ∧
      (startsWithInsertLikeStatement letters.toCharacters before' = true ↔
        startsWithInsertLikeStatement letters.toCharacters before = true ∨
          ReplaceAtStart letters place before) ∧
      ∀ content, place.Holds content →
        strictClauses letters.toCharacters (around place before after content) =
          (around place before' after' content, labels) := by
  obtain ⟨before₁, after₁, resolution₁, hkept₁, hinsert⟩ :=
    @removeTopLevelOrClause_around letters _ _ _ _ _ insert_mem_verbs reviewable_algorithms h
  obtain ⟨before₂, after₂, resolution₂, hkept₂, hupdate⟩ :=
    @removeTopLevelOrClause_around letters _ _ _ _ _ update_mem_verbs reviewable_algorithms
      hkept₁.stage
  obtain ⟨before₃, after₃, resolution₃, hkept₃, hstart, hreplace⟩ :=
    @rewriteTopLevelReplaceInto_around letters _ _ _ _ (.inl rfl) hkept₂.stage
  have hboth := hkept₁.trans hkept₂
  refine ⟨before₃, after₃, (resolution₁.map resolutionLabel).toList ++
    (resolution₂.map resolutionLabel).toList ++
      (resolution₃.map fun _ => "REPLACE INTO".toList).toList, hboth.toKept.trans hkept₃, ?_,
    fun content hholds => ?_⟩
  · rw [hstart, hboth.startsWith, hboth.replaceAtStart]
  · rw [strictClauses, reviewableInsertOrPattern, hinsert content hholds]
    dsimp only
    rw [reviewableUpdateOrPattern, hupdate content hholds]
    dsimp only
    rw [stripTopLevelReplaceInto, hreplace content hholds]

lemma normalizeClauses_around (h : Stage place before after) :
    ∃ before' after' resolution, Kept letters place before after before' after' ∧
      (startsWithInsertLikeStatement letters.toCharacters before' = true →
        startsWithInsertLikeStatement letters.toCharacters before = true ∨
          ReplaceAtStart letters place before) ∧
      ∀ content, place.Holds content →
        normalizeClauses letters.toCharacters (around place before after content) =
          (around place before' after' content, resolution) := by
  have halgorithms : ∀ algorithm ∈ conflictAlgorithms, algorithm ∈ conflictAlgorithms :=
    fun _ h => h
  obtain ⟨insertResolution, hinsert⟩ := @insertOrResolution_around letters _ _ _ h
  obtain ⟨before₁, after₁, resolution₁, hkept₁, hupdate⟩ :=
    @removeTopLevelOrClause_around letters _ _ _ _ _ update_mem_verbs halgorithms h
  obtain ⟨before₂, after₂, resolution₂, hkept₂, hstart, hreplace⟩ :=
    @rewriteTopLevelReplaceInto_around letters _ _ _ _ (.inr rfl) h
  have hread : ∀ content, place.Holds content →
      normalizeClauses letters.toCharacters (around place before after content) =
        match resolution₁, insertResolution, resolution₂ with
        | some resolution, _, _ => (around place before₁ after₁ content, some resolution)
        | none, some resolution, _ => (around place before after content, some resolution)
        | none, none, some resolution => (around place before₂ after₂ content, some resolution)
        | none, none, none => (around place before after content, none) := by
    intro content hholds
    rw [normalizeClauses, hinsert content hholds, updateOrPattern, hupdate content hholds]
    cases resolution₁ with
    | some resolution => rfl
    | none =>
      cases insertResolution with
      | some resolution => rfl
      | none =>
        dsimp only
        rw [normalizeTopLevelReplaceInto, hreplace content hholds]
        cases resolution₂ <;> rfl
  match resolution₁, insertResolution, resolution₂ with
  | some resolution, _, _ =>
    exact ⟨before₁, after₁, some resolution, hkept₁.toKept,
      fun hstarts => .inl (hkept₁.startsWith.mp hstarts), hread⟩
  | none, some resolution, _ =>
    exact ⟨before, after, some resolution, .refl h, fun hstarts => .inl hstarts, hread⟩
  | none, none, some resolution =>
    exact ⟨before₂, after₂, some resolution, hkept₂, hstart.mp, hread⟩
  | none, none, none => exact ⟨before, after, none, .refl h, fun hstarts => .inl hstarts, hread⟩

lemma rstrip_append (text rest : List Char) :
    rstrip (text ++ rest) = if rstrip rest = [] then rstrip text else text ++ rstrip rest := by
  simp only [rstrip, List.rdropWhile, List.reverse_append, List.dropWhile_append,
    List.reverse_eq_nil_iff, List.isEmpty_iff]
  split
  · rfl
  · simp

lemma rstrip_spaces (h : ∀ c ∈ text, isPythonSpace c = true) : rstrip text = [] := by
  rw [rstrip, List.rdropWhile_eq_nil_iff]
  exact h

lemma rstrip_ne_nil {c : Char} (hc : isPythonSpace c = false) (h : c ∈ text) :
    rstrip text ≠ [] := by
  rw [rstrip, Ne, List.rdropWhile_eq_nil_iff]
  intro hall
  rw [hall c h] at hc
  cases hc

def semicolonOf (sql : List Char) : List Char := if [';'] <:+ rstrip sql then [';'] else []

lemma stripTopLevelUpsert_eq (sql : List Char) :
    stripTopLevelUpsert letters.toCharacters sql =
      if startsWithInsertLikeStatement letters.toCharacters sql = true then
        (firstWithin letters.toCharacters (onConflict letters.toCharacters) .start [] sql).map
          fun first => rstrip first.1 ++ semicolonOf sql
      else none := by
  rw [stripTopLevelUpsert, findTopLevelOnConflict_eq]
  by_cases hstarts : startsWithInsertLikeStatement letters.toCharacters sql = true
  · rw [if_neg (by simp [hstarts]), if_pos hstarts, Option.map_map]
    cases hfirst : firstWithin letters.toCharacters (onConflict letters.toCharacters) .start []
      sql with
    | none => rfl
    | some first =>
      obtain ⟨before, value⟩ := first
      obtain ⟨c, rest, hsplit, -, -⟩ := firstWithin_some hfirst
      have htake : sql.take before.length = before := by rw [hsplit, List.take_left]
      show some (rstrip (sql.take before.length) ++ semicolonOf sql) = _
      rw [htake]
      rfl
  · rw [if_pos (by simpa using hstarts), if_neg hstarts]

lemma onConflict_length (h : onConflict letters.toCharacters text = some ()) : 2 < text.length := by
  rw [onConflict] at h
  split at h
  · next hread =>
    have hnext := (nextKeywordAfter_eq 2).mp hread.2.2
    by_contra hshort
    rw [List.drop_eq_nil_of_le (by omega)] at hnext
    exact hnext.1 rfl
  · cases h

lemma stripTopLevelUpsert_ne {sql stripped : List Char}
    (h : stripTopLevelUpsert letters.toCharacters sql = some stripped) : stripped ≠ sql := by
  rw [stripTopLevelUpsert_eq] at h
  split at h
  · obtain ⟨⟨before, value⟩, hfirst, hstripped⟩ := Option.map_eq_some_iff.mp h
    obtain ⟨c, rest, hsplit, hfound, -⟩ := firstWithin_some hfirst
    rw [List.append_nil] at hfound
    have hlong := onConflict_length hfound
    have hshort : (rstrip before).length ≤ before.length :=
      (List.rdropWhile_prefix isPythonSpace before).length_le
    have hsemicolon : (semicolonOf sql).length ≤ 1 := by
      rw [semicolonOf]
      split <;> simp
    intro hsame
    have hlength := congrArg List.length (hstripped.trans hsame)
    rw [List.length_append] at hlength
    rw [hsplit] at hlength
    simp only [List.length_append] at hlength hlong
    rw [← hsplit] at hlength
    omega
  · cases h

lemma withoutUpsert_eq (sql : List Char) :
    withoutUpsert letters.toCharacters sql =
      match stripTopLevelUpsert letters.toCharacters sql with
      | some stripped => (stripped, true)
      | none => (sql, false) := by
  rw [withoutUpsert]
  cases hstrip : stripTopLevelUpsert letters.toCharacters sql with
  | none => rfl
  | some stripped => exact if_pos (stripTopLevelUpsert_ne hstrip)

lemma startsWith_around (h : place.Stands after.head?) (before content : List Char) :
    startsWithInsertLikeStatement letters.toCharacters (around place before after content) = true ↔
      startsWithInsertLikeStatement letters.toCharacters before = true := by
  obtain ⟨c, rest, hcons, hbreaks⟩ := stops_text letters h content
  rw [around, hcons]
  exact startsWithInsertLike_stops hbreaks

lemma conflict_around (h : Stage place before after) (hholds : place.Holds content) :
    firstWithin letters.toCharacters (onConflict letters.toCharacters) .start []
        (around place before after content) =
      (firstWithin letters.toCharacters (onConflict letters.toCharacters) .start place.opening
        before).or
        ((firstWithin letters.toCharacters (onConflict letters.toCharacters)
          (afterPlace place before) [] after).map
            fun first => (before ++ (place.text content ++ first.1), first.2)) := by
  rw [first_around h hholds, firstWithin_congr (conflict_congr fun part _ _ =>
    ⟨ends_stops (stops_text letters h.stands content) part,
      ends_stops (stops_opening letters h.stands) part⟩)]

/-- The place is a line comment, and only white space stands between it and the first
ON CONFLICT. -/
structure CommentBeforeConflict (letters : Letters) (place : Place) (before after : List Char) :
    Prop where
  comment : ∃ terminator, place = .delimited (.lineComment terminator)
  noConflict : firstWithin letters.toCharacters (onConflict letters.toCharacters) .start
    place.opening before = none
  atCut : AtStart letters (onConflict letters.toCharacters) (afterPlace place before) [] after

/-- What `strip_top_level_upsert` makes of the text around a place. -/
inductive StripAround (letters : Letters) (place : Place) (before after : List Char) : Prop
  | nothing (h : ∀ content, place.Holds content →
      stripTopLevelUpsert letters.toCharacters (around place before after content) = none)
  | clause {first : List Char}
      (hfirst : ∃ value, firstWithin letters.toCharacters (onConflict letters.toCharacters) .start
        place.opening before = some (first, value))
      (h : ∀ content, place.Holds content →
        stripTopLevelUpsert letters.toCharacters (around place before after content) =
          some (rstrip first ++ semicolonOf (around place before after content)))
  | after {after' : List Char} (h : ∀ content, place.Holds content →
      stripTopLevelUpsert letters.toCharacters (around place before after content) =
        some (around place before after' content))

lemma semicolonOf_around {c : Char} (hc : isPythonSpace c = false) (hmem : c ∈ after)
    (content : List Char) : semicolonOf (around place before after content) = semicolonOf after := by
  have hne := rstrip_ne_nil hc hmem
  have hstrip : rstrip (around place before after content) =
      before ++ place.text content ++ rstrip after := by
    rw [around, ← List.append_assoc, rstrip_append, if_neg hne]
  have hlast : ∀ text : List Char, [';'] <:+ text ++ rstrip after ↔ [';'] <:+ rstrip after := by
    intro text
    obtain ⟨first, d, hsplit⟩ := (List.eq_nil_or_concat (rstrip after)).resolve_left hne
    have hsuffix : ∀ text : List Char, [';'] <:+ text ++ [d] ↔ ';' = d := by
      intro text
      constructor
      · rintro ⟨start, hstart⟩
        simpa using (List.append_inj' hstart rfl).2
      · rintro rfl
        exact List.suffix_append text [';']
    rw [hsplit, List.concat_eq_append, ← List.append_assoc, hsuffix, hsuffix]
  rw [semicolonOf, semicolonOf, hstrip]
  simp only [hlast]

lemma rstrip_place (hstands : place.Stands after.head?)
    (hcomment : ¬ ∃ terminator, place = .delimited (.lineComment terminator))
    (before content : List Char) :
    rstrip (before ++ place.text content) = before ++ place.text content := by
  have hlast : ∃ init c, place.closing = init ++ [c] ∧ isPythonSpace c = false := by
    cases place with
    | group => exact ⟨[], ')', rfl, by decide⟩
    | delimited delimiters =>
      cases delimiters with
      | quote delimiter =>
        have hbreaks : Breaks asciiCharacters delimiter :=
          breaks_of_ascii (List.mem_append_left _ hstands.1)
        exact ⟨[], delimiter, rfl, hbreaks.2⟩
      | bracket => exact ⟨[], ']', rfl, by decide⟩
      | lineComment terminator => exact absurd ⟨terminator, rfl⟩ hcomment
      | blockComment => exact ⟨['*'], '/', rfl, by decide⟩
  obtain ⟨init, c, hclosing, hc⟩ := hlast
  have hsplit : before ++ place.text content =
      before ++ (place.opening ++ content ++ init) ++ [c] := by
    simp [Place.text, hclosing]
  rw [hsplit, rstrip, List.rdropWhile_concat_neg _ _ _ (by simp [hc])]

lemma space_of_keyword {s : Scan} {c : Char}
    (h : s.atKeyword letters.toCharacters c = true) : isPythonSpace c = false := by
  have hword : letters.isWordChar c = true := by
    simp only [Scan.atKeyword, Bool.and_eq_true, Bool.or_eq_true, decide_eq_true_eq] at h
    rcases h.1.2 with halpha | rfl
    · exact letters.isWordChar_of_isAlpha c halpha
    · rw [letters.isWordChar_ascii '_' (by decide)]
      rfl
  by_contra hspace
  rw [not_word_of_space letters (by simpa using hspace)] at hword
  cases hword

lemma stripAround (h : Stage place before after)
    (hnot : startsWithInsertLikeStatement letters.toCharacters before = true →
      ¬ CommentBeforeConflict letters place before after) :
    StripAround letters place before after := by
  by_cases hstarts : startsWithInsertLikeStatement letters.toCharacters before = true
  · have hread : ∀ content, place.Holds content →
        stripTopLevelUpsert letters.toCharacters (around place before after content) =
          ((firstWithin letters.toCharacters (onConflict letters.toCharacters) .start place.opening
            before).or
            ((firstWithin letters.toCharacters (onConflict letters.toCharacters)
              (afterPlace place before) [] after).map fun first =>
                (before ++ (place.text content ++ first.1), first.2))).map fun first =>
                  rstrip first.1 ++ semicolonOf (around place before after content) := by
      intro content hholds
      rw [stripTopLevelUpsert_eq, if_pos ((startsWith_around h.stands before content).mpr hstarts),
        conflict_around h hholds]
    cases hbefore : firstWithin letters.toCharacters (onConflict letters.toCharacters) .start
      place.opening before with
    | some first =>
      obtain ⟨first, value⟩ := first
      refine .clause ⟨value, hbefore⟩ fun content hholds => ?_
      rw [hread content hholds, hbefore]
      rfl
    | none =>
      cases hafter : firstWithin letters.toCharacters (onConflict letters.toCharacters)
        (afterPlace place before) [] after with
      | none =>
        refine .nothing fun content hholds => ?_
        rw [hread content hholds, hbefore, hafter]
        rfl
      | some first =>
        obtain ⟨first, value⟩ := first
        obtain ⟨c, rest, hsplit, -, hkeyword⟩ := firstWithin_some hafter
        have hc := space_of_keyword hkeyword
        have hmem : c ∈ after := by simp [hsplit]
        have hstrip : ∀ content, rstrip (before ++ (place.text content ++ first)) =
            before ++ (place.text content ++ rstrip first) := by
          intro content
          rw [← List.append_assoc, rstrip_append]
          split
          · next hempty =>
            have hcomment : ¬ ∃ terminator, place = .delimited (.lineComment terminator) := by
              intro hcomment
              refine hnot hstarts ⟨hcomment, hbefore, first, value, hafter, ?_⟩
              rw [rstrip, List.rdropWhile_eq_nil_iff] at hempty
              exact List.dropWhile_eq_nil_iff.mpr hempty
            rw [rstrip_place h.stands hcomment, hempty, List.append_nil]
          · rw [List.append_assoc]
        have hcut : ∀ content, place.Holds content →
            stripTopLevelUpsert letters.toCharacters (around place before after content) =
              some (around place before (rstrip first ++ semicolonOf after) content) := by
          intro content hholds
          rw [hread content hholds, hbefore, hafter, semicolonOf_around hc hmem]
          show some (rstrip (before ++ (place.text content ++ first)) ++ semicolonOf after) = _
          rw [hstrip]
          simp [around]
        exact .after hcut
  · refine .nothing fun content _ => ?_
    rw [stripTopLevelUpsert_eq, if_neg fun hstarts' => hstarts
      ((startsWith_around h.stands before content).mp hstarts')]

/-- A comment right before the clause loses the white space it ends with. -/
lemma strip_comment (h : Stage place before after)
    (hstarts : startsWithInsertLikeStatement letters.toCharacters before = true)
    (hcomment : CommentBeforeConflict letters place before after) :
    ∃ semicolon, ∀ content, place.Holds content →
      stripTopLevelUpsert letters.toCharacters (around place before after content) =
        some (rstrip (before ++ (place.opening ++ content)) ++ semicolon) := by
  obtain ⟨⟨terminator, rfl⟩, hbefore, first, value, hafter, hspaces⟩ := hcomment
  obtain ⟨c, rest, hsplit, -, hkeyword⟩ := firstWithin_some hafter
  have hc := space_of_keyword hkeyword
  have hmem : c ∈ after := by simp [hsplit]
  refine ⟨semicolonOf after, fun content hholds => ?_⟩
  rw [stripTopLevelUpsert_eq, if_pos ((startsWith_around h.stands before content).mpr hstarts),
    conflict_around h hholds, hbefore, hafter, semicolonOf_around hc hmem]
  have hend : ∀ d ∈ (Place.delimited (.lineComment terminator)).closing ++ first,
      isPythonSpace d = true := by
    intro d hd
    rcases List.mem_append.mp hd with hd | hd
    · have hterminator : d = '\r' ∨ d = '\n' := by
        rcases h.stands with rfl | rfl | ⟨rfl, -⟩
        · exact .inl (by simpa [Place.closing, Delimiters.closing] using hd)
        · exact .inr (by simpa [Place.closing, Delimiters.closing] using hd)
        · simp [Place.closing, Delimiters.closing] at hd
      rcases hterminator with rfl | rfl <;> decide
    · exact List.dropWhile_eq_nil_iff.mp hspaces d hd
  have hstrip : rstrip (before ++ ((Place.delimited (.lineComment terminator)).text content ++
      first)) = rstrip (before ++ ((Place.delimited (.lineComment terminator)).opening ++
        content)) := by
    have hassoc : before ++ ((Place.delimited (.lineComment terminator)).text content ++ first) =
        before ++ ((Place.delimited (.lineComment terminator)).opening ++ content) ++
          ((Place.delimited (.lineComment terminator)).closing ++ first) := by
      simp [Place.text]
    rw [hassoc, rstrip_append, if_pos (rstrip_spaces hend)]
  exact congrArg (fun text => some (text ++ semicolonOf after)) hstrip

/-- A text of well-formed tokens, with a place whose content can be replaced. -/
structure Frame where
  before : List Token
  place : Place
  after : List Token
  before_wellFormed : WellFormed place.opening before
  place_stands : place.Stands (texts after).head?
  after_wellFormed : WellFormed [] after

/-- Two results that differ only in what the place holds. -/
def SameReplacement (place : Place) (content content' result result' : List Char) : Prop :=
  ∃ before after, result = around place before after content ∧
    result' = around place before after content'

def EqualUpToSemicolon (result result' : List Char) : Prop :=
  ∃ stripped, (result = stripped ∨ result = stripped ++ [';']) ∧
    (result' = stripped ∨ result' = stripped ++ [';'])

namespace Frame

def sql (frame : Frame) (content : List Char) : List Char :=
  around frame.place (texts frame.before) (texts frame.after) content

variable (letters : Letters) (frame : Frame)

/-- The place lies behind the first ON CONFLICT. -/
def InUpsertClause (content : List Char) : Prop :=
  ∃ index, findTopLevelOnConflict letters.toCharacters (frame.sql content) = some index ∧
    index < (texts frame.before).length

/-- Two results that differ only in what the place holds, or not at all up to a semicolon where
the place lies in a clause that is stripped. -/
def Alike (content content' : List Char) (stripped : Prop) (result result' : List Char) : Prop :=
  SameReplacement frame.place content content' result result' ∨
    stripped ∧ frame.InUpsertClause letters content ∧ EqualUpToSemicolon result result'

/-- The five functions treat the two texts alike. -/
structure RewritesAlike (content content' : List Char) : Prop where
  resolution :
    (normalizeSqlForSqlglot letters.toCharacters (frame.sql content)).conflictResolution =
      (normalizeSqlForSqlglot letters.toCharacters (frame.sql content')).conflictResolution
  strippedUpsert :
    (normalizeSqlForSqlglot letters.toCharacters (frame.sql content)).strippedUpsert =
      (normalizeSqlForSqlglot letters.toCharacters (frame.sql content')).strippedUpsert
  normalize : frame.Alike letters content content'
    ((normalizeSqlForSqlglot letters.toCharacters (frame.sql content)).strippedUpsert = true)
    (normalizeSqlForSqlglot letters.toCharacters (frame.sql content)).sql
    (normalizeSqlForSqlglot letters.toCharacters (frame.sql content')).sql
  neutralize : SameReplacement frame.place content content'
    (neutralizeRollbackConflictResolution letters.toCharacters (frame.sql content))
    (neutralizeRollbackConflictResolution letters.toCharacters (frame.sql content'))
  strict : Option.Rel
    (fun rewrite rewrite' => rewrite.label = rewrite'.label ∧
      frame.Alike letters content content' ("UPSERT".toList <:+ rewrite.label) rewrite.sql
        rewrite'.sql)
    (strictConflictResolutionRewrite letters.toCharacters (frame.sql content))
    (strictConflictResolutionRewrite letters.toCharacters (frame.sql content'))
  strip : Option.Rel (frame.Alike letters content content' True)
    (stripTopLevelUpsert letters.toCharacters (frame.sql content))
    (stripTopLevelUpsert letters.toCharacters (frame.sql content'))
  restore : ∀ resolution, SameReplacement frame.place content content'
    (restoreUpdateConflictResolution letters.toCharacters (frame.sql content) resolution)
    (restoreUpdateConflictResolution letters.toCharacters (frame.sql content') resolution)

/-- The place is a line comment, and only white space stands between it and the first top-level
ON CONFLICT of a text that starts with INSERT, WITH or REPLACE INTO. -/
structure CommentBeforeUpsert : Prop where
  comment : ∃ terminator, frame.place = .delimited (.lineComment terminator)
  starts : startsWithInsertLikeStatement letters.toCharacters (frame.sql []) = true ∨
    (replaceIntoPattern letters.toCharacters
      ((frame.sql []).dropWhile isPythonSpace)).isSome = true
  conflict : ∃ index, findTopLevelOnConflict letters.toCharacters (frame.sql []) = some index ∧
    (texts frame.before ++ frame.place.text []).length ≤ index ∧
      ∀ c ∈ ((frame.sql []).take index).drop (texts frame.before ++ frame.place.text []).length,
        isPythonSpace c = true

end Frame

lemma stage_frame (frame : Frame) :
    Stage frame.place (texts frame.before) (texts frame.after) :=
  ⟨between_texts ⟨rfl, rfl⟩ frame.before_wellFormed (opening_ne_nil _), frame.place_stands⟩

lemma atStart_replaceInto {s : Scan} (hs : s.Between) (hdepth : s.depth = 0)
    (hprevious : s.AfterWord letters.toCharacters) :
    AtStart letters (replaceIntoPattern letters.toCharacters) s [] text ↔
      (replaceIntoPattern letters.toCharacters (text.dropWhile isPythonSpace)).isSome = true := by
  have hletter : ∀ c rest, (replaceIntoPattern letters.toCharacters (c :: rest)).isSome = true →
      letters.ignoreCase 'R' c = true := by
    intro c rest hsome
    by_contra hmatch
    have hread : matchLetters letters.toCharacters "REPLACE".toList (c :: rest) = none := by
      show matchLetters letters.toCharacters ('R' :: "EPLACE".toList) (c :: rest) = none
      rw [matchLetters, if_neg hmatch]
    rw [replaceIntoPattern_eq, hread] at hsome
    cases hsome
  induction text generalizing s with
  | nil =>
    refine iff_of_false atStart_nil fun hsome => ?_
    rw [List.dropWhile_nil, replaceIntoPattern_eq] at hsome
    cases hsome
  | cons c text ih =>
    rw [atStart_cons, List.append_nil]
    by_cases hc : isPythonSpace c = true
    · have hword := not_word_of_space letters hc
      have hstep := step_inner letters hs (.inr hc) (text ++ []).head?
      have hnot : ¬ (replaceIntoPattern letters.toCharacters (c :: text)).isSome = true := by
        intro hsome
        have hmatch := hletter c text hsome
        rw [letters.isWordChar_of_ignoreCase 'R' c (by decide) hmatch] at hword
        cases hword
      have hrest : AtStart letters (replaceIntoPattern letters.toCharacters)
          ⟨s.index + 1, some c, s.depth, .code, false⟩ [] text ↔
            (replaceIntoPattern letters.toCharacters
              (text.dropWhile isPythonSpace)).isSome = true :=
        ih ⟨rfl, rfl⟩ hdepth (by simp [Scan.AfterWord, hword])
      rw [List.dropWhile_cons_of_pos hc, hstep, hrest]
      constructor
      · rintro (⟨-, hsome⟩ | ⟨-, hsome⟩)
        · exact absurd hsome hnot
        · exact hsome
      · intro hsome
        exact .inr ⟨hc, hsome⟩
    · rw [List.dropWhile_cons_of_neg hc]
      have hkeyword : (replaceIntoPattern letters.toCharacters (c :: text)).isSome = true →
          s.atKeyword letters.toCharacters c = true := by
        intro hsome
        have halpha := letters.isAlpha_of_ignoreCase 'R' c (by decide) (hletter c text hsome)
        have hprevious' : s.previous.all (!letters.isWordChar ·) = true := hprevious
        simp [Scan.atKeyword, hs.inside, hs.consumed, hdepth, halpha, hprevious']
      constructor
      · rintro (⟨-, hsome⟩ | ⟨hspace, -⟩)
        · exact hsome
        · exact absurd hspace hc
      · intro hsome
        exact .inl ⟨hkeyword hsome, hsome⟩

lemma replaceAtStart_around (h : Stage place before after) (hholds : place.Holds content) :
    (replaceIntoPattern letters.toCharacters
        ((around place before after content).dropWhile isPythonSpace)).isSome = true ↔
      ReplaceAtStart letters place before := by
  rw [← atStart_replaceInto (s := .start) ⟨rfl, rfl⟩ rfl (by simp [Scan.AfterWord, Scan.start])]
  obtain ⟨result, hresult⟩ := @first_local letters _ local_replaceIntoPattern .start before
  have hopening := hresult place.opening (stops_opening letters h.stands)
  have haround := @first_around letters _ (replaceIntoPattern letters.toCharacters) _ _ _ _ h hholds
  rw [hresult _ (stops_text letters h.stands content)] at haround
  constructor
  · rintro ⟨first, value, hfirst, hspaces⟩
    rw [haround, Option.or_eq_some_iff] at hfirst
    rcases hfirst with hfirst | ⟨-, hlater⟩
    · obtain ⟨first', hfound, hpair⟩ := Option.map_eq_some_iff.mp hfirst
      cases hpair
      exact ⟨first'.1, _, by rw [hopening, hfound]; rfl, hspaces⟩
    · obtain ⟨later, -, hpair⟩ := Option.map_eq_some_iff.mp hlater
      cases hpair
      obtain ⟨c, rest, hcons, hbreaks⟩ := breaks_opening letters.toCharacters h.stands
      have hc := List.dropWhile_eq_nil_iff.mp hspaces c (by simp [Place.text, hcons])
      rw [hbreaks.2] at hc
      cases hc
  · rintro ⟨first, value, hfirst, hspaces⟩
    rw [hopening] at hfirst
    obtain ⟨first', hfound, hpair⟩ := Option.map_eq_some_iff.mp hfirst
    cases hpair
    exact ⟨first'.1, _, by rw [haround, hfound]; rfl, hspaces⟩

/-- The condition on the text, read off the scanner around the place. -/
lemma commentBeforeUpsert_iff (frame : Frame) :
    frame.CommentBeforeUpsert letters ↔
      (startsWithInsertLikeStatement letters.toCharacters (texts frame.before) = true ∨
        ReplaceAtStart letters frame.place (texts frame.before)) ∧
      CommentBeforeConflict letters frame.place (texts frame.before) (texts frame.after) := by
  have hstage := stage_frame frame
  constructor
  · rintro ⟨⟨terminator, hplace⟩, hstarts, index, hindex, hlarge, hspaces⟩
    have hholds : frame.place.Holds [] := by
      rw [hplace]
      exact ⟨List.not_mem_nil, List.not_mem_nil⟩
    rw [Frame.sql, startsWith_around hstage.stands, replaceAtStart_around hstage hholds] at hstarts
    rw [findTopLevelOnConflict_eq, Frame.sql, conflict_around hstage hholds] at hindex
    obtain ⟨⟨first, value⟩, hfirst, rfl⟩ := Option.map_eq_some_iff.mp hindex
    rw [Option.or_eq_some_iff] at hfirst
    rcases hfirst with hbefore | ⟨hbefore, hlater⟩
    · -- an ON CONFLICT before the place stands too early
      obtain ⟨c, rest, hsplit, -, -⟩ := firstWithin_some hbefore
      have hshort := congrArg List.length hsplit
      simp only [List.length_append, List.length_cons] at hshort hlarge
      omega
    · obtain ⟨⟨first', value'⟩, hafter, hpair⟩ := Option.map_eq_some_iff.mp hlater
      cases hpair
      refine ⟨hstarts, ⟨terminator, hplace⟩, hbefore, first', value', hafter, ?_⟩
      obtain ⟨c, rest, hsplit, -, -⟩ := firstWithin_some hafter
      refine List.dropWhile_eq_nil_iff.mpr fun d hd => hspaces d ?_
      have hread : frame.sql [] = texts frame.before ++ (frame.place.text [] ++ first') ++
          c :: rest := by
        simp [Frame.sql, around, hsplit]
      rw [hread, List.take_left, ← List.append_assoc, List.drop_left]
      exact hd
  · rintro ⟨hstarts, ⟨terminator, hplace⟩, hbefore, first, value, hafter, hspaces⟩
    have hholds : frame.place.Holds [] := by
      rw [hplace]
      exact ⟨List.not_mem_nil, List.not_mem_nil⟩
    obtain ⟨c, rest, hsplit, -, -⟩ := firstWithin_some hafter
    have hread : frame.sql [] = texts frame.before ++ (frame.place.text [] ++ first) ++
        c :: rest := by
      simp [Frame.sql, around, hsplit]
    refine ⟨⟨terminator, hplace⟩, ?_, (texts frame.before ++ (frame.place.text [] ++ first)).length,
      ?_, ?_, ?_⟩
    · rw [Frame.sql, startsWith_around hstage.stands, replaceAtStart_around hstage hholds]
      exact hstarts
    · rw [findTopLevelOnConflict_eq, Frame.sql, conflict_around hstage hholds, hbefore, hafter]
      rfl
    · simp only [List.length_append]
      omega
    · intro d hd
      rw [hread, List.take_left, ← List.append_assoc, List.drop_left] at hd
      exact List.dropWhile_eq_nil_iff.mp hspaces d hd

lemma sameReplacement (before after content content' : List Char) :
    SameReplacement place content content' (around place before after content)
      (around place before after content') :=
  ⟨before, after, rfl, rfl⟩

lemma restore_around (frame : Frame) {content content' : List Char}
    (hholds : frame.place.Holds content) (hholds' : frame.place.Holds content')
    (resolution : Option SQLiteConflictResolution) :
    SameReplacement frame.place content content'
      (restoreUpdateConflictResolution letters.toCharacters (frame.sql content) resolution)
      (restoreUpdateConflictResolution letters.toCharacters (frame.sql content') resolution) := by
  cases resolution with
  | none => exact sameReplacement _ _ _ _
  | some resolution =>
    simp only [restoreUpdateConflictResolution]
    split
    · exact sameReplacement _ _ _ _
    · have hstage := stage_frame frame
      cases @matchAround letters _ _ _ _ local_updateKeywordPattern hstage with
      | nowhere hfirst hmatch =>
        rw [Frame.sql, Frame.sql, hmatch content hholds, hmatch content' hholds']
        exact sameReplacement _ _ _ _
      | @before first part c found hbefore hfirst hkeyword hfound hmatch =>
        rw [Frame.sql, Frame.sql, hmatch content hholds, hmatch content' hholds']
        exact ⟨first ++ found.group1 ++ " OR ".toList ++ resolution.algorithm ++ [' '] ++
          found.after, texts frame.after, by simp [around], by simp [around]⟩
      | @after first part c found hafter hfirst hkeyword hfound hmatch =>
        rw [Frame.sql, Frame.sql, hmatch content hholds, hmatch content' hholds']
        exact ⟨texts frame.before, first ++ found.group1 ++ " OR ".toList ++
          resolution.algorithm ++ [' '] ++ found.after, by simp [around], by simp [around]⟩

lemma inUpsertClause_of {frame : Frame} {first : List Char} {value : Unit}
    (hholds : frame.place.Holds content)
    (h : firstWithin letters.toCharacters (onConflict letters.toCharacters) .start
      frame.place.opening (texts frame.before) = some (first, value)) :
    frame.InUpsertClause letters content := by
  obtain ⟨c, rest, hsplit, -, -⟩ := firstWithin_some h
  refine ⟨first.length, ?_, ?_⟩
  · rw [findTopLevelOnConflict_eq, Frame.sql, conflict_around (stage_frame frame) hholds, h]
    rfl
  · rw [hsplit, List.length_append, List.length_cons]
    omega

lemma equalUpToSemicolon (stripped sql sql' : List Char) :
    EqualUpToSemicolon (stripped ++ semicolonOf sql) (stripped ++ semicolonOf sql') := by
  refine ⟨stripped, ?_, ?_⟩
  · rw [semicolonOf]
    split <;> simp
  · rw [semicolonOf]
    split <;> simp

lemma strip_alike {frame : Frame} {before' after' content content' : List Char}
    (hkept : Kept letters frame.place (texts frame.before) (texts frame.after) before' after')
    (hstrip : StripAround letters frame.place before' after')
    (hholds : frame.place.Holds content) (hholds' : frame.place.Holds content') :
    Option.Rel (frame.Alike letters content content' True)
      (stripTopLevelUpsert letters.toCharacters (around frame.place before' after' content))
      (stripTopLevelUpsert letters.toCharacters (around frame.place before' after' content')) := by
  cases hstrip with
  | nothing h =>
    rw [h content hholds, h content' hholds']
    exact .none
  | clause hfirst h =>
    obtain ⟨value, hfirst⟩ := hfirst
    have hne : firstWithin letters.toCharacters (onConflict letters.toCharacters) .start
        frame.place.opening (texts frame.before) ≠ none := by
      intro hnone
      rw [hkept.noConflict.mpr hnone] at hfirst
      cases hfirst
    obtain ⟨⟨first', value'⟩, hsome⟩ := Option.ne_none_iff_exists'.mp hne
    rw [h content hholds, h content' hholds']
    exact .some (.inr ⟨trivial, inUpsertClause_of hholds hsome, equalUpToSemicolon _ _ _⟩)
  | after h =>
    rw [h content hholds, h content' hholds']
    exact .some (.inl (sameReplacement _ _ _ _))

lemma withoutUpsert_alike {frame : Frame} {before' after' content content' : List Char}
    (hkept : Kept letters frame.place (texts frame.before) (texts frame.after) before' after')
    (hstrip : StripAround letters frame.place before' after')
    (hholds : frame.place.Holds content) (hholds' : frame.place.Holds content') :
    (withoutUpsert letters.toCharacters (around frame.place before' after' content)).2 =
        (withoutUpsert letters.toCharacters (around frame.place before' after' content')).2 ∧
      frame.Alike letters content content'
        ((withoutUpsert letters.toCharacters (around frame.place before' after' content)).2 = true)
        (withoutUpsert letters.toCharacters (around frame.place before' after' content)).1
        (withoutUpsert letters.toCharacters (around frame.place before' after' content')).1 := by
  have hrel := strip_alike hkept hstrip hholds hholds'
  rw [withoutUpsert_eq, withoutUpsert_eq]
  cases hread : stripTopLevelUpsert letters.toCharacters
      (around frame.place before' after' content) with
  | none =>
    rw [hread] at hrel
    generalize stripTopLevelUpsert letters.toCharacters
      (around frame.place before' after' content') = result at hrel ⊢
    cases hrel
    exact ⟨rfl, .inl (sameReplacement _ _ _ _)⟩
  | some stripped =>
    rw [hread] at hrel
    generalize stripTopLevelUpsert letters.toCharacters
      (around frame.place before' after' content') = result at hrel ⊢
    cases hrel with
    | some halike =>
      refine ⟨rfl, halike.imp_right fun hclause => ?_⟩
      exact ⟨rfl, hclause.2⟩

lemma commentBeforeConflict_of_kept {before' after' : List Char}
    (h : Kept letters place before after before' after') :
    CommentBeforeConflict letters place before' after' ↔
      CommentBeforeConflict letters place before after :=
  ⟨fun hcomment => ⟨hcomment.comment, h.noConflict.mp hcomment.noConflict,
      h.atCut.mp hcomment.atCut⟩,
    fun hcomment => ⟨hcomment.comment, h.noConflict.mpr hcomment.noConflict,
      h.atCut.mpr hcomment.atCut⟩⟩

lemma suffix_intercalate (separator last : List Char) (labels : List (List Char)) :
    last <:+ separator.intercalate (labels ++ [last]) := by
  induction labels with
  | nil => simp
  | cons label labels ih =>
    have hsplit : separator.intercalate (label :: (labels ++ [last])) =
        label ++ separator ++ separator.intercalate (labels ++ [last]) := by
      cases labels <;> simp [List.intercalate, List.intersperse]
    rw [List.cons_append, hsplit]
    exact ih.trans (List.suffix_append _ _)

lemma strict_alike {frame : Frame} {content content' : List Char}
    (hnot : ¬ frame.CommentBeforeUpsert letters)
    (hholds : frame.place.Holds content) (hholds' : frame.place.Holds content') :
    Option.Rel
      (fun rewrite rewrite' => rewrite.label = rewrite'.label ∧
        frame.Alike letters content content' ("UPSERT".toList <:+ rewrite.label) rewrite.sql
          rewrite'.sql)
      (strictConflictResolutionRewrite letters.toCharacters (frame.sql content))
      (strictConflictResolutionRewrite letters.toCharacters (frame.sql content')) := by
  obtain ⟨before', after', labels, hkept, hstart, hread⟩ :=
    @strictClauses_around letters _ _ _ (stage_frame frame)
  have hstrip : StripAround letters frame.place before' after' := by
    refine stripAround hkept.stage fun hstarts hcomment => hnot ?_
    exact (commentBeforeUpsert_iff frame).mpr
      ⟨hstart.mp hstarts, (commentBeforeConflict_of_kept hkept).mp hcomment⟩
  obtain ⟨hflag, halike⟩ := withoutUpsert_alike hkept hstrip hholds hholds'
  rw [strictConflictResolutionRewrite, strictConflictResolutionRewrite, Frame.sql, Frame.sql,
    hread content hholds, hread content' hholds']
  dsimp only
  rw [← hflag]
  by_cases hempty : (labels ++ if (withoutUpsert letters.toCharacters
      (around frame.place before' after' content)).2 = true then ["UPSERT".toList] else []) = []
  · rw [if_pos hempty, if_pos hempty]
    exact .none
  · rw [if_neg hempty, if_neg hempty]
    refine .some ⟨rfl, halike.imp_right fun hclause => ⟨?_, hclause.2⟩⟩
    rw [hclause.1, if_pos rfl]
    exact suffix_intercalate _ _ _

/-- A comment right before the clause loses the white space it ends with, and with it the
difference between two twins. -/
lemma not_alike_of_comment {frame : Frame} {before' after' : List Char}
    (hkept : Kept letters frame.place (texts frame.before) (texts frame.after) before' after')
    (hstarts : startsWithInsertLikeStatement letters.toCharacters before' = true)
    (hcomment : CommentBeforeConflict letters frame.place (texts frame.before)
      (texts frame.after)) :
    ∃ stripped, (∀ content, content = [] ∨ content = [' '] → frame.place.Holds content ∧
      stripTopLevelUpsert letters.toCharacters (around frame.place before' after' content) =
        some stripped) ∧ ∀ clause, ¬ frame.Alike letters [] [' '] clause stripped stripped := by
  obtain ⟨semicolon, hread⟩ := strip_comment hkept.stage hstarts
    ((commentBeforeConflict_of_kept hkept).mpr hcomment)
  obtain ⟨⟨terminator, hplace⟩, hbefore, first, value, hafter, -⟩ := hcomment
  have hholds : ∀ content, content = [] ∨ content = [' '] → frame.place.Holds content := by
    rw [hplace]
    rintro content (rfl | rfl)
    · exact ⟨List.not_mem_nil, List.not_mem_nil⟩
    · exact ⟨by decide, by decide⟩
  refine ⟨rstrip (before' ++ (frame.place.opening ++ [])) ++ semicolon, ?_, ?_⟩
  · intro content hcontent
    refine ⟨hholds content hcontent, ?_⟩
    rw [hread content (hholds content hcontent)]
    rcases hcontent with rfl | rfl
    · rfl
    · have hspace : rstrip [' '] = [] := rstrip_spaces (by simp [isPythonSpace])
      rw [← List.append_assoc, rstrip_append, if_pos hspace, List.append_nil]
  · rintro clause (⟨before, after, hsame, hsame'⟩ | ⟨-, ⟨index, hindex, hsmall⟩, -⟩)
    · have hlength := congrArg List.length (hsame.symm.trans hsame')
      simp only [around, Place.text, List.length_append, List.length_nil, List.length_cons]
        at hlength
      omega
    · rw [findTopLevelOnConflict_eq, Frame.sql,
        conflict_around (stage_frame frame) (hholds [] (.inl rfl)), hbefore, hafter] at hindex
      cases hindex
      simp only [List.length_append] at hsmall
      omega

/-- **Twins are rewritten alike exactly when the place is no comment right before the UPSERT
clause.** -/
theorem rewritesAlike_iff (letters : Letters) (frame : Frame) :
    (∀ content content', frame.place.Holds content → frame.place.Holds content' →
        frame.RewritesAlike letters content content') ↔
      ¬ frame.CommentBeforeUpsert letters := by
  have hstage := stage_frame frame
  constructor
  · intro halike hcomment
    obtain ⟨hstarts, hconflict⟩ := (commentBeforeUpsert_iff frame).mp hcomment
    rcases hstarts with hstarts | hreplace
    · obtain ⟨stripped, hread, hnot⟩ := not_alike_of_comment (.refl hstage) hstarts hconflict
      obtain ⟨hholds, hempty⟩ := hread [] (.inl rfl)
      obtain ⟨hholds', hspace⟩ := hread [' '] (.inr rfl)
      have hstrip := (halike [] [' '] hholds hholds').strip
      rw [Frame.sql, Frame.sql, hempty, hspace] at hstrip
      cases hstrip with
      | some hrel => exact hnot _ hrel
    · obtain ⟨before', after', labels, hkept, hstart, hclauses⟩ :=
        @strictClauses_around letters _ _ _ hstage
      obtain ⟨stripped, hread, hnot⟩ :=
        not_alike_of_comment hkept (hstart.mpr (.inr hreplace)) hconflict
      obtain ⟨hholds, hempty⟩ := hread [] (.inl rfl)
      obtain ⟨hholds', hspace⟩ := hread [' '] (.inr rfl)
      have hstrict := (halike [] [' '] hholds hholds').strict
      have hsome : ∀ content, content = [] ∨ content = [' '] →
          ∃ label, strictConflictResolutionRewrite letters.toCharacters (frame.sql content) =
            some ⟨stripped, label⟩ := by
        intro content hcontent
        obtain ⟨hholds, hstrip⟩ := hread content hcontent
        refine ⟨" / ".toList.intercalate (labels ++ ["UPSERT".toList]), ?_⟩
        rw [strictConflictResolutionRewrite, Frame.sql, hclauses content hholds]
        dsimp only
        rw [withoutUpsert_eq, hstrip]
        simp
      obtain ⟨label, hfirst⟩ := hsome [] (.inl rfl)
      obtain ⟨label', hsecond⟩ := hsome [' '] (.inr rfl)
      rw [hfirst, hsecond] at hstrict
      cases hstrict with
      | some hrel => exact hnot _ hrel.2
  · intro hnot content content' hholds hholds'
    obtain ⟨before', after', resolution, hkept, hstart, hclauses⟩ :=
      @normalizeClauses_around letters _ _ _ hstage
    have hnormal : StripAround letters frame.place before' after' := by
      refine stripAround hkept.stage fun hstarts hcomment => hnot ?_
      exact (commentBeforeUpsert_iff frame).mpr
        ⟨hstart hstarts, (commentBeforeConflict_of_kept hkept).mp hcomment⟩
    have hself : StripAround letters frame.place (texts frame.before) (texts frame.after) := by
      refine stripAround hstage fun hstarts hcomment => hnot ?_
      exact (commentBeforeUpsert_iff frame).mpr ⟨.inl hstarts, hcomment⟩
    obtain ⟨hflag, hsql⟩ := withoutUpsert_alike hkept hnormal hholds hholds'
    obtain ⟨before₁, after₁, hneutral⟩ := @neutralizeRollback_around letters _ _ _ hstage
    constructor
    · simp only [normalizeSqlForSqlglot, Frame.sql, hclauses content hholds,
        hclauses content' hholds']
    · simp only [normalizeSqlForSqlglot, Frame.sql, hclauses content hholds,
        hclauses content' hholds']
      exact hflag
    · simp only [normalizeSqlForSqlglot, Frame.sql, hclauses content hholds,
        hclauses content' hholds']
      exact hsql
    · rw [Frame.sql, Frame.sql, hneutral content hholds, hneutral content' hholds']
      exact sameReplacement _ _ _ _
    · exact strict_alike hnot hholds hholds'
    · exact strip_alike (.refl hstage) hself hholds hholds'
    · exact restore_around frame hholds hholds'

def asciiLetters : Letters where
  toCharacters := asciiCharacters
  isWordChar_of_isAlpha c h := by
    have halpha : c.isAlpha = true := h
    simp [asciiCharacters, asciiUnicode, Char.isAlphanum, halpha]
  isAlpha_of_ignoreCase letter c hletter h := by
    show c.isAlpha = true
    rw [← Char.isAlpha_toUpper_eq_isAlpha, of_decide_eq_true h, Char.isAlpha, hletter,
      Bool.true_or]
  ignoreCase_inj letter other c _ _ h h' :=
    (of_decide_eq_true h).symm.trans (of_decide_eq_true h')
  upper_of_ignoreCase letter c _ h := .inl (congrArg (fun d => [d]) (of_decide_eq_true h))
  upper_of_not_word c h := by
    refine ⟨c.toUpper, [], rfl, ?_⟩
    have halpha : c.isAlpha = false := by
      have hor : (c.isAlphanum || decide (c = '_')) = false := h
      simp only [Bool.or_eq_false_iff, Char.isAlphanum] at hor
      exact hor.1.1
    rw [← Char.isAlpha_toUpper_eq_isAlpha, Char.isAlpha, Bool.or_eq_false_iff] at halpha
    exact halpha.1

lemma wellFormed_plain {chars : List Char}
    (h : chars.all (fun c => !(quotes ++ ['[', '-', '/']).contains c) = true) :
    WellFormed after (chars.map .plain) := by
  induction chars with
  | nil => trivial
  | cons c chars ih =>
    rw [List.all_cons, Bool.and_eq_true] at h
    obtain ⟨hc, hchars⟩ := h
    simp only [List.contains_iff_mem, List.mem_append, List.mem_cons, List.not_mem_nil, or_false,
      Bool.not_eq_true', Bool.eq_false_iff, ne_eq, not_or] at hc
    obtain ⟨hquote, hbracket, hdash, hslash⟩ := hc
    exact ⟨⟨hquote, hbracket, fun hc => hdash hc.1, fun hc => hslash hc.1⟩, ih hchars⟩

/-- `INSERT INTO t VALUES (1) -- …` with ON CONFLICT in the next line. -/
def commentFrame : Frame where
  before := "INSERT INTO t VALUES (1) ".toList.map .plain
  place := .delimited (.lineComment (some '\n'))
  after := "ON CONFLICT DO NOTHING".toList.map .plain
  before_wellFormed := wellFormed_plain (by decide +kernel)
  place_stands := .inr (.inl rfl)
  after_wellFormed := wellFormed_plain (by decide +kernel)

/-- The comments `-- a` and `-- a ` leave the same text. -/
theorem commentTwins_same :
    stripTopLevelUpsert asciiLetters.toCharacters (commentFrame.sql " a".toList) =
        some "INSERT INTO t VALUES (1) -- a".toList ∧
      stripTopLevelUpsert asciiLetters.toCharacters (commentFrame.sql " a ".toList) =
        some "INSERT INTO t VALUES (1) -- a".toList ∧
      ¬ ∀ content content', commentFrame.place.Holds content →
        commentFrame.place.Holds content' →
          commentFrame.RewritesAlike asciiLetters content content' := by
  have hfirst : stripTopLevelUpsert asciiLetters.toCharacters (commentFrame.sql " a".toList) =
      some "INSERT INTO t VALUES (1) -- a".toList := by decide +kernel
  have hsecond : stripTopLevelUpsert asciiLetters.toCharacters (commentFrame.sql " a ".toList) =
      some "INSERT INTO t VALUES (1) -- a".toList := by decide +kernel
  refine ⟨hfirst, hsecond, fun halike => ?_⟩
  have hstrip := (halike " a".toList " a ".toList ⟨by simp, by simp⟩ ⟨by simp, by simp⟩).strip
  rw [hfirst, hsecond] at hstrip
  cases hstrip with
  | some hrel =>
    rcases hrel with ⟨before, after, hsame, hsame'⟩ | ⟨-, ⟨index, hindex, hsmall⟩, -⟩
    · have hlength := congrArg List.length (hsame.symm.trans hsame')
      simp [around, Place.text] at hlength
    · have hread : findTopLevelOnConflict asciiLetters.toCharacters
          (commentFrame.sql " a".toList) = some 30 := by decide +kernel
      rw [hread] at hindex
      cases hindex
      revert hsmall
      decide +kernel

end SqliteReconcile.ConflictSyntax
