import SqliteReconcile.SpacedLayouts

/-!
# Recognising clauses in every layout

When the clauses of a statement are recognised alike in all of its layouts.
-/
namespace SqliteReconcile.TextItems
open StatementLogging ConflictSyntax

variable {letters : Letters} {items items' : List Item} {layout layout' : Layout}
variable {touching : List Item → List Item → Prop}

lemma normalizeClauses_readings (h : Readings letters items items') :
    ∃ after after' resolution, Readings letters after after' ∧
      normalizeClauses letters.toCharacters (textOf items) = (textOf after, resolution) ∧
      normalizeClauses letters.toCharacters (textOf items') = (textOf after', resolution) := by
  obtain ⟨updated, updated', update, hupdated, hread, hread', hnone, -⟩ :=
    removeTopLevelOrClause_readings update_mem_verbs (fun _ h => h) h
  have hinsert := insertOrResolution_readings h
  obtain ⟨replaced, replaced', replace, hreplaced, hreplace, hreplace', hunchanged⟩ :=
    rewriteTopLevelReplaceInto_readings (.inr rfl) h
  simp only [normalizeClauses, updateOrPattern, normalizeTopLevelReplaceInto, hread, hread',
    hinsert]
  cases update with
  | some update => exact ⟨updated, updated', some update, hupdated, rfl, rfl⟩
  | none =>
    obtain ⟨rfl, rfl⟩ := hnone rfl
    cases insertOrResolution letters.toCharacters (textOf updated') with
    | some insert => exact ⟨updated, updated', some insert, h, rfl, rfl⟩
    | none =>
      simp only [hreplace, hreplace']
      cases replace with
      | some replace => exact ⟨replaced, replaced', some replace, hreplaced, rfl, rfl⟩
      | none => exact ⟨updated, updated', none, h, rfl, rfl⟩

lemma strictClauses_readings (h : Readings letters items items') :
    ∃ after after' labels, Readings letters after after' ∧
      strictClauses letters.toCharacters (textOf items) = (textOf after, labels) ∧
      strictClauses letters.toCharacters (textOf items') = (textOf after', labels) := by
  obtain ⟨inserted, inserted', insert, hinserted, hread, hread', -⟩ :=
    removeTopLevelOrClause_readings insert_mem_verbs reviewable_algorithms h
  obtain ⟨updated, updated', update, hupdated, hupdate, hupdate', -⟩ :=
    removeTopLevelOrClause_readings update_mem_verbs reviewable_algorithms hinserted
  obtain ⟨replaced, replaced', replace, hreplaced, hreplace, hreplace', -⟩ :=
    rewriteTopLevelReplaceInto_readings (.inl rfl) hupdated
  refine ⟨replaced, replaced', (insert.map resolutionLabel).toList ++
    (update.map resolutionLabel).toList ++
      (replace.map fun _ => "REPLACE INTO".toList).toList, hreplaced, ?_, ?_⟩
  · simp only [strictClauses, reviewableInsertOrPattern, reviewableUpdateOrPattern,
      stripTopLevelReplaceInto, hread, hupdate, hreplace]
  · simp only [strictClauses, reviewableInsertOrPattern, reviewableUpdateOrPattern,
      stripTopLevelReplaceInto, hread', hupdate', hreplace']

lemma neutralizeRollback_readings (h : Readings letters items items') :
    neutralizeRollbackConflictResolution letters.toCharacters (textOf items) = textOf items ↔
      neutralizeRollbackConflictResolution letters.toCharacters (textOf items') =
        textOf items' := by
  obtain ⟨inserted, inserted', insert, hinserted, hread, hread', hnone, hshorter⟩ :=
    removeTopLevelOrClause_readings insert_mem_verbs rollback_algorithms h
  obtain ⟨updated, updated', update, hupdated, hupdate, hupdate', hnone', hshorter'⟩ :=
    removeTopLevelOrClause_readings update_mem_verbs rollback_algorithms hinserted
  simp only [neutralizeRollbackConflictResolution, insertOrRollbackPattern,
    updateOrRollbackPattern, hread, hread', hupdate, hupdate']
  by_cases hboth : insert = none ∧ update = none
  · obtain ⟨rfl, rfl⟩ := hnone hboth.1
    obtain ⟨rfl, rfl⟩ := hnone' hboth.2
    exact iff_of_true rfl rfl
  · have hlengths : (textOf updated).length < (textOf items).length ∧
        (textOf updated').length < (textOf items').length := by
      by_cases hinsert : insert = none
      · obtain ⟨rfl, rfl⟩ := hnone hinsert
        exact hshorter' fun hupdate => hboth ⟨hinsert, hupdate⟩
      · obtain ⟨hfirst, hfirst'⟩ := hshorter hinsert
        by_cases hupdate : update = none
        · obtain ⟨rfl, rfl⟩ := hnone' hupdate
          exact ⟨hfirst, hfirst'⟩
        · obtain ⟨hsecond, hsecond'⟩ := hshorter' hupdate
          exact ⟨hsecond.trans hfirst, hsecond'.trans hfirst'⟩
    refine iff_of_false (fun hsame => ?_) fun hsame => ?_
    · rw [hsame] at hlengths
      exact absurd hlengths.1 (lt_irrefl _)
    · rw [hsame] at hlengths
      exact absurd hlengths.2 (lt_irrefl _)

lemma sameClauses_of_readings (h : Readings letters items items') :
    SameClauses letters (textOf items) (textOf items') := by
  obtain ⟨after, after', resolution, hafter, hread, hread'⟩ := normalizeClauses_readings h
  obtain ⟨stripped, stripped', flag, hstrip, hstrip', htokens⟩ := withoutUpsert_readings hafter
  obtain ⟨strict, strict', labels, hstrict, hlabels, hlabels'⟩ := strictClauses_readings h
  obtain ⟨rest, rest', upsert, hrest, hrest', -⟩ := withoutUpsert_readings hstrict
  refine ⟨?_, ?_, ?_, ?_, neutralizeRollback_readings h⟩
  · simp only [normalizeSqlForSqlglot, hread, hread']
  · simp only [normalizeSqlForSqlglot, hread, hread', hstrip, hstrip']
  · simp only [normalizeSqlForSqlglot, hread, hread', hstrip, hstrip']
    exact htokens
  · simp only [strictConflictResolutionRewrite, hlabels, hlabels', hrest, hrest']
    generalize labels ++ (if upsert = true then ["UPSERT".toList] else []) = all
    split
    · rfl
    · rfl

lemma Respaced.blank_items (h : ∀ item ∈ items, item.isBlank = true) : Respaced items items := by
  by_cases hempty : items = []
  · rw [hempty]
    exact .nil
  · have hblanks := Respaced.blanks hempty hempty h h .nil
    simpa using hblanks

lemma Respaced.token_items (h : ∀ item ∈ items, item.isSpace = false) : Respaced items items := by
  induction items with
  | nil => exact .nil
  | cons item items ih =>
    exact .item (h item (by simp)) (ih fun other hother => h other (by simp [hother]))

lemma respaced_pieces {pieces pieces' : List Piece} {tail : List Item}
    (htokens : pieces'.map Piece.token = pieces.map Piece.token)
    (hplain : ∀ piece ∈ pieces, ∀ item ∈ piece.token, item.isSpace = false)
    (hgaps : ∀ piece ∈ pieces, (∀ item ∈ piece.gap, item.isBlank = true) ∧ piece.gap ≠ [])
    (hgaps' : ∀ piece ∈ pieces', (∀ item ∈ piece.gap, item.isBlank = true) ∧ piece.gap ≠ [])
    (htail : ∀ item ∈ tail, item.isBlank = true) :
    Respaced (pieces.flatMap Piece.items ++ tail) (pieces'.flatMap Piece.items ++ tail) := by
  induction pieces generalizing pieces' with
  | nil =>
    rw [List.map_nil, List.map_eq_nil_iff] at htokens
    rw [htokens]
    exact .blank_items htail
  | cons piece pieces ih =>
    cases pieces' with
    | nil => cases htokens
    | cons piece' pieces' =>
      obtain ⟨htoken, hrest⟩ := List.cons.inj htokens
      have hlater := ih hrest (fun other h => hplain other (by simp [h]))
        (fun other h => hgaps other (by simp [h])) fun other h => hgaps' other (by simp [h])
      obtain ⟨hblank, hne⟩ := hgaps piece (by simp)
      obtain ⟨hblank', hne'⟩ := hgaps' piece' (by simp)
      have hsame := Respaced.token_items (hplain piece (by simp))
      simp only [List.flatMap_cons, Piece.items, List.append_assoc, htoken]
      exact .blanks hne hne' hblank hblank' (hsame.append hlater)

lemma readings_of_spaced (h : layout.WellFormed letters touching)
    (h' : layout'.WellFormed letters touching) (hplain : layout.Plain) (hspaced : layout.Spaced)
    (hspaced' : layout'.Spaced) (hrelaid : layout.Relaid layout') :
    Readings letters layout.items layout'.items := by
  have hblank : ∀ {item : Item}, item.isBlank = true → item.isComment = false := by
    intro item hitem
    cases item with
    | space _ => rfl
    | word _ => rfl
    | symbol _ => rfl
    | delimited _ _ => cases hitem
  have huncommented : ∀ {layout : Layout}, layout.WellFormed letters touching → layout.Spaced →
      ∀ item ∈ layout.items, item.isComment = false := by
    intro layout h hspaced item hitem
    rcases List.mem_append.mp hitem with hitem | hitem
    · obtain ⟨piece, hpiece, hitem⟩ := List.mem_flatMap.mp hitem
      rcases List.mem_append.mp hitem with hitem | hitem
      · exact hblank (hspaced.gaps piece hpiece item hitem)
      · have hnot := h.token_items piece hpiece item hitem
        rw [Item.isGap, Bool.or_eq_false_iff] at hnot
        exact hnot.2
    · exact hblank (hspaced.tail item hitem)
  refine ⟨?_, h.lexed, h'.lexed, huncommented h hspaced, huncommented h' hspaced'⟩
  obtain ⟨pieces, tail⟩ := layout
  obtain ⟨pieces', tail'⟩ := layout'
  obtain ⟨htokens, rfl⟩ := hrelaid
  have htail : ∀ item ∈ tail', item.isBlank = true := hspaced.tail
  have hsame : pieces'.map Piece.token = pieces.map Piece.token := htokens
  cases pieces with
  | nil =>
    rw [List.map_nil, List.map_eq_nil_iff] at hsame
    subst hsame
    exact ⟨[], [], tail', tail', rfl, rfl, by simp, by simp, .blank_items htail⟩
  | cons piece pieces =>
    cases pieces' with
    | nil => cases hsame
    | cons piece' pieces' =>
      obtain ⟨htoken, hrest⟩ := List.cons.inj hsame
      have hlater : Respaced (pieces.flatMap Piece.items ++ tail')
          (pieces'.flatMap Piece.items ++ tail') :=
        respaced_pieces hrest (fun other hother => hplain other (List.mem_cons_of_mem _ hother))
          (fun other hother => ⟨hspaced.gaps other (List.mem_cons_of_mem _ hother),
            hspaced.ne_nil other hother⟩)
          (fun other hother => ⟨hspaced'.gaps other (List.mem_cons_of_mem _ hother),
            hspaced'.ne_nil other hother⟩) htail
      have hfirst := Respaced.token_items (hplain piece List.mem_cons_self)
      refine ⟨piece.gap, piece'.gap, piece.token ++ (pieces.flatMap Piece.items ++ tail'),
        piece'.token ++ (pieces'.flatMap Piece.items ++ tail'), ?_, ?_,
        hspaced.gaps piece List.mem_cons_self, hspaced'.gaps piece' List.mem_cons_self, ?_⟩
      · simp [Layout.items, Piece.items]
      · simp [Layout.items, Piece.items]
      · rw [htoken]
        exact hfirst.append hlater

/-- The clauses are recognised alike in the layouts of some kind. -/
def Layout.Keeps (letters : Letters) (touching : List Item → List Item → Prop)
    (kind : Layout → Prop) (layout : Layout) : Prop :=
  ∀ layout' : Layout, layout'.WellFormed letters touching → layout.Relaid layout' → kind layout' →
    SameClauses letters layout.sql layout'.sql

lemma blanks_relaid (h : layout.Relaid layout') : layout'.blanks = layout.blanks := by
  have hpieces : ∀ pieces : List Piece, (pieces.map fun piece => (⟨[.space ' '], piece.token⟩ :
      Piece)) = (pieces.map Piece.token).map fun token => ⟨[.space ' '], token⟩ := by
    intro pieces
    rw [List.map_map]
    rfl
  have htokens : layout'.pieces.map Piece.token = layout.pieces.map Piece.token := h.tokens
  rw [Layout.blanks, Layout.withGaps, Layout.withGaps, hpieces, hpieces, htokens, h.tail]

lemma sameClauses_of_noClause (hitems : Lexed letters.toCharacters items)
    (hitems' : Lexed letters.toCharacters items') (h : NoClause letters items)
    (h' : NoClause letters items') (htokens : items.filter (!·.isGap) = items'.filter (!·.isGap)) :
    SameClauses letters (textOf items) (textOf items') := by
  obtain ⟨hread, hstrict, hrollback⟩ := unchanged_of_noClause hitems h
  obtain ⟨hread', hstrict', hrollback'⟩ := unchanged_of_noClause hitems' h'
  refine ⟨by rw [hread, hread'], by rw [hread, hread'], ?_, by rw [hstrict, hstrict'],
    iff_of_true hrollback hrollback'⟩
  rw [hread, hread']
  exact ⟨items, items', rfl, rfl, hitems, hitems', htokens⟩

lemma filter_items (h : layout.WellFormed letters touching) (hcommented : layout.Commented) :
    layout.items.filter (!·.isGap) = layout.tokens.flatten := by
  obtain ⟨pieces, tail⟩ := layout
  have htokens : ∀ piece ∈ pieces, ∀ item ∈ piece.token, item.isGap = false := h.token_items
  have hgaps : ∀ piece ∈ pieces, ∀ item ∈ piece.gap, item.isGap = true := hcommented
  have htail : tail.filter (!·.isGap) = [] :=
    List.filter_eq_nil_iff.mpr fun item hitem => by simp [h.tail item hitem]
  show (pieces.flatMap Piece.items ++ tail).filter (!·.isGap) = (pieces.map Piece.token).flatten
  rw [List.filter_append, htail, List.append_nil]
  clear h hcommented
  induction pieces with
  | nil => rfl
  | cons piece pieces ih =>
    have hlater := ih (fun other h => htokens other (by simp [h]))
      fun other h => hgaps other (by simp [h])
    have hgap : piece.gap.filter (!·.isGap) = [] :=
      List.filter_eq_nil_iff.mpr fun item hitem => by simp [hgaps piece (by simp) item hitem]
    have htoken : piece.token.filter (!·.isGap) = piece.token :=
      List.filter_eq_self.mpr fun item hitem => by simp [htokens piece (by simp) item hitem]
    rw [List.flatMap_cons, List.filter_append, hlater, Piece.items, List.filter_append, hgap,
      htoken]
    rfl

def wordsLayout (words : List (List Char)) : Layout :=
  ⟨words.map fun word => ⟨[.space ' '], [.word word]⟩, []⟩

lemma lexed_wordsLayout {words : List (List Char)}
    (h : ∀ word ∈ words, word ≠ [] ∧ ∀ c ∈ word, asciiLetters.isWordChar c = true) :
    Lexed asciiLetters.toCharacters (wordsLayout words).items := by
  have hblank : isPythonSpace ' ' = true := by decide
  have hnot : asciiLetters.isWordChar ' ' = false := not_word_of_space asciiLetters hblank
  show Lexed asciiLetters.toCharacters
    ((words.map fun word => (⟨[.space ' '], [.word word]⟩ : Piece)).flatMap Piece.items ++ [])
  rw [List.append_nil]
  induction words with
  | nil => trivial
  | cons word words ih =>
    obtain ⟨hne, hchars⟩ := h word (by simp)
    have hlater := ih fun other hother => h other (by simp [hother])
    refine ⟨hblank, ⟨hne, hchars, ?_⟩, hlater⟩
    cases words with
    | nil => rfl
    | cons second words =>
      show (!asciiLetters.isWordChar ' ') = true
      rw [hnot]
      rfl

lemma wellFormed_wordsLayout {words : List (List Char)}
    (h : ∀ word ∈ words, word ≠ [] ∧ ∀ c ∈ word, asciiLetters.isWordChar c = true) :
    (wordsLayout words).WellFormed asciiLetters touching where
  gaps piece hpiece := by
    obtain ⟨word, -, rfl⟩ := List.mem_map.mp hpiece
    exact (@between_blank asciiLetters).isGap
  token_ne_nil piece hpiece := by
    obtain ⟨word, -, rfl⟩ := List.mem_map.mp hpiece
    simp
  token_items piece hpiece item hitem := by
    obtain ⟨word, -, rfl⟩ := List.mem_map.mp hpiece
    rw [List.mem_singleton.mp hitem]
    rfl
  tail item hitem := by cases hitem
  apart := by
    have hpieces : (wordsLayout words).pieces =
        (words.map fun word => (⟨[], [.word word]⟩ : Piece)).map
          fun piece => ⟨[.space ' '], piece.token⟩ := by
      rw [List.map_map]
      rfl
    rw [hpieces]
    exact apart_withGaps (by simp) _
  lexed := lexed_wordsLayout h

def rollbackWords : List (List Char) :=
  ["INSERT".toList, "OR".toList, "ROLLBACK".toList, "INTO".toList, "t".toList, "DEFAULT".toList,
    "VALUES".toList]

lemma rollbackWords_chars : ∀ word ∈ rollbackWords,
    word ≠ [] ∧ ∀ c ∈ word, asciiLetters.isWordChar c = true := by
  have hall : (rollbackWords.all fun word =>
      !word.isEmpty && word.all asciiLetters.isWordChar) = true := by decide +kernel
  intro word hword
  have hchars := List.all_eq_true.mp hall word hword
  simpa using hchars

end SqliteReconcile.TextItems
