import SqliteReconcile.ItemClauses

/-!
# Layouts of a statement

The tokens of a statement with white space and comments between them. SQLite reads one statement
in every layout, the patterns of the program ask for white space between the words of a clause.
-/
namespace SqliteReconcile.TextItems
open StatementLogging ConflictSyntax

/-- A text of which SQLite reads no token, whatever follows it. -/
def IsGap (text : List Char) : Prop :=
  ∀ rest, SqlTokens.tokens (text ++ rest) = SqlTokens.tokens rest

def Item.isBlank : Item → Bool
  | .space c => SqlTokens.isSpace c
  | .word _ | .delimited .. | .symbol _ => false

def Item.isComment : Item → Bool
  | .delimited (.lineComment _) _ | .delimited .blockComment _ => true
  | .delimited (.quote _) _ | .delimited .bracket _ | .word _ | .space _ | .symbol _ => false

def Item.isGap (item : Item) : Bool := item.isBlank || item.isComment

/-- A token, which may be several items, and what stands before it. -/
structure Piece where
  gap : List Item
  token : List Item

def Piece.items (piece : Piece) : List Item := piece.gap ++ piece.token

structure Layout where
  pieces : List Piece
  tail : List Item

namespace Layout

def items (layout : Layout) : List Item := layout.pieces.flatMap Piece.items ++ layout.tail

def sql (layout : Layout) : List Char := textOf layout.items

def tokens (layout : Layout) : List (List Item) := layout.pieces.map Piece.token

/-- Two tokens with nothing between them are two that can touch. -/
def Apart (touching : List Item → List Item → Prop) : List Piece → Prop
  | first :: second :: rest =>
    (second.gap = [] → touching first.token second.token) ∧ Apart touching (second :: rest)
  | [_] | [] => True

/-- The layout is read as its tokens. Which tokens can touch is up to SQLite. -/
structure WellFormed (letters : Letters) (touching : List Item → List Item → Prop)
    (layout : Layout) : Prop where
  gaps : ∀ piece ∈ layout.pieces, IsGap (textOf piece.gap)
  token_ne_nil : ∀ piece ∈ layout.pieces, piece.token ≠ []
  token_items : ∀ piece ∈ layout.pieces, ∀ item ∈ piece.token, item.isGap = false
  tail : ∀ item ∈ layout.tail, item.isGap = true
  apart : Apart touching layout.pieces
  lexed : Lexed letters.toCharacters layout.items

/-- A layout of the same tokens. After the last token nothing changes. -/
structure Relaid (layout layout' : Layout) : Prop where
  tokens : layout'.tokens = layout.tokens
  tail : layout'.tail = layout.tail

/-- Where Python reads a comment between two tokens SQLite reads one. A line comment with a
carriage return inside is none. -/
def Commented (layout : Layout) : Prop :=
  ∀ piece ∈ layout.pieces, ∀ item ∈ piece.gap, item.isGap = true

/-- White space between all tokens, and nothing else. -/
structure Spaced (layout : Layout) : Prop where
  gaps : ∀ piece ∈ layout.pieces, ∀ item ∈ piece.gap, item.isBlank = true
  ne_nil : ∀ piece ∈ layout.pieces.tail, piece.gap ≠ []
  tail : ∀ item ∈ layout.tail, item.isBlank = true

/-- No token has a character inside that Python alone reads as white space. -/
def Plain (layout : Layout) : Prop :=
  ∀ piece ∈ layout.pieces, ∀ item ∈ piece.token, item.isSpace = false

def withGaps (gap : List Item) (layout : Layout) : Layout :=
  ⟨layout.pieces.map fun piece => ⟨gap, piece.token⟩, layout.tail⟩

def blanks : Layout → Layout := withGaps [.space ' ']

end Layout

section

variable (letters : Letters)

/-- No clause is found at the top level. -/
structure NoClause (items : List Item) : Prop where
  insertOr : firstAt letters.toCharacters
    (orItems letters.toCharacters "INSERT" conflictAlgorithms) 0 items = none
  updateOr : firstAt letters.toCharacters
    (orItems letters.toCharacters "UPDATE" conflictAlgorithms) 0 items = none
  replaceInto : firstAt letters.toCharacters
    (replaceIntoItems letters.toCharacters) 0 items = none
  onConflict : startsWithInsertLikeStatement letters.toCharacters (textOf items) = true →
    firstAt letters.toCharacters (conflictItems letters.toCharacters) 0 items = none

def SameTokens (text text' : List Char) : Prop :=
  ∃ items items', textOf items = text ∧ textOf items' = text' ∧
    Lexed letters.toCharacters items ∧ Lexed letters.toCharacters items' ∧
      items.filter (!·.isGap) = items'.filter (!·.isGap)

/-- The clauses of two texts are recognised alike. -/
structure SameClauses (sql sql' : List Char) : Prop where
  conflictResolution : (normalizeSqlForSqlglot letters.toCharacters sql).conflictResolution =
    (normalizeSqlForSqlglot letters.toCharacters sql').conflictResolution
  strippedUpsert : (normalizeSqlForSqlglot letters.toCharacters sql).strippedUpsert =
    (normalizeSqlForSqlglot letters.toCharacters sql').strippedUpsert
  normalized : SameTokens letters (normalizeSqlForSqlglot letters.toCharacters sql).sql
    (normalizeSqlForSqlglot letters.toCharacters sql').sql
  strict : (strictConflictResolutionRewrite letters.toCharacters sql).map (·.label) =
    (strictConflictResolutionRewrite letters.toCharacters sql').map (·.label)
  rollback : neutralizeRollbackConflictResolution letters.toCharacters sql = sql ↔
    neutralizeRollbackConflictResolution letters.toCharacters sql' = sql'

end

variable {letters : Letters} {items items' rest : List Item} {layout layout' : Layout}
variable {touching : List Item → List Item → Prop}

lemma spacedWord_mono {test test' : List Char → Bool} (htest : ∀ word, test word → test' word)
    {found : List Char × List Item × List Item} (h : spacedWord test items = some found) :
    spacedWord test' items = some found := by
  unfold spacedWord at h ⊢
  split at h
  · next word c rest =>
    split at h
    · next hword => rw [if_pos (htest word hword), h]
    · cases h
  · cases h

lemma orItems_mono {verb : String} {algorithms algorithms' : List String}
    (hsub : algorithms ⊆ algorithms') {found : ItemFound}
    (h : orItems letters.toCharacters verb algorithms items = some found) :
    orItems letters.toCharacters verb algorithms' items = some found := by
  simp only [orItems, Option.bind_eq_bind, Option.bind_eq_some_iff] at h ⊢
  obtain ⟨first, hfirst, second, hsecond, third, hthird, hfound⟩ := h
  refine ⟨first, hfirst, second, hsecond, third, spacedWord_mono (fun word hword => ?_) hthird,
    hfound⟩
  obtain ⟨algorithm, hmem, hspells⟩ := List.any_eq_true.mp hword
  exact List.any_eq_true.mpr ⟨algorithm, hsub hmem, hspells⟩

lemma firstAt_or_none {verb : String} {algorithms algorithms' : List String} {depth : ℕ}
    (hsub : algorithms ⊆ algorithms')
    (h : firstAt letters.toCharacters (orItems letters.toCharacters verb algorithms') depth items =
      none) :
    firstAt letters.toCharacters (orItems letters.toCharacters verb algorithms) depth items =
      none := by
  by_contra hne
  have hmono : ∀ items, (orItems letters.toCharacters verb algorithms items).isSome = true →
      (orItems letters.toCharacters verb algorithms' items).isSome = true := by
    intro items hsome
    obtain ⟨found, hfound⟩ := Option.isSome_iff_exists.mp hsome
    rw [orItems_mono hsub hfound]
    rfl
  have hsome := firstAt_isSome_mono hmono (Option.isSome_iff_ne_none.mpr hne)
  rw [h] at hsome
  cases hsome

lemma unchanged_of_noClause (hitems : Lexed letters.toCharacters items)
    (h : NoClause letters items) :
    normalizeSqlForSqlglot letters.toCharacters (textOf items) = ⟨textOf items, none, false⟩ ∧
      strictConflictResolutionRewrite letters.toCharacters (textOf items) = none ∧
      neutralizeRollbackConflictResolution letters.toCharacters (textOf items) = textOf items := by
  have hremove : ∀ {verb : String} {algorithms : List String}, verb.toList ∈ verbs.take 2 →
      algorithms ⊆ conflictAlgorithms → firstAt letters.toCharacters
        (orItems letters.toCharacters verb conflictAlgorithms) 0 items = none →
      removeTopLevelOrClause letters.toCharacters (textOf items)
        (orPattern letters.toCharacters verb algorithms) = (textOf items, none) := by
    intro verb algorithms hverb hsub hnone
    rw [removeTopLevelOrClause_items hverb (fun _ h => hsub h) hitems, firstAt_or_none hsub hnone]
  have hreplace : ∀ insert, rewriteTopLevelReplaceInto letters.toCharacters insert
      (textOf items) = (textOf items, none) := by
    intro insert
    rw [rewriteTopLevelReplaceInto_items insert hitems, h.replaceInto]
  have hupsert : withoutUpsert letters.toCharacters (textOf items) = (textOf items, false) := by
    have hnone : stripTopLevelUpsert letters.toCharacters (textOf items) = none := by
      rw [stripTopLevelUpsert_items hitems]
      split
      · next hstarts => rw [h.onConflict hstarts]; rfl
      · rfl
    rw [withoutUpsert, hnone]
  have hsubset : reviewableAlgorithms ⊆ conflictAlgorithms := by decide
  have hrollback : ["ROLLBACK"] ⊆ conflictAlgorithms := by decide
  refine ⟨?_, ?_, ?_⟩
  · have hclauses : normalizeClauses letters.toCharacters (textOf items) =
        (textOf items, none) := by
      rw [normalizeClauses, insertOrResolution_items hitems, h.insertOr, updateOrPattern,
        hremove update_mem_verbs (List.Subset.refl _) h.updateOr, normalizeTopLevelReplaceInto]
      simp only [Option.map_none, hreplace]
    rw [normalizeSqlForSqlglot, hclauses]
    simp only [hupsert]
  · have hclauses : strictClauses letters.toCharacters (textOf items) = (textOf items, []) := by
      rw [strictClauses, reviewableInsertOrPattern,
        hremove insert_mem_verbs hsubset h.insertOr]
      simp only [reviewableUpdateOrPattern, hremove update_mem_verbs hsubset h.updateOr,
        stripTopLevelReplaceInto, hreplace]
      rfl
    rw [strictConflictResolutionRewrite, hclauses]
    simp only [hupsert]
    rfl
  · rw [neutralizeRollbackConflictResolution, insertOrRollbackPattern,
      hremove insert_mem_verbs hrollback h.insertOr, updateOrRollbackPattern,
      hremove update_mem_verbs hrollback h.updateOr]

lemma found_of_clause (hitems : Lexed letters.toCharacters items) (h : ¬ NoClause letters items) :
    (normalizeSqlForSqlglot letters.toCharacters (textOf items)).conflictResolution ≠ none ∨
      (normalizeSqlForSqlglot letters.toCharacters (textOf items)).strippedUpsert = true := by
  by_contra hneither
  obtain ⟨hresolution, hupsert⟩ := not_or.mp hneither
  rw [not_not] at hresolution
  have hupdates := removeTopLevelOrClause_items update_mem_verbs (fun _ h => h) hitems
  have hreplaces := rewriteTopLevelReplaceInto_items "INSERT OR REPLACE" hitems
  simp only [normalizeSqlForSqlglot, normalizeClauses, insertOrResolution_items hitems,
    updateOrPattern, hupdates, normalizeTopLevelReplaceInto] at hresolution hupsert
  cases hinsert : firstAt letters.toCharacters
      (orItems letters.toCharacters "INSERT" conflictAlgorithms) 0 items with
  | some first =>
    cases hupdate : firstAt letters.toCharacters
        (orItems letters.toCharacters "UPDATE" conflictAlgorithms) 0 items with
    | some second =>
      simp only [hupdate] at hresolution
      cases hresolution
    | none =>
      simp only [hinsert, hupdate] at hresolution
      cases hresolution
  | none =>
    cases hupdate : firstAt letters.toCharacters
        (orItems letters.toCharacters "UPDATE" conflictAlgorithms) 0 items with
    | some first =>
      simp only [hupdate] at hresolution
      cases hresolution
    | none =>
      simp only [hinsert, hupdate, hreplaces, Option.map_none] at hresolution hupsert
      cases hreplace : firstAt letters.toCharacters
          (replaceIntoItems letters.toCharacters) 0 items with
      | some first =>
        simp only [hreplace] at hresolution
        cases hresolution
      | none =>
        simp only [hreplace, withoutUpsert_eq, stripTopLevelUpsert_items hitems] at hupsert
        refine h ⟨hinsert, hupdate, hreplace, fun hstarts => ?_⟩
        simp only [hstarts, if_true] at hupsert
        cases hconflict : firstAt letters.toCharacters
            (conflictItems letters.toCharacters) 0 items with
        | none => rfl
        | some first =>
          simp only [hconflict] at hupsert
          exact absurd rfl hupsert

/-- A character that ends every token before it. -/
structure EndsTokens (letters : Letters) (c : Char) : Prop where
  word : letters.isWordChar c = false
  quote : c ∉ quotes
  dash : c ≠ '-'
  star : c ≠ '*'

lemma endsTokens_ascii {c : Char} (h : c ∈ [' ', '/', ';']) : EndsTokens letters c := by
  simp only [List.mem_cons, List.not_mem_nil, or_false] at h
  rcases h with rfl | rfl | rfl
  all_goals
    exact ⟨not_word_of_ascii (by decide) (by decide) (by decide), by decide, by decide, by decide⟩

/-- How an item is read does not change where another end of it follows. -/
lemma wellFormed_next {item : Item} {next next' : Option Char}
    (h : item.WellFormed letters.toCharacters next) (hitem : item.isComment = false)
    (hnext : ∀ c, next' = some c → EndsTokens letters c) :
    item.WellFormed letters.toCharacters next' := by
  cases item with
  | word word =>
    refine ⟨h.1, h.2.1, ?_⟩
    cases next' with
    | none => rfl
    | some c => simpa using (hnext c rfl).word
  | space c => exact h
  | symbol c =>
    obtain ⟨hbreaks, hquote, hbracket, -, -⟩ := h
    refine ⟨hbreaks, hquote, hbracket, fun hdash => ?_, fun hstar => ?_⟩
    · exact (hnext _ hdash.2).dash rfl
    · exact (hnext _ hstar.2).star rfl
  | delimited delimiters content =>
    cases delimiters with
    | quote delimiter =>
      refine ⟨h.1, h.2.1, fun hsame => ?_⟩
      exact (hnext delimiter hsame).quote h.2.1
    | bracket => exact h
    | lineComment terminator => cases hitem
    | blockComment => cases hitem

lemma textOf_ne_nil {item : Item} (hitems : Lexed letters.toCharacters (item :: items)) :
    ∃ c, ∀ rest, (textOf (item :: rest)).head? = some c := by
  obtain ⟨c, tail, htext, -⟩ := text_head hitems.1
  exact ⟨c, fun rest => by rw [textOf_cons, htext]; rfl⟩

lemma textOf_head_congr {item : Item} (hitems : Lexed letters.toCharacters (item :: items))
    (rest : List Item) : (textOf (item :: items)).head? = (textOf (item :: rest)).head? := by
  obtain ⟨c, hc⟩ := textOf_ne_nil hitems
  rw [hc, hc]

lemma Lexed.before {first : List Item} (hitems : Lexed letters.toCharacters (first ++ items))
    (hfirst : ∀ item ∈ first, item.isComment = false)
    (hrest : Lexed letters.toCharacters rest)
    (hnext : ∀ c, (textOf rest).head? = some c → EndsTokens letters c) :
    Lexed letters.toCharacters (first ++ rest) := by
  induction first with
  | nil => exact hrest
  | cons item first ih =>
    have hlater := ih hitems.2 fun other h => hfirst other (by simp [h])
    refine ⟨?_, hlater⟩
    cases first with
    | nil => exact wellFormed_next hitems.1 (hfirst item (by simp)) hnext
    | cons item' first =>
      have hhead : (textOf (item' :: first ++ rest)).head? =
          (textOf (item' :: first ++ items)).head? :=
        (textOf_head_congr hitems.2 (first ++ rest)).symm
      exact hhead ▸ hitems.1

/-- A gap that is read before everything, and ends the token before it. -/
structure Separates (letters : Letters) (gap : List Item) : Prop where
  lexed : ∀ rest, Lexed letters.toCharacters rest → Lexed letters.toCharacters (gap ++ rest)
  head : ∀ rest c, (textOf (gap ++ rest)).head? = some c → EndsTokens letters c
  ne_nil : gap ≠ []
  isGap : IsGap (textOf gap)

lemma between_blank : Separates letters [.space ' '] where
  lexed rest hrest := by
    have hspace : isPythonSpace ' ' = true := by decide
    exact ⟨hspace, hrest⟩
  head rest c hc := by
    cases hc
    exact endsTokens_ascii (by simp)
  isGap rest := SqlTokens.tokens_space (by decide)
  ne_nil := by simp

def emptyComment : Item := .delimited .blockComment []

lemma between_comment : Separates letters [emptyComment] where
  lexed rest hrest := by
    have hholds : Delimiters.Holds .blockComment [] := by simp [Delimiters.Holds]
    exact ⟨⟨hholds, trivial⟩, hrest⟩
  head rest c hc := by
    cases hc
    exact endsTokens_ascii (by simp)
  isGap rest := by
    have hlexeme : SqlTokens.lexeme (textOf [emptyComment] ++ rest) = some (none, rest) := rfl
    exact (SqlTokens.tokens_of_lexeme hlexeme).trans rfl
  ne_nil := by simp

lemma lexed_withGaps {gap : List Item} {pieces : List Piece} {tail : List Item}
    (hgap : Separates letters gap)
    (htokens : ∀ piece ∈ pieces, ∀ item ∈ piece.token, item.isGap = false)
    (hitems : Lexed letters.toCharacters (pieces.flatMap Piece.items ++ tail)) :
    Lexed letters.toCharacters
      ((pieces.map fun piece => ⟨gap, piece.token⟩).flatMap Piece.items ++ tail) := by
  induction pieces with
  | nil => exact hitems
  | cons piece pieces ih =>
    simp only [List.map_cons, List.flatMap_cons, Piece.items, List.append_assoc] at hitems ⊢
    have hpiece := hitems.append_right
    have hlater := ih (fun other h => htokens other (by simp [h])) hpiece.append_right
    refine hgap.lexed _ ?_
    cases pieces with
    | nil => exact hpiece
    | cons second pieces =>
      refine hpiece.before (fun item hitem => ?_) hlater fun c hc => ?_
      · have hnot := htokens piece (by simp) item hitem
        rw [Item.isGap, Bool.or_eq_false_iff] at hnot
        exact hnot.2
      · simp only [List.map_cons, List.flatMap_cons, Piece.items, List.append_assoc] at hc
        exact hgap.head _ c hc

lemma apart_withGaps {gap : List Item} (hne : gap ≠ []) (pieces : List Piece) :
    Layout.Apart touching (pieces.map fun piece => ⟨gap, piece.token⟩) := by
  induction pieces with
  | nil => trivial
  | cons piece pieces ih =>
    cases pieces with
    | nil => trivial
    | cons second pieces => exact ⟨fun hempty => absurd hempty hne, ih⟩

lemma wellFormed_withGaps {gap : List Item} (hgap : Separates letters gap)
    (h : layout.WellFormed letters touching) :
    (layout.withGaps gap).WellFormed letters touching where
  gaps piece hpiece := by
    obtain ⟨original, -, rfl⟩ := List.mem_map.mp hpiece
    exact hgap.isGap
  token_ne_nil piece hpiece := by
    obtain ⟨original, horiginal, rfl⟩ := List.mem_map.mp hpiece
    exact h.token_ne_nil original horiginal
  token_items piece hpiece := by
    obtain ⟨original, horiginal, rfl⟩ := List.mem_map.mp hpiece
    exact h.token_items original horiginal
  tail := h.tail
  apart := apart_withGaps hgap.ne_nil layout.pieces
  lexed := lexed_withGaps hgap h.token_items h.lexed

lemma relaid_withGaps (gap : List Item) (layout : Layout) :
    layout.Relaid (layout.withGaps gap) where
  tokens := by
    rw [Layout.withGaps, Layout.tokens, Layout.tokens, List.map_map]
    rfl
  tail := rfl

/-- Every gap is one blank instead, also where there was nothing. -/
inductive Blanked : List Item → List Item → Prop
  | nil : Blanked [] []
  | item {item : Item} {items items' : List Item} (h : Blanked items items') :
      Blanked (item :: items) (item :: items')
  | gap {gap items items' : List Item} (hgap : ∀ item ∈ gap, item.isGap = true)
      (h : Blanked items items') : Blanked (gap ++ items) (.space ' ' :: items')

lemma Blanked.append {first first' : List Item} (h : Blanked first first')
    (hrest : Blanked items items') : Blanked (first ++ items) (first' ++ items') := by
  induction h with
  | nil => exact hrest
  | item h ih => exact .item ih
  | gap hgap h ih =>
    rw [List.append_assoc]
    exact .gap hgap ih

lemma Blanked.refl (items : List Item) : Blanked items items := by
  induction items with
  | nil => exact .nil
  | cons item items ih => exact .item ih

lemma blanked_blanks (h : layout.Commented) : Blanked layout.items layout.blanks.items := by
  refine .append ?_ (.refl layout.tail)
  obtain ⟨pieces, tail⟩ := layout
  show Blanked (pieces.flatMap Piece.items)
    ((pieces.map fun piece => ⟨[.space ' '], piece.token⟩).flatMap Piece.items)
  have hgaps : ∀ piece ∈ pieces, ∀ item ∈ piece.gap, item.isGap = true := h
  clear h
  induction pieces with
  | nil => exact .nil
  | cons piece pieces ih =>
    have hlater := ih fun other hother => hgaps other (by simp [hother])
    simp only [List.map_cons, List.flatMap_cons, Piece.items, List.append_assoc]
    have hboth := (Blanked.refl piece.token).append hlater
    exact .gap (hgaps piece (by simp)) hboth

lemma isSpace_of_isBlank {item : Item} (h : item.isBlank = true) : item.isSpace = true := by
  cases item with
  | space _ => rfl
  | word _ => cases h
  | delimited _ _ => cases h
  | symbol _ => cases h

lemma Blanked.dropWhile_word {word : List Char} (h : Blanked items items')
    (hword : items.dropWhile Item.isSpace = .word word :: rest) :
    ∃ rest', items'.dropWhile Item.isSpace = .word word :: rest' ∧ Blanked rest rest' := by
  induction h with
  | nil => cases hword
  | @item item items items' h ih =>
    by_cases hitem : item.isSpace = true
    · rw [List.dropWhile_cons_of_pos hitem] at hword ⊢
      exact ih hword
    · rw [List.dropWhile_cons_of_neg hitem] at hword ⊢
      cases hword
      exact ⟨items', rfl, h⟩
  | @gap gap items items' hgap h ih =>
    have hblank : (Item.space ' ').isSpace = true := rfl
    rw [List.dropWhile_cons_of_pos hblank]
    refine ih ?_
    clear ih h
    induction gap with
    | nil => exact hword
    | cons item gap ih =>
      have hlater := ih fun other hother => hgap other (by simp [hother])
      by_cases hitem : item.isSpace = true
      · rw [List.cons_append, List.dropWhile_cons_of_pos hitem] at hword
        exact hlater hword
      · rw [List.cons_append, List.dropWhile_cons_of_neg hitem] at hword
        cases hword
        have hgapWord := hgap (.word word) (by simp)
        cases hgapWord

lemma Blanked.head_space {c : Char} (h : Blanked (.space c :: items) items') :
    ∃ d rest', items' = .space d :: rest' := by
  generalize hfirst : Item.space c :: items = first at h
  cases h with
  | nil => cases hfirst
  | item h =>
    cases hfirst
    exact ⟨c, _, rfl⟩
  | gap hgap h => exact ⟨' ', _, rfl⟩

lemma Blanked.spacedWord {test : List Char → Bool} {word first : List Char} {spaces : List Item}
    (h : Blanked items items')
    (hfound : spacedWord test (.word word :: items) = some (first, spaces, rest)) :
    rest = items.dropWhile Item.isSpace ∧ ∃ spaces',
      TextItems.spacedWord test (.word word :: items') =
        some (first, spaces', items'.dropWhile Item.isSpace) := by
  unfold TextItems.spacedWord at hfound
  split at hfound
  · next other c items heq =>
    cases heq
    split at hfound
    · next htest =>
      cases hfound
      obtain ⟨d, rest', rfl⟩ := h.head_space
      exact ⟨rfl, .space d :: rest'.takeWhile Item.isSpace, if_pos htest⟩
    · cases hfound
  · cases hfound

lemma word_of_spacedWord {test : List Char → Bool} {word : List Char} {spaces : List Item}
    (h : spacedWord test items = some (word, spaces, rest)) : ∃ rest', items = .word word :: rest' :=
  ⟨_, (spacedWord_some h).1⟩

lemma Blanked.spacedWord_next {test : List Char → Bool} {word : List Char} {spaces : List Item}
    (h : Blanked items items')
    (hfound : TextItems.spacedWord test (items.dropWhile Item.isSpace) =
      some (word, spaces, rest)) :
    ∃ more more' spaces', Blanked more more' ∧ rest = more.dropWhile Item.isSpace ∧
      TextItems.spacedWord test (items'.dropWhile Item.isSpace) =
        some (word, spaces', more'.dropWhile Item.isSpace) := by
  obtain ⟨more, hmore⟩ := word_of_spacedWord hfound
  obtain ⟨more', hmore', hblanked⟩ := h.dropWhile_word hmore
  rw [hmore] at hfound
  obtain ⟨hrest, spaces', hfound'⟩ := hblanked.spacedWord hfound
  exact ⟨more, more', spaces', hblanked, hrest, by rw [hmore', hfound']⟩

lemma Blanked.orItems {verb : String} {algorithms : List String} {word : List Char}
    (h : Blanked items items')
    (hfound : (orItems letters.toCharacters verb algorithms (.word word :: items)).isSome = true) :
    (TextItems.orItems letters.toCharacters verb algorithms (.word word :: items')).isSome =
      true := by
  obtain ⟨found, hfound⟩ := Option.isSome_iff_exists.mp hfound
  simp only [TextItems.orItems, Option.bind_eq_bind, Option.bind_eq_some_iff] at hfound
  obtain ⟨⟨_, _, _⟩, hfirst, ⟨_, _, _⟩, hsecond, ⟨_, _, _⟩, hthird, -⟩ := hfound
  obtain ⟨rfl, spaces₁, hfirst'⟩ := h.spacedWord hfirst
  obtain ⟨more, more', spaces₂, hmore, rfl, hsecond'⟩ := h.spacedWord_next hsecond
  obtain ⟨_, _, spaces₃, -, -, hthird'⟩ := hmore.spacedWord_next hthird
  simp only [TextItems.orItems, Option.bind_eq_bind, hfirst', hsecond', hthird', Option.bind_some]
  rfl

lemma Blanked.replaceIntoItems {word : List Char} (h : Blanked items items')
    (hfound : (replaceIntoItems letters.toCharacters (.word word :: items)).isSome = true) :
    (TextItems.replaceIntoItems letters.toCharacters (.word word :: items')).isSome = true := by
  obtain ⟨found, hfound⟩ := Option.isSome_iff_exists.mp hfound
  simp only [TextItems.replaceIntoItems, Option.bind_eq_bind, Option.bind_eq_some_iff] at hfound
  obtain ⟨⟨_, _, _⟩, hfirst, ⟨_, _, _⟩, hsecond, -⟩ := hfound
  obtain ⟨rfl, spaces₁, hfirst'⟩ := h.spacedWord hfirst
  obtain ⟨_, _, spaces₂, -, -, hsecond'⟩ := h.spacedWord_next hsecond
  simp only [TextItems.replaceIntoItems, Option.bind_eq_bind, hfirst', hsecond', Option.bind_some]
  rfl

lemma Blanked.conflictItems {word : List Char} (h : Blanked items items')
    (hfound : (conflictItems letters.toCharacters (.word word :: items)).isSome = true) :
    (TextItems.conflictItems letters.toCharacters (.word word :: items')).isSome = true := by
  rw [TextItems.conflictItems] at hfound ⊢
  split at hfound
  · next hcond =>
    obtain ⟨hlength, hon, hfollows⟩ := hcond
    have hfollows' : conflictFollows letters.toCharacters items' = true := by
      unfold conflictFollows at hfollows ⊢
      split at hfollows
      · next next rest hnext =>
        obtain ⟨rest', hnext', -⟩ := h.dropWhile_word hnext
        rw [hnext']
        exact hfollows
      · cases hfollows
    rw [if_pos ⟨hlength, hon, hfollows'⟩]
    rfl
  · cases hfound

lemma Blanked.firstAt {α : Type} {found : List Item → Option α} {depth : ℕ}
    (hfound : ∀ word items items', Blanked items items' →
      (found (.word word :: items)).isSome = true → (found (.word word :: items')).isSome = true)
    (h : Blanked items items')
    (hfirst : (firstAt letters.toCharacters found depth items).isSome = true) :
    (TextItems.firstAt letters.toCharacters found depth items').isSome = true := by
  induction h generalizing depth with
  | nil => cases hfirst
  | @item item items items' h ih =>
    simp only [TextItems.firstAt, Option.isSome_or, Bool.or_eq_true, Option.isSome_map]
      at hfirst ⊢
    rcases hfirst with hfirst | hfirst
    · left
      split at hfirst
      · next hkeyword =>
        obtain ⟨word, rfl⟩ := isKeyword_word (by simpa using (Bool.and_eq_true _ _ ▸ hkeyword).2)
        rw [if_pos hkeyword]
        simpa using hfound word items items' h (by simpa using hfirst)
      · cases hfirst
    · exact .inr (ih hfirst)
  | @gap gap items items' hgap h ih =>
    rw [firstAt_append_silent, Option.isSome_map] at hfirst
    · have hlater := ih hfirst
      have hblank : ∀ item ∈ [Item.space ' '], item.isKeyword letters.toCharacters = false := by
        simp [Item.isKeyword]
      have hdepth : ∀ item ∈ [Item.space ' '], ∀ depth, item.depthAfter depth = depth := by
        simp [Item.depthAfter]
      rw [← List.singleton_append, firstAt_append_silent hblank hdepth, Option.isSome_map]
      exact hlater
    · intro item hitem
      have hitem' := hgap item hitem
      cases item with
      | word _ => cases hitem'
      | space _ => rfl
      | delimited _ _ => rfl
      | symbol _ => cases hitem'
    · intro item hitem depth
      have hitem' := hgap item hitem
      cases item with
      | word _ => rfl
      | space _ => rfl
      | delimited _ _ => rfl
      | symbol _ => cases hitem'

/-- A text without a clause has none when its gaps are no longer blanks. -/
lemma noClause_of_blanked (hitems : Lexed letters.toCharacters items)
    (hitems' : Lexed letters.toCharacters items') (h : Blanked items items')
    (hnone : NoClause letters items') : NoClause letters items := by
  have hfirst : ∀ {α : Type} {found : List Item → Option α},
      (∀ word items items', Blanked items items' → (found (.word word :: items)).isSome = true →
        (found (.word word :: items')).isSome = true) →
      firstAt letters.toCharacters found 0 items' = none →
      firstAt letters.toCharacters found 0 items = none := by
    intro α found hfound hnone
    by_contra hne
    have hsome := h.firstAt hfound (Option.isSome_iff_ne_none.mpr hne)
    rw [hnone] at hsome
    cases hsome
  refine ⟨hfirst (fun _ _ _ h => h.orItems) hnone.insertOr,
    hfirst (fun _ _ _ h => h.orItems) hnone.updateOr,
    hfirst (fun _ _ _ h => h.replaceIntoItems) hnone.replaceInto, fun hstarts => ?_⟩
  refine hfirst (fun _ _ _ h => h.conflictItems) (hnone.onConflict ?_)
  obtain ⟨word, rest, hword, hlike⟩ := (startsWithInsertLike_items hitems).mp hstarts
  obtain ⟨rest', hword', -⟩ := h.dropWhile_word hword
  exact (startsWithInsertLike_items hitems').mpr ⟨word, rest', hword', hlike⟩

/-- No word follows, except after a comment. -/
def NoWordNext (items : List Item) : Prop :=
  ∀ word rest, items.dropWhile Item.isSpace ≠ .word word :: rest

/-- No two words have only white space between them. -/
def Scattered : List Item → Prop
  | [] => True
  | .word _ :: rest => NoWordNext rest ∧ Scattered rest
  | _ :: rest => Scattered rest

lemma spacedWord_noWordNext {test : List Char → Bool} {word first : List Char}
    {spaces : List Item} (test' : List Char → Bool) (h : NoWordNext items)
    (hfound : spacedWord test (.word word :: items) = some (first, spaces, rest)) :
    spacedWord test' rest = none := by
  obtain ⟨rfl, -⟩ := (Blanked.refl items).spacedWord hfound
  cases hsecond : spacedWord test' (items.dropWhile Item.isSpace) with
  | none => rfl
  | some second =>
    obtain ⟨word', spaces', rest'⟩ := second
    exact absurd (spacedWord_some hsecond).1 (h word' _)

lemma firstAt_scattered {α : Type} {found : List Item → Option α} {depth : ℕ}
    (hfound : ∀ word items, NoWordNext items → found (.word word :: items) = none)
    (h : Scattered items) : firstAt letters.toCharacters found depth items = none := by
  induction items generalizing depth with
  | nil => rfl
  | cons item items ih =>
    cases item with
    | word word =>
      rw [firstAt, hfound word items h.1, ih h.2]
      simp
    | space c =>
      rw [firstAt, ih h]
      simp [Item.isKeyword]
    | delimited delimiters content =>
      rw [firstAt, ih h]
      simp [Item.isKeyword]
    | symbol c =>
      rw [firstAt, ih h]
      simp [Item.isKeyword]

lemma noClause_of_scattered (h : Scattered items) : NoClause letters items := by
  have hor : ∀ {verb : String} {algorithms : List String} (word : List Char) (items : List Item),
      NoWordNext items → orItems letters.toCharacters verb algorithms (.word word :: items) =
        none := by
    intro verb algorithms word items hnext
    rw [orItems]
    cases hfirst : spacedWord (spells letters.toCharacters verb.toList) (.word word :: items) with
    | none => rfl
    | some first =>
      obtain ⟨_, _, rest⟩ := first
      have hnone := spacedWord_noWordNext (spells letters.toCharacters "OR".toList)
        hnext hfirst
      simp only [Option.bind_eq_bind, Option.bind_some, hnone, Option.bind_none]
  refine ⟨firstAt_scattered hor h, firstAt_scattered hor h, firstAt_scattered ?_ h,
    fun _ => firstAt_scattered ?_ h⟩
  · intro word items hnext
    rw [replaceIntoItems]
    cases hfirst : spacedWord (spells letters.toCharacters "REPLACE".toList)
        (.word word :: items) with
    | none => rfl
    | some first =>
      obtain ⟨_, _, rest⟩ := first
      have hnone := spacedWord_noWordNext (spells letters.toCharacters "INTO".toList)
        hnext hfirst
      simp only [Option.bind_eq_bind, Option.bind_some, hnone, Option.bind_none]
  · intro word items hnext
    refine if_neg ?_
    rintro ⟨-, -, hfollows⟩
    unfold conflictFollows at hfollows
    split at hfollows
    · next next rest hword => exact hnext next rest hword
    · cases hfollows

lemma noWordNext_gap (h : ∀ item ∈ items, item.isGap = true) : NoWordNext items := by
  intro word rest hword
  have hmem : Item.word word ∈ items := by
    refine (List.dropWhile_suffix Item.isSpace).subset ?_
    rw [hword]
    exact List.mem_cons_self
  have hgap := h _ hmem
  cases hgap

lemma scattered_gap (h : ∀ item ∈ items, item.isGap = true) : Scattered items := by
  induction items with
  | nil => trivial
  | cons item items ih =>
    have hlater := ih fun other hother => h other (by simp [hother])
    cases item with
    | word word =>
      have hgap := h (.word word) (by simp)
      cases hgap
    | space _ => exact hlater
    | delimited _ _ => exact hlater
    | symbol _ => exact hlater

lemma not_word_after_word {word word' : List Char}
    (hitems : Lexed letters.toCharacters (.word word :: .word word' :: items)) : False := by
  obtain ⟨c, tail, rfl, hc⟩ := text_word_head hitems.2.1
  have hnext := hitems.1.2.2
  simp [Item.text, hc] at hnext

lemma scattered_token {token : List Item} (hplain : ∀ item ∈ token, item.isSpace = false)
    (hitems : Lexed letters.toCharacters (token ++ rest)) (hnext : NoWordNext rest)
    (hrest : Scattered rest) : Scattered (token ++ rest) := by
  induction token with
  | nil => exact hrest
  | cons item token ih =>
    have hlater := ih (fun other h => hplain other (by simp [h])) hitems.2
    cases item with
    | word word =>
      refine ⟨?_, hlater⟩
      cases token with
      | nil => exact hnext
      | cons second token =>
        intro word' rest' heq
        have hsecond := hplain second (by simp)
        have hkept : (second :: (token ++ rest)).dropWhile Item.isSpace =
            second :: (token ++ rest) := List.dropWhile_cons_of_neg (by simp [hsecond])
        have hword : second :: (token ++ rest) = .word word' :: rest' := hkept.symm.trans heq
        cases hword
        exact not_word_after_word hitems
    | space _ => exact hlater
    | delimited _ _ => exact hlater
    | symbol _ => exact hlater

lemma scattered_comments (h : layout.WellFormed letters touching) (hplain : layout.Plain) :
    Scattered (layout.withGaps [emptyComment]).items := by
  have hlexed := lexed_withGaps (@between_comment letters) h.token_items h.lexed
  obtain ⟨pieces, tail⟩ := layout
  have htail : ∀ item ∈ tail, item.isGap = true := h.tail
  have htokens : ∀ piece ∈ pieces, ∀ item ∈ piece.token, item.isSpace = false := hplain
  show Scattered
    ((pieces.map fun piece => ⟨[emptyComment], piece.token⟩).flatMap Piece.items ++ tail)
  have hnext : ∀ pieces : List Piece, NoWordNext
      ((pieces.map fun piece => ⟨[emptyComment], piece.token⟩).flatMap Piece.items ++ tail) := by
    intro pieces
    cases pieces with
    | nil => exact noWordNext_gap htail
    | cons piece pieces =>
      intro word rest hword
      cases hword
  clear h hplain
  induction pieces with
  | nil => exact scattered_gap htail
  | cons piece pieces ih =>
    simp only [List.map_cons, List.flatMap_cons, Piece.items, List.append_assoc] at hlexed ⊢
    have hpiece := hlexed.append_right
    have hlater := ih hpiece.append_right fun other hother => htokens other (by simp [hother])
    have hscattered := scattered_token (htokens piece (by simp)) hpiece (hnext pieces) hlater
    exact hscattered

lemma spells_of {keyword word : List Char} (h : Spells letters keyword word) :
    spells letters.toCharacters keyword word = true := by
  have hmatch : matchLetters letters.toCharacters keyword word = some (word, []) := by
    induction h with
    | nil => rfl
    | cons hletter hrest ih => rw [matchLetters, if_pos hletter, ih]; rfl
  simp [spells, hmatch]

/-- A line comment of SQLite with words after a carriage return, where Python reads no comment
any more. -/
def returnComment (algorithm : String) : List Item :=
  [.delimited (.lineComment (some '\r')) [], .word "UPDATE".toList, .space ' ', .word "OR".toList,
    .space ' ', .word algorithm.toList, .space '\n']

def Layout.returned (algorithm : String) (layout : Layout) : Layout where
  pieces :=
    match layout.pieces with
    | [] => []
    | piece :: pieces => ⟨returnComment algorithm ++ piece.gap, piece.token⟩ :: pieces
  tail := layout.tail

lemma items_returned {algorithm : String} (hne : layout.pieces ≠ []) :
    (layout.returned algorithm).items = returnComment algorithm ++ layout.items := by
  obtain ⟨piece, pieces, hpieces⟩ := List.exists_cons_of_ne_nil hne
  simp [Layout.items, Layout.returned, hpieces, Piece.items]

lemma relaid_returned (algorithm : String) (layout : Layout) :
    layout.Relaid (layout.returned algorithm) where
  tokens := by
    rw [Layout.returned, Layout.tokens, Layout.tokens]
    cases layout.pieces <;> rfl
  tail := rfl

section

variable {algorithm : String}

lemma lexed_returnComment (halgorithm : algorithm ∈ conflictAlgorithms)
    (hitems : Lexed letters.toCharacters items) :
    Lexed letters.toCharacters (returnComment algorithm ++ items) := by
  have hword : ∀ {keyword : String} {c : Char}, IsKeyword keyword.toList →
      isPythonSpace c = true →
      (Item.word keyword.toList).WellFormed letters.toCharacters (some c) := by
    intro keyword c hkeyword hc
    have hchars := (@spells_self letters _ hkeyword).wordChar hkeyword.upper
    exact ⟨hkeyword.ne_nil, hchars, by simp [not_word_of_space letters hc]⟩
  have hblank : isPythonSpace ' ' = true := by decide
  have hline : isPythonSpace '\n' = true := by decide
  have hcomment : Item.WellFormed letters.toCharacters (.delimited (.lineComment (some '\r')) [])
      (some 'U') := ⟨⟨by simp, by simp⟩, .inl rfl⟩
  exact ⟨hcomment, hword isKeyword_update hblank, hblank, hword isKeyword_or hblank, hblank,
    hword (notOn_algorithm halgorithm).toIsKeyword hline, hline, hitems⟩

lemma isGap_returnComment (halgorithm : algorithm ∈ conflictAlgorithms) {text : List Char}
    (htext : IsGap text) : IsGap (textOf (returnComment algorithm) ++ text) := by
  intro rest
  have hlexeme : ∀ rest, SqlTokens.lexeme (textOf (returnComment algorithm) ++ rest) =
      some (none, rest) := by
    intro rest
    simp only [conflictAlgorithms, List.mem_cons, List.not_mem_nil, or_false] at halgorithm
    rcases halgorithm with rfl | rfl | rfl | rfl | rfl <;> rfl
  rw [List.append_assoc]
  exact (SqlTokens.tokens_of_lexeme (hlexeme _)).trans (htext rest)

lemma wellFormed_returned (halgorithm : algorithm ∈ conflictAlgorithms)
    (h : layout.WellFormed letters touching) (hne : layout.pieces ≠ []) :
    (layout.returned algorithm).WellFormed letters touching := by
  have hlexed := lexed_returnComment halgorithm h.lexed
  rw [← items_returned hne] at hlexed
  obtain ⟨piece, pieces, hpieces⟩ := List.exists_cons_of_ne_nil hne
  have hreturned : (layout.returned algorithm).pieces =
      ⟨returnComment algorithm ++ piece.gap, piece.token⟩ :: pieces := by
    simp [Layout.returned, hpieces]
  have hapart := h.apart
  have hgaps := h.gaps
  have hnil := h.token_ne_nil
  have htokens := h.token_items
  rw [hpieces] at hapart hgaps hnil htokens
  refine ⟨?_, ?_, ?_, h.tail, ?_, hlexed⟩
  · rw [hreturned]
    intro other hother
    rcases List.mem_cons.mp hother with rfl | hother
    · rw [textOf_append]
      exact isGap_returnComment halgorithm (hgaps piece (by simp))
    · exact hgaps other (by simp [hother])
  · rw [hreturned]
    intro other hother
    rcases List.mem_cons.mp hother with rfl | hother
    · exact hnil piece (by simp)
    · exact hnil other (by simp [hother])
  · rw [hreturned]
    intro other hother
    rcases List.mem_cons.mp hother with rfl | hother
    · exact htokens piece (by simp)
    · exact htokens other (by simp [hother])
  · rw [hreturned]
    cases pieces with
    | nil => trivial
    | cons second pieces => exact hapart

lemma resolution_returned (halgorithm : algorithm ∈ conflictAlgorithms)
    (hitems : Lexed letters.toCharacters items) :
    (normalizeSqlForSqlglot letters.toCharacters
      (textOf (returnComment algorithm ++ items))).conflictResolution =
        some ⟨.update, algorithm.toList⟩ := by
  have hspells : ∀ {keyword : String}, IsKeyword keyword.toList →
      spells letters.toCharacters keyword.toList keyword.toList = true := fun hkeyword =>
    spells_of (spells_self hkeyword)
  have hthird : (conflictAlgorithms.any fun other =>
      spells letters.toCharacters other.toList algorithm.toList) = true :=
    List.any_eq_true.mpr ⟨algorithm, halgorithm, hspells (notOn_algorithm halgorithm).toIsKeyword⟩
  have hor : orItems letters.toCharacters "UPDATE" conflictAlgorithms
      ((returnComment algorithm).tail ++ items) =
        some ⟨"UPDATE".toList, algorithm.toList, items.dropWhile Item.isSpace⟩ := by
    have hfirst : ∀ rest, spacedWord (spells letters.toCharacters "UPDATE".toList)
        (.word "UPDATE".toList :: .space ' ' :: .word "OR".toList :: rest) =
          some ("UPDATE".toList, [.space ' '], .word "OR".toList :: rest) := fun rest =>
      if_pos (hspells isKeyword_update)
    have hsecond : ∀ word rest, spacedWord (spells letters.toCharacters "OR".toList)
        (.word "OR".toList :: .space ' ' :: .word word :: rest) =
          some ("OR".toList, [.space ' '], .word word :: rest) := fun word rest =>
      if_pos (hspells isKeyword_or)
    have hlast : spacedWord (fun word => conflictAlgorithms.any fun other =>
        spells letters.toCharacters other.toList word)
          (.word algorithm.toList :: .space '\n' :: items) =
            some (algorithm.toList, .space '\n' :: items.takeWhile Item.isSpace,
              items.dropWhile Item.isSpace) := if_pos hthird
    simp only [returnComment, List.tail_cons, List.cons_append, List.nil_append, orItems, hfirst,
      Option.bind_eq_bind, Option.bind_some, hsecond, hlast]
    rfl
  have hkeyword : (Item.word "UPDATE".toList).isKeyword letters.toCharacters = true := by
    have halpha : letters.isAlpha 'U' = true := by
      rw [letters.isAlpha_ascii 'U' (by decide)]
      decide
    have hcons : "UPDATE".toList = ['U', 'P', 'D', 'A', 'T', 'E'] := by decide
    simp [Item.isKeyword, hcons, halpha]
  have hfound : firstAt letters.toCharacters
      (orItems letters.toCharacters "UPDATE" conflictAlgorithms) 0
        (returnComment algorithm ++ items) =
      some ([.delimited (.lineComment (some '\r')) []],
        ⟨"UPDATE".toList, algorithm.toList, items.dropWhile Item.isSpace⟩) := by
    have hcons : returnComment algorithm ++ items =
        .delimited (.lineComment (some '\r')) [] ::
          .word "UPDATE".toList :: ((returnComment algorithm).tail.tail ++ items) := rfl
    have htail : (Item.word "UPDATE".toList) :: ((returnComment algorithm).tail.tail ++ items) =
        (returnComment algorithm).tail ++ items := rfl
    have hdepth : Item.depthAfter 0 (.delimited (.lineComment (some '\r')) []) = 0 := rfl
    rw [hcons, firstAt, hdepth, firstAt, htail, hor, hkeyword]
    simp [Item.isKeyword]
  have hlexed := lexed_returnComment halgorithm hitems
  have hupper : letters.upperCase "UPDATE".toList = "UPDATE".toList :=
    upperCase_keyword isKeyword_update.upper
  have halgorithm' : letters.upperCase algorithm.toList = algorithm.toList :=
    upperCase_keyword (notOn_algorithm halgorithm).toIsKeyword.upper
  have hresolution : orResolution letters "UPDATE".toList algorithm.toList =
      ⟨.update, algorithm.toList⟩ := by
    rw [orResolution, hupper, halgorithm']
    rfl
  simp only [normalizeSqlForSqlglot, normalizeClauses, updateOrPattern,
    removeTopLevelOrClause_items update_mem_verbs (fun _ h => h) hlexed, hfound, hresolution]

end

end SqliteReconcile.TextItems
