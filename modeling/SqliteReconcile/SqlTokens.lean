import Mathlib

/-!
# The tokens of an SQL text

SQLite's lexical structure: white space and comments separate tokens, a token is a word, a
quoted name or string, or a single character. Keywords and names have no ASCII case.
-/
namespace SqliteReconcile.SqlTokens

def fold (text : List Char) : List Char := text.map Char.toLower

@[simp] lemma fold_nil : fold [] = [] := rfl

@[simp] lemma fold_cons (c : Char) (text : List Char) :
    fold (c :: text) = c.toLower :: fold text := rfl

@[simp] lemma fold_append (text rest : List Char) : fold (text ++ rest) = fold text ++ fold rest :=
  List.map_append

inductive Token
  | word (text : List Char)
  | quoted (delimiter : Char) (content : List Char)
  | symbol (c : Char)
  deriving DecidableEq

def isSpace (c : Char) : Bool :=
  c = ' ' || c = '\t' || c = '\n' || c = '\r' || c = Char.ofNat 12

def isIdChar (c : Char) : Bool :=
  c.isAlphanum || c = '_' || c = '$' || 128 ≤ c.val

def closing (c : Char) : Option Char :=
  if c = '\'' || c = '"' || c = Char.ofNat 96 then some c
  else if c = '[' then some ']'
  else none

/-- The content up to the closing character, which is doubled when it is meant itself. -/
def takeQuoted (close : Char) : List Char → List Char × List Char
  | [] => ([], [])
  | [c] => if c = close then ([], []) else ([c], [])
  | c :: d :: rest =>
    if c = close && d = close && close ≠ ']' then
      (c :: d :: (takeQuoted close rest).1, (takeQuoted close rest).2)
    else if c = close then ([], d :: rest)
    else (c :: (takeQuoted close (d :: rest)).1, (takeQuoted close (d :: rest)).2)

/-- What follows a block comment. -/
def skipBlock : List Char → List Char
  | '*' :: '/' :: rest => rest
  | _ :: rest => skipBlock rest
  | [] => []

def skipLine (text : List Char) : List Char := (text.dropWhile (· ≠ '\n')).tail

/-- The text starts with a comment. -/
def StartsWithComment : List Char → Bool
  | '-' :: '-' :: _ => true
  | '/' :: '*' :: _ => true
  | _ => false

def skipComment : List Char → List Char
  | '-' :: '-' :: rest => skipLine rest
  | '/' :: '*' :: rest => skipBlock rest
  | text => text

/-- The next token, or none for white space and comments, and the rest of the text. -/
def lexeme : List Char → Option (Option Token × List Char)
  | [] => none
  | c :: rest =>
    if isSpace c then some (none, rest)
    else if StartsWithComment (c :: rest) then some (none, skipComment (c :: rest))
    else if isIdChar c then
      some (some (.word (c :: rest.takeWhile isIdChar)), rest.dropWhile isIdChar)
    else
      match closing c with
      | some close =>
        some (some (.quoted c (takeQuoted close rest).1), (takeQuoted close rest).2)
      | none => some (some (.symbol c), rest)

/-- Every lexeme has a character at least. -/
def tokensIn : ℕ → List Char → List Token
  | 0, _ => []
  | n + 1, text =>
    match lexeme text with
    | none => []
    | some (token, rest) => token.toList ++ tokensIn n rest

def tokens (text : List Char) : List Token := tokensIn text.length text

def undouble (close : Char) : List Char → List Char
  | c :: d :: rest =>
    if c = close && d = close then c :: undouble close rest else c :: undouble close (d :: rest)
  | text => text

def Token.name : Token → Option (List Char)
  | .word text => some text
  | .quoted delimiter content =>
    some (if delimiter = '[' then content else undouble delimiter content)
  | .symbol _ => none

def Token.isKeyword (keyword : String) : Token → Bool
  | .word text => fold text = keyword.toList
  | _ => false

def dropKeyword (keyword : String) : List Token → List Token
  | token :: rest => if token.isKeyword keyword then rest else token :: rest
  | [] => []

def afterKeyword (keyword : String) : List Token → Option (List Token)
  | token :: rest => if token.isKeyword keyword then some rest else none
  | [] => none

/-- A statement that writes the rows of one table, or reads rows. -/
inductive Statement
  | dml (target : List Char)
  | query
  deriving DecidableEq

def skipParens : ℕ → List Token → Option (List Token)
  | _, [] => none
  | depth, .symbol '(' :: rest => skipParens (depth + 1) rest
  | 0, .symbol ')' :: rest => some rest
  | depth + 1, .symbol ')' :: rest => skipParens depth rest
  | depth, _ :: rest => skipParens depth rest

def skipColumns : List Token → Option (List Token)
  | .symbol '(' :: rest => skipParens 0 rest
  | tokens => some tokens

/-- `name [(columns)] AS [[NOT] MATERIALIZED] (select)`. -/
def skipCte (tokens : List Token) : Option (List Token) := do
  let name ← tokens.head?
  let _ ← name.name
  let rest ← skipColumns tokens.tail
  let rest ← afterKeyword "as" rest
  match dropKeyword "materialized" (dropKeyword "not" rest) with
  | .symbol '(' :: rest => skipParens 0 rest
  | _ => none

def skipCtes : ℕ → List Token → Option (List Token)
  | 0, _ => none
  | n + 1, tokens => do
    match ← skipCte tokens with
    | .symbol ',' :: rest => skipCtes n rest
    | rest => some rest

/-- `OR IGNORE` and the like. -/
def skipResolution : List Token → List Token
  | token :: resolution :: rest =>
    if token.isKeyword "or" then rest else token :: resolution :: rest
  | tokens => tokens

def targetName : List Token → Option (List Char)
  | _ :: .symbol '.' :: table :: _ => table.name
  | table :: _ => table.name
  | [] => none

def mainStatement (tokens : List Token) : Option Statement := do
  let first ← tokens.head?
  let rest := tokens.tail
  if first.isKeyword "insert" then
    let rest ← afterKeyword "into" (skipResolution rest)
    let target ← targetName rest
    return .dml target
  else if first.isKeyword "replace" then
    let rest ← afterKeyword "into" rest
    let target ← targetName rest
    return .dml target
  else if first.isKeyword "update" then
    let target ← targetName (skipResolution rest)
    return .dml target
  else if first.isKeyword "delete" then
    let rest ← afterKeyword "from" rest
    let target ← targetName rest
    return .dml target
  else if first.isKeyword "select" || first.isKeyword "values" then return .query
  else none

def statementOf (tokens : List Token) : Option Statement :=
  match afterKeyword "with" tokens with
  | some rest =>
    let rest := dropKeyword "recursive" rest
    (skipCtes rest.length rest).bind mainStatement
  | none => mainStatement tokens

example : statementOf (tokens "/* x */ WITH c(a, b) AS (SELECT 1), d AS (VALUES (2))
    INSERT OR IGNORE INTO main.\"a b\" SELECT * FROM c".toList) =
    some (.dml "a b".toList) := by
  decide +kernel

section

variable {text rest : List Char} {keyword : String}

lemma tokens_nil : tokens [] = [] := rfl

lemma tokens_space {c : Char} (h : isSpace c) : tokens (c :: rest) = tokens rest := by
  simp [tokens, tokensIn, lexeme, h]

lemma tokens_dropWhile (text : List Char) : tokens (text.dropWhile isSpace) = tokens text := by
  induction text with
  | nil => rfl
  | cons c rest ih =>
    by_cases hc : isSpace c
    · rw [List.dropWhile_cons_of_pos hc, tokens_space hc]
      exact ih
    · rw [List.dropWhile_cons_of_neg hc]

lemma keyword_first (h : ((tokens text).head?).any (·.isKeyword keyword)) :
    StartsWithComment (text.dropWhile isSpace) ∨
      ∃ first rest, text.dropWhile isSpace = first ++ rest ∧ fold first = keyword.toList ∧
        ∀ c, rest.head? = some c → isIdChar c = false := by
  rw [← tokens_dropWhile] at h
  cases hbody : text.dropWhile isSpace with
  | nil =>
    rw [hbody, tokens_nil] at h
    cases h
  | cons c rest =>
    have hspace : isSpace c = false := by
      have hhead := List.head_dropWhile_not isSpace (by rw [hbody]; simp)
      simpa [hbody] using hhead
    by_cases hcomment : StartsWithComment (c :: rest)
    · exact .inl hcomment
    · right
      rw [hbody] at h
      simp only [tokens, List.length_cons, tokensIn, lexeme, hspace, hcomment] at h
      by_cases hname : isIdChar c
      · simp only [Bool.false_eq_true, if_false, hname, if_true, Option.toList_some,
          List.singleton_append, List.head?_cons, Option.any_some, Token.isKeyword,
          decide_eq_true_eq] at h
        refine ⟨c :: rest.takeWhile isIdChar, rest.dropWhile isIdChar, ?_, h, ?_⟩
        · rw [List.cons_append, List.takeWhile_append_dropWhile]
        · intro d hd
          by_contra hnot
          simp only [Bool.not_eq_false] at hnot
          have hhead := List.head?_dropWhile_not isIdChar rest
          rw [hd] at hhead
          simp [hnot] at hhead
      · simp only [hname] at h
        cases hclose : closing c with
        | some close =>
          simp [hclose, Token.isKeyword] at h
        | none => simp [hclose, Token.isKeyword] at h

def Token.content : Token → List Char
  | .word text => text
  | .quoted _ content => content
  | .symbol c => [c]

lemma takeQuoted_append (close : Char) (text : List Char) :
    (takeQuoted close text).1 <+: text ∧ (takeQuoted close text).2 <:+ text := by
  fun_induction takeQuoted close text with
  | case1 => exact ⟨List.prefix_rfl, List.suffix_rfl⟩
  | case2 => simp
  | case3 => simp
  | case4 c d rest hdouble ih =>
    refine ⟨?_, ih.2.trans ((List.suffix_cons _ _).trans (List.suffix_cons _ _))⟩
    simpa using ih.1
  | case5 d rest => exact ⟨List.nil_prefix, List.suffix_cons _ _⟩
  | case6 c d rest hdouble hclose ih =>
    refine ⟨?_, ih.2.trans (List.suffix_cons _ _)⟩
    simpa using ih.1

lemma skipBlock_suffix (text : List Char) : skipBlock text <:+ text := by
  fun_induction skipBlock text with
  | case1 rest => exact (List.suffix_cons _ _).trans (List.suffix_cons _ _)
  | case2 c rest hnot ih => exact ih.trans (List.suffix_cons _ _)
  | case3 => exact List.suffix_rfl

lemma skipComment_suffix (text : List Char) : skipComment text <:+ text := by
  unfold skipComment
  split
  · exact ((List.tail_suffix _).trans (List.dropWhile_suffix _)).trans
      ((List.suffix_cons _ _).trans (List.suffix_cons _ _))
  · exact (skipBlock_suffix _).trans ((List.suffix_cons _ _).trans (List.suffix_cons _ _))
  · exact List.suffix_rfl

/-- A token stands in the text, quoted by quotes. -/
def Token.StandsIn (text : List Char) (token : Token) : Prop :=
  token.content <:+: text ∧
    ∀ delimiter content, token = .quoted delimiter content → closing delimiter ≠ none

lemma lexeme_infix {token : Option Token} (h : lexeme text = some (token, rest)) :
    rest <:+ text ∧ ∀ t, token = some t → t.StandsIn text := by
  cases text with
  | nil => cases h
  | cons c body =>
    unfold lexeme at h
    dsimp only at h
    split_ifs at h with hspace hcomment hname
    · cases h
      exact ⟨List.suffix_cons _ _, by simp⟩
    · cases h
      exact ⟨skipComment_suffix _, by simp⟩
    · cases h
      refine ⟨(List.dropWhile_suffix _).trans (List.suffix_cons _ _), ?_⟩
      intro t ht
      cases ht
      have hstart : c :: body.takeWhile isIdChar <+: c :: body := by
        simpa using List.takeWhile_prefix isIdChar
      exact ⟨hstart.isInfix, by simp⟩
    · cases hclose : closing c with
      | none =>
        rw [hclose] at h
        cases h
        refine ⟨List.suffix_cons _ _, ?_⟩
        intro t ht
        cases ht
        have hstart : [c] <+: c :: rest := by simp
        exact ⟨hstart.isInfix, by simp⟩
      | some close =>
        rw [hclose] at h
        obtain ⟨hcontent, hrest⟩ := takeQuoted_append close body
        cases h
        refine ⟨hrest.trans (List.suffix_cons _ _), ?_⟩
        intro t ht
        cases ht
        refine ⟨hcontent.isInfix.trans (List.suffix_cons _ _).isInfix, ?_⟩
        intro delimiter content hquoted
        cases hquoted
        rw [hclose]
        exact Option.some_ne_none _

lemma standsIn_of_mem {token : Token} (h : token ∈ tokens text) : token.StandsIn text := by
  have hfuel : ∀ n (text : List Char), token ∈ tokensIn n text → token.StandsIn text := by
    intro n
    induction n with
    | zero => simp [tokensIn]
    | succ n ih =>
      intro text hmem
      unfold tokensIn at hmem
      cases hlex : lexeme text with
      | none => simp [hlex] at hmem
      | some next =>
        obtain ⟨found, rest⟩ := next
        obtain ⟨hsuffix, hfound⟩ := lexeme_infix hlex
        simp only [hlex, List.mem_append, Option.mem_toList] at hmem
        rcases hmem with hmem | hmem
        · exact hfound token hmem
        · obtain ⟨hcontent, hquoted⟩ := ih rest hmem
          exact ⟨hcontent.trans hsuffix.isInfix, hquoted⟩
  exact hfuel _ text h

lemma undouble_eq {close : Char} {content : List Char} (h : close ∉ undouble close content) :
    undouble close content = content := by
  induction content using undouble.induct close with
  | case1 c d rest hdouble ih =>
    simp only [undouble, hdouble, if_true, List.mem_cons, not_or] at h
    simp only [Bool.and_eq_true, decide_eq_true_eq] at hdouble
    exact absurd hdouble.1.symm h.1
  | case2 c d rest hnot ih =>
    simp only [undouble, hnot] at h ⊢
    simp only [Bool.false_eq_true, if_false, List.mem_cons, not_or] at h ⊢
    rw [ih h.2]
  | case3 text hnot =>
    unfold undouble
    split
    · exact absurd rfl (hnot _ _ _)
    · rfl

lemma infix_of_name {token : Token} {name : List Char} (hmem : token ∈ tokens text)
    (hname : token.name = some name) (hplain : ∀ c ∈ name, closing c = none) :
    name <:+: text := by
  obtain ⟨hcontent, hquoted⟩ := standsIn_of_mem hmem
  cases token with
  | word word =>
    cases hname
    exact hcontent
  | symbol c => cases hname
  | quoted delimiter content =>
    simp only [Token.name, Option.some.injEq] at hname
    split_ifs at hname with hbracket
    · rw [← hname]
      exact hcontent
    · subst hname
      have hnot : delimiter ∉ undouble delimiter content := by
        intro hin
        exact hquoted delimiter content rfl (hplain delimiter hin)
      rw [undouble_eq hnot]
      exact hcontent

end

section

variable {text rest first : List Char}

lemma lexeme_length {token : Option Token} (h : lexeme text = some (token, rest)) :
    rest.length < text.length := by
  cases text with
  | nil => cases h
  | cons c body =>
    have hbody : rest <:+ body := by
      unfold lexeme at h
      dsimp only at h
      split_ifs at h with hspace hcomment hname
      · cases h
        exact List.suffix_rfl
      · cases h
        unfold skipComment
        split
        · rename_i others heq
          obtain ⟨-, rfl⟩ := List.cons.inj heq
          exact ((List.tail_suffix _).trans (List.dropWhile_suffix _)).trans
            (List.suffix_cons _ _)
        · rename_i others heq
          obtain ⟨-, rfl⟩ := List.cons.inj heq
          exact (skipBlock_suffix _).trans (List.suffix_cons _ _)
        · rename_i hline hblock
          unfold StartsWithComment at hcomment
          split at hcomment
          · rename_i heq
            exact absurd heq (hline _)
          · rename_i heq
            exact absurd heq (hblock _)
          · cases hcomment
      · cases h
        exact List.dropWhile_suffix _
      · cases hclose : closing c with
        | none =>
          rw [hclose] at h
          cases h
          exact List.suffix_rfl
        | some close =>
          rw [hclose] at h
          cases h
          exact (takeQuoted_append close body).2
    have hlength := hbody.length_le
    rw [List.length_cons]
    omega

lemma tokensIn_eq (n : ℕ) (h : text.length ≤ n) : tokensIn n text = tokens text := by
  unfold tokens
  induction n using Nat.strong_induction_on generalizing text with
  | _ n ih =>
    cases text with
    | nil => cases n <;> rfl
    | cons c body =>
      cases n with
      | zero => simp at h
      | succ n =>
        rw [List.length_cons] at h ⊢
        simp only [tokensIn]
        cases hlex : lexeme (c :: body) with
        | none => rfl
        | some next =>
          obtain ⟨token, rest⟩ := next
          have hshort := lexeme_length hlex
          rw [List.length_cons] at hshort
          dsimp only
          rw [ih n (by omega) (by omega), ih body.length (by omega) (by omega)]

lemma tokens_of_lexeme {token : Option Token} (h : lexeme text = some (token, rest)) :
    tokens text = token.toList ++ tokens rest := by
  cases text with
  | nil => cases h
  | cons c body =>
    have hlength := lexeme_length h
    rw [List.length_cons] at hlength
    rw [tokens, List.length_cons, tokensIn, h]
    dsimp only
    rw [tokensIn_eq body.length (by omega)]

lemma isIdChar_start {c : Char} (h : isIdChar c) :
    isSpace c = false ∧ StartsWithComment (c :: rest) = false := by
  constructor
  · by_contra hspace
    unfold isSpace at hspace
    simp only [Bool.not_eq_false, Bool.or_eq_true, decide_eq_true_eq] at hspace
    rcases hspace with (((hc | hc) | hc) | hc) | hc <;> (rw [hc] at h; revert h; decide)
  · unfold StartsWithComment
    split
    · rename_i heq
      rw [(List.cons.inj heq).1] at h
      exact absurd h (by decide)
    · rename_i heq
      rw [(List.cons.inj heq).1] at h
      exact absurd h (by decide)
    · rfl

lemma lexeme_word {c : Char} (h : isIdChar c) :
    lexeme (c :: rest) = some (some (.word (c :: rest.takeWhile isIdChar)),
      rest.dropWhile isIdChar) := by
  obtain ⟨hspace, hcomment⟩ := @isIdChar_start rest c h
  simp [lexeme, hspace, hcomment, h]

lemma tokens_word (hne : first ≠ []) (hword : ∀ c ∈ first, isIdChar c)
    (hrest : ∀ c, rest.head? = some c → isIdChar c = false) :
    tokens (first ++ rest) = .word first :: tokens rest := by
  cases first with
  | nil => exact absurd rfl hne
  | cons c others =>
    have hothers : ∀ d ∈ others, isIdChar d := fun d hd => hword d (List.mem_cons_of_mem _ hd)
    have hstop : rest.takeWhile isIdChar = [] ∧ rest.dropWhile isIdChar = rest := by
      cases rest with
      | nil => exact ⟨rfl, rfl⟩
      | cons d body =>
        have hd := hrest d rfl
        exact ⟨List.takeWhile_cons_of_neg (by simp [hd]), List.dropWhile_cons_of_neg (by simp [hd])⟩
    rw [List.cons_append, tokens_of_lexeme (lexeme_word (hword c List.mem_cons_self)),
      List.takeWhile_append_of_pos hothers, List.dropWhile_append_of_pos hothers, hstop.1, hstop.2]
    simp

end

section

variable {list rest : List Token} {keyword : String}

lemma afterKeyword_some (h : afterKeyword keyword list = some rest) :
    (list.head?).any (·.isKeyword keyword) ∧ rest <:+ list := by
  cases list with
  | nil => cases h
  | cons token others =>
    simp only [afterKeyword] at h
    split_ifs at h with hkey
    cases h
    exact ⟨by simpa using hkey, List.suffix_cons _ _⟩

lemma dropKeyword_suffix (keyword : String) (list : List Token) :
    dropKeyword keyword list <:+ list := by
  cases list with
  | nil => exact List.suffix_rfl
  | cons token others =>
    simp only [dropKeyword]
    split_ifs
    · exact List.suffix_cons _ _
    · exact List.suffix_rfl

lemma skipParens_suffix {depth : ℕ} (h : skipParens depth list = some rest) : rest <:+ list := by
  fun_induction skipParens depth list with
  | case1 => cases h
  | case2 depth others ih => exact (ih h).trans (List.suffix_cons _ _)
  | case3 others =>
    cases h
    exact List.suffix_cons _ _
  | case4 others depth ih => exact (ih h).trans (List.suffix_cons _ _)
  | case5 depth token others _ _ _ ih => exact (ih h).trans (List.suffix_cons _ _)

lemma skipColumns_suffix (h : skipColumns list = some rest) : rest <:+ list := by
  unfold skipColumns at h
  split at h
  · exact (skipParens_suffix h).trans (List.suffix_cons _ _)
  · cases h
    exact List.suffix_rfl

lemma skipCte_suffix (h : skipCte list = some rest) : rest <:+ list := by
  obtain ⟨name, -, h⟩ := Option.bind_eq_some_iff.mp h
  obtain ⟨text, -, h⟩ := Option.bind_eq_some_iff.mp h
  obtain ⟨afterColumns, hcolumns, h⟩ := Option.bind_eq_some_iff.mp h
  obtain ⟨afterAs, has, h⟩ := Option.bind_eq_some_iff.mp h
  have hfront : dropKeyword "materialized" (dropKeyword "not" afterAs) <:+ list :=
    (dropKeyword_suffix _ _).trans ((dropKeyword_suffix _ _).trans
      ((afterKeyword_some has).2.trans ((skipColumns_suffix hcolumns).trans
        (List.tail_suffix _))))
  split at h
  · rename_i body hbody
    rw [hbody] at hfront
    exact (skipParens_suffix h).trans ((List.suffix_cons _ _).trans hfront)
  · cases h

lemma skipCtes_suffix {n : ℕ} (h : skipCtes n list = some rest) : rest <:+ list := by
  induction n generalizing list with
  | zero => cases h
  | succ n ih =>
    obtain ⟨afterCte, hcte, h⟩ := Option.bind_eq_some_iff.mp h
    have hsuffix := skipCte_suffix hcte
    split at h
    · exact (ih h).trans ((List.suffix_cons _ _).trans hsuffix)
    · cases h
      exact hsuffix

lemma skipResolution_suffix (list : List Token) : skipResolution list <:+ list := by
  unfold skipResolution
  split
  · split_ifs
    · exact (List.suffix_cons _ _).trans (List.suffix_cons _ _)
    · exact List.suffix_rfl
  · exact List.suffix_rfl

lemma targetName_mem {name : List Char} (h : targetName list = some name) :
    ∃ token ∈ list, token.name = some name := by
  unfold targetName at h
  split at h
  · exact ⟨_, by simp, h⟩
  · exact ⟨_, by simp, h⟩
  · cases h

/-- What a statement without a WITH clause starts with. -/
def StartsAs (list : List Token) (keywords : List String) : Prop :=
  ∃ keyword ∈ keywords, (list.head?).any (·.isKeyword keyword)

def dmlKeywords : List String := ["insert", "replace", "update", "delete"]

def queryKeywords : List String := ["select", "values"]

lemma mainStatement_dml {target : List Char} (h : mainStatement list = some (.dml target)) :
    StartsAs list dmlKeywords ∧ ∃ token ∈ list, token.name = some target := by
  obtain ⟨first, hfirst, h⟩ := Option.bind_eq_some_iff.mp h
  have hstarts : ∀ keyword, keyword ∈ dmlKeywords → first.isKeyword keyword = true →
      StartsAs list dmlKeywords := by
    intro keyword hmem hkey
    exact ⟨keyword, hmem, by rw [hfirst]; exact hkey⟩
  have htail : list.tail <:+ list := List.tail_suffix _
  split_ifs at h with hinsert hreplace hupdate hdelete hquery
  · obtain ⟨afterInto, hinto, h⟩ := Option.bind_eq_some_iff.mp h
    obtain ⟨name, hname, h⟩ := Option.bind_eq_some_iff.mp h
    cases h
    obtain ⟨token, hmem, htoken⟩ := targetName_mem hname
    have hsuffix := (afterKeyword_some hinto).2.trans ((skipResolution_suffix _).trans htail)
    exact ⟨hstarts _ (by decide) hinsert, token, hsuffix.subset hmem, htoken⟩
  · obtain ⟨afterInto, hinto, h⟩ := Option.bind_eq_some_iff.mp h
    obtain ⟨name, hname, h⟩ := Option.bind_eq_some_iff.mp h
    cases h
    obtain ⟨token, hmem, htoken⟩ := targetName_mem hname
    have hsuffix := (afterKeyword_some hinto).2.trans htail
    exact ⟨hstarts _ (by decide) hreplace, token, hsuffix.subset hmem, htoken⟩
  · obtain ⟨name, hname, h⟩ := Option.bind_eq_some_iff.mp h
    cases h
    obtain ⟨token, hmem, htoken⟩ := targetName_mem hname
    have hsuffix := (skipResolution_suffix _).trans htail
    exact ⟨hstarts _ (by decide) hupdate, token, hsuffix.subset hmem, htoken⟩
  · obtain ⟨afterFrom, hfrom, h⟩ := Option.bind_eq_some_iff.mp h
    obtain ⟨name, hname, h⟩ := Option.bind_eq_some_iff.mp h
    cases h
    obtain ⟨token, hmem, htoken⟩ := targetName_mem hname
    have hsuffix := (afterKeyword_some hfrom).2.trans htail
    exact ⟨hstarts _ (by decide) hdelete, token, hsuffix.subset hmem, htoken⟩
  · cases h

lemma mainStatement_query (h : mainStatement list = some .query) :
    StartsAs list queryKeywords := by
  obtain ⟨first, hfirst, h⟩ := Option.bind_eq_some_iff.mp h
  have hnot : ∀ {found : Option (List Char)},
      (found.bind fun target => some (Statement.dml target)) ≠ some .query := by
    intro found heq
    cases found with
    | none => cases heq
    | some target => cases heq
  split_ifs at h with hinsert hreplace hupdate hdelete hquery
  · obtain ⟨afterInto, -, h⟩ := Option.bind_eq_some_iff.mp h
    exact absurd h hnot
  · obtain ⟨afterInto, -, h⟩ := Option.bind_eq_some_iff.mp h
    exact absurd h hnot
  · exact absurd h hnot
  · obtain ⟨afterFrom, -, h⟩ := Option.bind_eq_some_iff.mp h
    exact absurd h hnot
  · rw [Bool.or_eq_true] at hquery
    rcases hquery with hselect | hvalues
    · exact ⟨"select", by decide, by rw [hfirst]; exact hselect⟩
    · exact ⟨"values", by decide, by rw [hfirst]; exact hvalues⟩

lemma statementOf_dml {target : List Char} (h : statementOf list = some (.dml target)) :
    StartsAs list ("with" :: dmlKeywords) ∧ ∃ token ∈ list, token.name = some target := by
  unfold statementOf at h
  cases hwith : afterKeyword "with" list with
  | none =>
    rw [hwith] at h
    obtain ⟨⟨keyword, hmem, hkey⟩, htarget⟩ := mainStatement_dml h
    exact ⟨⟨keyword, List.mem_cons_of_mem _ hmem, hkey⟩, htarget⟩
  | some afterWith =>
    rw [hwith] at h
    obtain ⟨main, hctes, h⟩ := Option.bind_eq_some_iff.mp h
    obtain ⟨hkey, hsuffix⟩ := afterKeyword_some hwith
    obtain ⟨-, token, hmem, htoken⟩ := mainStatement_dml h
    have hmain := (skipCtes_suffix hctes).trans ((dropKeyword_suffix _ _).trans hsuffix)
    exact ⟨⟨"with", List.mem_cons_self, hkey⟩, token, hmain.subset hmem, htoken⟩

lemma statementOf_query (h : statementOf list = some .query) :
    StartsAs list ("with" :: queryKeywords) := by
  unfold statementOf at h
  cases hwith : afterKeyword "with" list with
  | none =>
    rw [hwith] at h
    obtain ⟨keyword, hmem, hkey⟩ := mainStatement_query h
    exact ⟨keyword, List.mem_cons_of_mem _ hmem, hkey⟩
  | some afterWith => exact ⟨"with", List.mem_cons_self, (afterKeyword_some hwith).1⟩

end

/-- A statement that opens or closes a transaction or a savepoint. -/
inductive Control
  | begin
  | commit
  | rollback
  | savepoint (name : List Char)
  | release (name : List Char)
  | rollbackTo (name : List Char)
  deriving DecidableEq

def ends : List Token → Bool
  | [] => true
  | [token] => token = .symbol ';'
  | _ => false

def lastName : List Token → Option (List Char)
  | token :: rest => if ends rest then token.name else none
  | [] => none

/-- `DEFERRED`, `IMMEDIATE` or `EXCLUSIVE`. -/
def dropMode : List Token → List Token
  | token :: rest =>
    if ["deferred", "immediate", "exclusive"].any token.isKeyword then rest else token :: rest
  | [] => []

/-- What follows `ROLLBACK [TRANSACTION]`. -/
def rollbackOf (tokens : List Token) : Option Control :=
  match afterKeyword "to" tokens with
  | some rest => (lastName (dropKeyword "savepoint" rest)).map .rollbackTo
  | none => if ends tokens then some .rollback else none

def controlOf (tokens : List Token) : Option Control := do
  let first ← tokens.head?
  let rest := tokens.tail
  if first.isKeyword "begin" then
    if ends (dropKeyword "transaction" (dropMode rest)) then some .begin else none
  else if first.isKeyword "commit" || first.isKeyword "end" then
    if ends (dropKeyword "transaction" rest) then some .commit else none
  else if first.isKeyword "rollback" then rollbackOf (dropKeyword "transaction" rest)
  else if first.isKeyword "savepoint" then (lastName rest).map .savepoint
  else if first.isKeyword "release" then
    (lastName (dropKeyword "savepoint" rest)).map .release
  else none

example : controlOf (tokens "rollback/**/TRANSACTION to Savepoint\n\"a b\" ;".toList) =
    some (.rollbackTo "a b".toList) := by
  decide +kernel

/-- What a control statement starts with. -/
def Control.keywords : Control → List String
  | .begin => ["begin"]
  | .commit => ["commit", "end"]
  | .rollback => ["rollback"]
  | .savepoint _ => ["savepoint"]
  | .release _ => ["release"]
  | .rollbackTo _ => ["rollback"]

lemma rollbackOf_keywords {list : List Token} {control : Control}
    (h : rollbackOf list = some control) : control.keywords = ["rollback"] := by
  unfold rollbackOf at h
  split at h
  · obtain ⟨name, -, rfl⟩ := Option.map_eq_some_iff.mp h
    rfl
  · split_ifs at h
    cases h
    rfl

/-- What may follow a ROLLBACK that ends the transaction. -/
lemma rollbackOf_ends {list : List Token} (h : rollbackOf list = some .rollback) : ends list := by
  unfold rollbackOf at h
  split at h
  · obtain ⟨name, -, hname⟩ := Option.map_eq_some_iff.mp h
    cases hname
  · split_ifs at h with hends
    exact hends

lemma controlOf_starts {list : List Token} {control : Control}
    (h : controlOf list = some control) : StartsAs list control.keywords := by
  obtain ⟨first, hfirst, h⟩ := Option.bind_eq_some_iff.mp h
  have hstarts : ∀ keyword ∈ control.keywords, first.isKeyword keyword = true →
      StartsAs list control.keywords := by
    intro keyword hmem hkey
    exact ⟨keyword, hmem, by rw [hfirst]; exact hkey⟩
  dsimp only at h
  split_ifs at h with hbegin hbeginEnds hcommit hcommitEnds hrollback hsavepoint hrelease
  · cases h
    exact hstarts "begin" (by simp [Control.keywords]) hbegin
  · cases h
    rcases (Bool.or_eq_true _ _).mp hcommit with hkey | hkey
    · exact hstarts "commit" (by simp [Control.keywords]) hkey
    · exact hstarts "end" (by simp [Control.keywords]) hkey
  · exact hstarts "rollback" (by simp [rollbackOf_keywords h]) hrollback
  · obtain ⟨name, -, rfl⟩ := Option.map_eq_some_iff.mp h
    exact hstarts "savepoint" (by simp [Control.keywords]) hsavepoint
  · obtain ⟨name, -, rfl⟩ := Option.map_eq_some_iff.mp h
    exact hstarts "release" (by simp [Control.keywords]) hrelease

lemma controlOf_rollback {list : List Token} (h : controlOf list = some .rollback) :
    ends (dropKeyword "transaction" list.tail) := by
  obtain ⟨first, hfirst, h⟩ := Option.bind_eq_some_iff.mp h
  dsimp only at h
  split_ifs at h with hbegin hbeginEnds hcommit hcommitEnds hrollback hsavepoint hrelease
  · cases h
  · cases h
  · exact rollbackOf_ends h
  · obtain ⟨name, -, hname⟩ := Option.map_eq_some_iff.mp h
    cases hname
  · obtain ⟨name, -, hname⟩ := Option.map_eq_some_iff.mp h
    cases hname

end SqliteReconcile.SqlTokens
