import SqliteReconcile.StatementLogging

/-!
# Conflict-resolution syntax

OR clauses, REPLACE INTO and UPSERT clauses are found by a scan over the characters of a text
and rewritten there, before the text is parsed.
-/
namespace SqliteReconcile.ConflictSyntax
open StatementLogging

/-- What Python knows of the characters besides: `str.isalpha`, and the characters that a letter
of a regular expression matches when case is ignored. -/
structure Characters extends Unicode where
  isAlpha : Char → Bool
  isAlpha_ascii : ∀ c, c.val < 128 → isAlpha c = c.isAlpha
  ignoreCase : Char → Char → Bool
  ignoreCase_ascii : ∀ letter c, c.val < 128 → ignoreCase letter c = (c.toUpper = letter)
  isWordChar_of_ignoreCase : ∀ letter c, letter.isUpper = true → ignoreCase letter c = true →
    isWordChar c = true
  isWordChar_space : ∀ c, isPythonSpace c = true → isWordChar c = false

inductive Inside
  | code
  | quote (delimiter : Char)
  | bracket
  | lineComment
  | blockComment
  deriving DecidableEq

/-- The loop variables of the scanner. `consumed` says that `index += 2` has passed the next
character already. -/
structure Scan where
  index : ℕ
  previous : Option Char
  depth : ℕ
  inside : Inside
  consumed : Bool
  deriving DecidableEq

def Scan.start : Scan := ⟨0, none, 0, .code, false⟩

def quotes : List Char := ['\'', '"', Char.ofNat 96]

/-- One character, of which the next one is known. -/
def Scan.step (s : Scan) (char : Char) (nextChar : Option Char) : Scan :=
  let passed := { s with index := s.index + 1, previous := some char, consumed := false }
  if s.consumed then passed
  else
    match s.inside with
    | .lineComment =>
      if char = '\r' ∨ char = '\n' then { passed with inside := .code } else passed
    | .blockComment =>
      if char = '*' ∧ nextChar = some '/' then
        { passed with inside := .code, consumed := true }
      else passed
    | .bracket => if char = ']' then { passed with inside := .code } else passed
    | .quote delimiter =>
      if char = delimiter then
        if nextChar = some delimiter then { passed with consumed := true }
        else { passed with inside := .code }
      else passed
    | .code =>
      if char = '-' ∧ nextChar = some '-' then
        { passed with inside := .lineComment, consumed := true }
      else if char = '/' ∧ nextChar = some '*' then
        { passed with inside := .blockComment, consumed := true }
      else if char ∈ quotes then { passed with inside := .quote char }
      else if char = '[' then { passed with inside := .bracket }
      else if char = '(' then { passed with depth := s.depth + 1 }
      else if char = ')' then { passed with depth := s.depth - 1 }
      else passed

section

variable (characters : Characters)

/-- A keyword at the top level starts with this character. The rest of the word is passed
character by character, since a keyword starts after no character of a word. -/
def Scan.atKeyword (s : Scan) (char : Char) : Bool :=
  !s.consumed && s.inside = .code && s.depth = 0 && (characters.isAlpha char || char = '_') &&
    s.previous.all (!characters.isWordChar ·)

def keywordIndexes (s : Scan) : List Char → List ℕ
  | [] => []
  | char :: rest =>
    (if s.atKeyword characters char then [s.index] else []) ++
      keywordIndexes (s.step char rest.head?) rest

def topLevelKeywordIndexes (sql : List Char) : List ℕ := keywordIndexes characters .start sql

/-- The characters of a keyword in any case, and what follows them. -/
def matchLetters : List Char → List Char → Option (List Char × List Char)
  | [], text => some ([], text)
  | _ :: _, [] => none
  | letter :: letters, char :: text =>
    if characters.ignoreCase letter char then
      (matchLetters letters text).map fun found => (char :: found.1, found.2)
    else none

/-- `\s+` and what follows it. -/
def matchSpaces (text : List Char) : Option (List Char × List Char) :=
  if text.takeWhile isPythonSpace = [] then none
  else some (text.takeWhile isPythonSpace, text.dropWhile isPythonSpace)

structure Found where
  group1 : List Char
  group2 : List Char
  after : List Char
  deriving DecidableEq

abbrev Pattern := List Char → Option Found

/-- `(VERB)\s+OR\s+(ALGORITHM|...)\s+`. -/
def orPattern (verb : String) (algorithms : List String) : Pattern := fun text => do
  let (group1, text) ← matchLetters characters verb.toList text
  let (_, text) ← matchSpaces text
  let (_, text) ← matchLetters characters "OR".toList text
  let (_, text) ← matchSpaces text
  algorithms.findSome? fun algorithm => do
    let (group2, text) ← matchLetters characters algorithm.toList text
    let (_, text) ← matchSpaces text
    return ⟨group1, group2, text⟩

def conflictAlgorithms : List String := ["ROLLBACK", "ABORT", "FAIL", "IGNORE", "REPLACE"]

def reviewableAlgorithms : List String := ["IGNORE", "REPLACE"]

def insertOrPattern : Pattern := orPattern characters "INSERT" conflictAlgorithms

def updateOrPattern : Pattern := orPattern characters "UPDATE" conflictAlgorithms

def insertOrRollbackPattern : Pattern := orPattern characters "INSERT" ["ROLLBACK"]

def updateOrRollbackPattern : Pattern := orPattern characters "UPDATE" ["ROLLBACK"]

def reviewableInsertOrPattern : Pattern := orPattern characters "INSERT" reviewableAlgorithms

def reviewableUpdateOrPattern : Pattern := orPattern characters "UPDATE" reviewableAlgorithms

/-- `(REPLACE)(\s+INTO\s+)`. -/
def replaceIntoPattern : Pattern := fun text => do
  let (group1, text) ← matchLetters characters "REPLACE".toList text
  let (first, text) ← matchSpaces text
  let (into, text) ← matchLetters characters "INTO".toList text
  let (second, text) ← matchSpaces text
  return ⟨group1, first ++ into ++ second, text⟩

/-- `(UPDATE)\s+`. -/
def updateKeywordPattern : Pattern := fun text => do
  let (group1, text) ← matchLetters characters "UPDATE".toList text
  let (_, text) ← matchSpaces text
  return ⟨group1, [], text⟩

structure Match extends Found where
  before : List Char

def topLevelPatternMatch (sql : List Char) (pattern : Pattern) : Option Match :=
  (topLevelKeywordIndexes characters sql).findSome? fun index =>
    (pattern (sql.drop index)).map fun found => ⟨found, sql.take index⟩

def keywordAt (sql : List Char) (index : ℕ) (keyword : String) : Bool :=
  characters.upperCase ((sql.drop index).take keyword.length) = keyword.toList &&
    (index = 0 || sql[index - 1]?.all (!characters.isWordChar ·)) &&
    sql[index + keyword.length]?.all (!characters.isWordChar ·)

/-- The next word after white space, in upper case. -/
def nextKeywordAfter (sql : List Char) (index : ℕ) : Option (List Char) :=
  let word := ((sql.drop index).dropWhile isPythonSpace).takeWhile characters.isWordChar
  if word = [] then none else some (characters.upperCase word)

def findTopLevelOnConflict (sql : List Char) : Option ℕ :=
  (topLevelKeywordIndexes characters sql).find? fun index =>
    keywordAt characters sql index "ON" &&
      nextKeywordAfter characters sql (index + 2) = some "CONFLICT".toList

def rstrip (text : List Char) : List Char := text.rdropWhile isPythonSpace

def startsWithInsertLikeStatement (sql : List Char) : Bool :=
  let upper := characters.upperCase (sql.dropWhile isPythonSpace)
  "INSERT".toList <+: upper || "WITH".toList <+: upper

/-- Remove a top-level SQLite UPSERT clause from an INSERT statement. -/
def stripTopLevelUpsert (sql : List Char) : Option (List Char) :=
  if !startsWithInsertLikeStatement characters sql then none
  else
    (findTopLevelOnConflict characters sql).map fun index =>
      rstrip (sql.take index) ++ if [';'] <:+ rstrip sql then [';'] else []

inductive StatementKind
  | insert
  | update
  deriving DecidableEq

def StatementKind.upper : StatementKind → String
  | .insert => "INSERT"
  | .update => "UPDATE"

structure SQLiteConflictResolution where
  statementKind : StatementKind
  algorithm : List Char
  deriving DecidableEq

def removeTopLevelOrClause (sql : List Char) (pattern : Pattern) :
    List Char × Option SQLiteConflictResolution :=
  match topLevelPatternMatch characters sql pattern with
  | none => (sql, none)
  | some found =>
    (found.before ++ found.group1 ++ [' '] ++ found.after,
      some
        { statementKind :=
            if characters.upperCase found.group1 = "INSERT".toList then .insert else .update
          algorithm := characters.upperCase found.group2 })

def insertOrResolution (sql : List Char) : Option SQLiteConflictResolution :=
  (topLevelPatternMatch characters sql (insertOrPattern characters)).map fun found =>
    ⟨.insert, characters.upperCase found.group2⟩

/-- REPLACE INTO written as an INSERT with other words before INTO. -/
def rewriteTopLevelReplaceInto (insert : String) (sql : List Char) :
    List Char × Option SQLiteConflictResolution :=
  match topLevelPatternMatch characters sql (replaceIntoPattern characters) with
  | none => (sql, none)
  | some found =>
    (found.before ++ insert.toList ++ found.group2 ++ found.after,
      some ⟨.insert, "REPLACE".toList⟩)

def normalizeTopLevelReplaceInto := rewriteTopLevelReplaceInto characters "INSERT OR REPLACE"

def stripTopLevelReplaceInto := rewriteTopLevelReplaceInto characters "INSERT"

structure CompatibleSQL where
  sql : List Char
  conflictResolution : Option SQLiteConflictResolution
  strippedUpsert : Bool
  deriving DecidableEq

def withoutUpsert (sql : List Char) : List Char × Bool :=
  match stripTopLevelUpsert characters sql with
  | some stripped => if stripped ≠ sql then (stripped, true) else (sql, false)
  | none => (sql, false)

/-- The text and the resolution before the UPSERT clause is stripped. -/
def normalizeClauses (sql : List Char) : List Char × Option SQLiteConflictResolution :=
  let resolution := insertOrResolution characters sql
  let (normalized, resolution) :=
    match removeTopLevelOrClause characters sql (updateOrPattern characters) with
    | (updated, some updateResolution) => (updated, some updateResolution)
    | (_, none) => (sql, resolution)
  match resolution with
  | some resolution => (normalized, some resolution)
  | none =>
    match normalizeTopLevelReplaceInto characters normalized with
    | (replaced, some replaceResolution) => (replaced, some replaceResolution)
    | (_, none) => (normalized, none)

/-- Return a sqlglot-compatible SQL form and the SQLite syntax it normalized. -/
def normalizeSqlForSqlglot (sql : List Char) : CompatibleSQL :=
  let (normalized, resolution) := normalizeClauses characters sql
  let (stripped, strippedUpsert) := withoutUpsert characters normalized
  ⟨stripped, resolution, strippedUpsert⟩

/-- Remove top-level OR ROLLBACK from SQL used for merge replay. -/
def neutralizeRollbackConflictResolution (sql : List Char) : List Char :=
  let rewritten := (removeTopLevelOrClause characters sql (insertOrRollbackPattern characters)).1
  (removeTopLevelOrClause characters rewritten (updateOrRollbackPattern characters)).1

structure StrictReplayRewrite where
  sql : List Char
  label : List Char
  deriving DecidableEq

def resolutionLabel (resolution : SQLiteConflictResolution) : List Char :=
  resolution.statementKind.upper.toList ++ " OR ".toList ++ resolution.algorithm

def strictClauses (sql : List Char) : List Char × List (List Char) :=
  let (rewritten, insertResolution) :=
    removeTopLevelOrClause characters sql (reviewableInsertOrPattern characters)
  let (rewritten, updateResolution) :=
    removeTopLevelOrClause characters rewritten (reviewableUpdateOrPattern characters)
  let (rewritten, replaceResolution) := stripTopLevelReplaceInto characters rewritten
  (rewritten,
    (insertResolution.map resolutionLabel).toList ++
      (updateResolution.map resolutionLabel).toList ++
      (replaceResolution.map fun _ => "REPLACE INTO".toList).toList)

/-- Return stricter SQL when SQLite conflict resolution can hide a violation. -/
def strictConflictResolutionRewrite (sql : List Char) : Option StrictReplayRewrite :=
  let (rewritten, labels) := strictClauses characters sql
  let (stripped, strippedUpsert) := withoutUpsert characters rewritten
  let labels := labels ++ if strippedUpsert then ["UPSERT".toList] else []
  if labels = [] then none else some ⟨stripped, " / ".toList.intercalate labels⟩

def restoreUpdateConflictResolution (sql : List Char) :
    Option SQLiteConflictResolution → List Char
  | none => sql
  | some resolution =>
    if resolution.statementKind ≠ .update then sql
    else
      match topLevelPatternMatch characters sql (updateKeywordPattern characters) with
      | none => sql
      | some found =>
        found.before ++ found.group1 ++ " OR ".toList ++ resolution.algorithm ++ [' '] ++
          found.after

end

def asciiCharacters : Characters where
  toUnicode := asciiUnicode
  isAlpha c := c.isAlpha
  isAlpha_ascii _ _ := rfl
  ignoreCase letter c := c.toUpper = letter
  ignoreCase_ascii _ _ _ := by simp
  isWordChar_of_ignoreCase letter c hletter h := by
    have halpha : c.isAlpha := by
      rw [← Char.isAlpha_toUpper_eq_isAlpha, of_decide_eq_true h, Char.isAlpha, hletter,
        Bool.true_or]
    simp [asciiUnicode, Char.isAlphanum, halpha]
  isWordChar_space c h := by
    by_contra hword
    have hcases : c.isAlpha = true ∨ c.isDigit = true ∨ c = '_' := by
      have hor : ((c.isAlpha || c.isDigit) || decide (c = '_')) = true :=
        Bool.eq_true_of_not_eq_false hword
      simpa [or_assoc] using hor
    have hspace : isPythonSpace c = false := by
      rcases hcases with halpha | hdigit | rfl
      · exact isPythonSpace_of_alpha halpha
      · simp only [Char.isDigit, Bool.and_eq_true, decide_eq_true_eq, ge_iff_le,
          UInt32.le_iff_toNat_le] at hdigit
        have hbound : 48 ≤ c.val.toNat ∧ c.val.toNat ≤ 57 := hdigit
        unfold isPythonSpace
        simp only [Bool.or_eq_false_iff, Bool.and_eq_false_iff, decide_eq_false_iff_not,
          UInt32.le_iff_toNat_le, ← UInt32.toNat_inj, UInt32.reduceToNat]
        omega
      · decide
    rw [h] at hspace
    cases hspace

end SqliteReconcile.ConflictSyntax
