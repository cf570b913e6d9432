import SqliteReconcile.ReplayPreparation

/-!
# Literals and the values they denote

SQLite value, Python value, literal node, literal text, and the value that SQLite reads back.
-/
namespace SqliteReconcile.LiteralValues
open ReplayPreparation

/-- Quotes inside a string literal are doubled. -/
def escape : List Char → List Char
  | [] => []
  | '\'' :: text => '\'' :: '\'' :: escape text
  | char :: text => char :: escape text

/-- The text that sqlglot renders for a literal. -/
def literalSql : Expression → Option (List Char)
  | .null => some "NULL".toList
  | .literal text true => some ('\'' :: escape text ++ ['\''])
  | .literal text false => some text
  | _ => none

/-- The contents of a string literal after its opening quote; the literal must end the text. -/
def readString : List Char → Option (List Char)
  | [] => none
  | ['\''] => some []
  | '\'' :: '\'' :: text => (readString text).map ('\'' :: ·)
  | '\'' :: _ :: _ => none
  | char :: text => (readString text).map (char :: ·)

def readDigits (text : List Char) : Option ℕ :=
  if !text.isEmpty && text.all Char.isDigit then some (Nat.ofDigitChars 10 text 0) else none

def readInteger : List Char → Option ℤ
  | '-' :: text => (readDigits text).map fun (n : ℕ) => -(n : ℤ)
  | text => (readDigits text).map fun (n : ℕ) => (n : ℤ)

section

variable {Real : Type} (readReal : List Char → Option Real)

/-- A numeric literal; integers of more than 64 bits are read as reals. -/
def readNumber (text : List Char) : Option (Value Real) :=
  match readInteger text with
  | some n => if h : -2 ^ 63 ≤ n ∧ n < 2 ^ 63 then some (.integer ⟨n, h⟩)
    else (readReal text).map .real
  | none => (readReal text).map .real

/-- What SQLite makes of a literal in a statement. A text with a NUL is not executed. -/
def readText (text : List Char) : Option (Value Real) :=
  if Char.ofNat 0 ∈ text then none
  else
    match text with
    | '\'' :: contents => (readString contents).map .text
    | _ => if text = "NULL".toList then some .null else readNumber readReal text

/-- The value of a literal node in the statement it is rendered into. -/
def readLiteral (expression : Expression) : Option (Value Real) :=
  (literalSql expression).bind (readText readReal)

lemma readDigits_toDigits (n : ℕ) : readDigits (Nat.toDigits 10 n) = some n := by
  have hnonempty : (Nat.toDigits 10 n).isEmpty = false := by
    simp [Nat.toDigits_ne_nil]
  have hdigits : (Nat.toDigits 10 n).all Char.isDigit = true := by
    rw [List.all_eq_true]
    intro c hc
    exact Nat.isDigit_of_mem_toDigits (by omega) (by omega) hc
  simp [readDigits, hnonempty, hdigits, Nat.ofDigitChars_ten_toDigits]

lemma isDigit_of_mem_toDigits {n : ℕ} {c : Char} (h : c ∈ Nat.toDigits 10 n) :
    c.isDigit = true :=
  Nat.isDigit_of_mem_toDigits (by omega) (by omega) h

lemma readInteger_strInt (n : ℤ) : readInteger (strInt n) = some n := by
  unfold strInt
  split_ifs with hneg
  · have hvalue : -(n.natAbs : ℤ) = n := by omega
    rw [readInteger, readDigits_toDigits, Option.map_some, hvalue]
  · have hread : readInteger (Nat.toDigits 10 n.natAbs) =
        (readDigits (Nat.toDigits 10 n.natAbs)).map fun (n : ℕ) => (n : ℤ) := by
      unfold readInteger
      split
      · rename_i text htext
        have hminus : ('-').isDigit = true := isDigit_of_mem_toDigits (n := n.natAbs) (by
          rw [htext]
          simp)
        exact absurd hminus (by decide)
      · rfl
    have hvalue : (n.natAbs : ℤ) = n := by omega
    simp [hread, readDigits_toDigits, hvalue]

lemma mem_strInt {n : ℤ} {c : Char} (h : c ∈ strInt n) : c = '-' ∨ c.isDigit = true := by
  unfold strInt at h
  split_ifs at h with hneg
  · rcases List.mem_cons.mp h with rfl | hdigit
    · exact Or.inl rfl
    · exact Or.inr (isDigit_of_mem_toDigits hdigit)
  · exact Or.inr (isDigit_of_mem_toDigits h)

lemma readText_strInt (n : SqlInteger) : readText readReal (strInt n) = some (.integer n) := by
  have hnul : Char.ofNat 0 ∉ strInt n := by
    intro h
    rcases mem_strInt h with h | h
    · exact absurd h (by decide)
    · exact absurd h (by decide)
  have hquote : ∀ contents, strInt n ≠ '\'' :: contents := by
    intro contents h
    have hmem : '\'' ∈ strInt n := by simp [h]
    rcases mem_strInt hmem with h | h
    · exact absurd h (by decide)
    · exact absurd h (by decide)
  have hnull : strInt n ≠ "NULL".toList := by
    intro h
    have hmem : 'N' ∈ strInt n := by simp [h]
    rcases mem_strInt hmem with h | h
    · exact absurd h (by decide)
    · exact absurd h (by decide)
  have hnumber : readNumber readReal (strInt n) = some (.integer n) := by
    have hn := n.2
    simp only [readNumber, readInteger_strInt]
    rw [dif_pos hn]
  unfold readText
  rw [if_neg hnul]
  split
  · rename_i contents h
    exact absurd h (hquote contents)
  · rw [if_neg hnull, hnumber]

lemma readString_escape (text : List Char) :
    readString (escape text ++ ['\'']) = some text := by
  induction text with
  | nil => rfl
  | cons char text ih =>
    by_cases hquote : char = '\''
    · subst hquote
      simp [escape, readString, ih]
    · have hescape : escape (char :: text) = char :: escape text := by
        simp [escape]
      rw [hescape, List.cons_append]
      simp [readString, hquote, ih]

lemma mem_escape {text : List Char} {c : Char} : c ∈ escape text ↔ c ∈ text := by
  induction text with
  | nil => simp [escape]
  | cons char text ih =>
    by_cases hquote : char = '\''
    · subst hquote
      simp [escape, ih]
    · have hescape : escape (char :: text) = char :: escape text := by
        simp [escape]
      simp [hescape, ih]

lemma readLiteral_string (text : List Char) :
    readLiteral readReal (.literal text true) =
      if Char.ofNat 0 ∈ text then none else some (.text text) := by
  have hnul : Char.ofNat 0 ∈ '\'' :: escape text ++ ['\''] ↔ Char.ofNat 0 ∈ text := by
    simp [mem_escape]
  have hcontents : readString (escape text ++ ['\'']) = some text := readString_escape text
  simp only [readLiteral, literalSql, Option.bind_some, readText, hnul]
  by_cases h : Char.ofNat 0 ∈ text
  · rw [if_pos h, if_pos h]
  · rw [if_neg h, if_neg h]
    exact congrArg (Option.map Value.text) hcontents

variable (libraries : Libraries Real)

/-- The literal of a value denotes it. -/
def ReadsBack (value : Value Real) : Prop :=
  readLiteral readReal (literalOf libraries value) = some value

/-- The round trip fails for blobs, for texts with a NUL, and for reals that SQLite does not
read back from their Python text. -/
theorem readsBack_iff (value : Value Real) :
    ReadsBack readReal libraries value ↔
      match value with
      | .null | .integer _ => True
      | .real r => readText readReal (libraries.strFloat r) = some (.real r)
      | .text s => Char.ofNat 0 ∉ s
      | .blob _ => False := by
  unfold ReadsBack
  cases value with
  | null => exact iff_of_true rfl trivial
  | integer n => exact iff_of_true (readText_strInt readReal n) trivial
  | real r => exact Iff.rfl
  | text s =>
    change readLiteral readReal (.literal s true) = some (.text s) ↔ _
    rw [readLiteral_string]
    split_ifs with h <;> simp [h]
  | blob bytes =>
    change readLiteral readReal (.literal (strBytes bytes) true) = some (.blob bytes) ↔ False
    rw [readLiteral_string]
    split_ifs <;> simp

end

end SqliteReconcile.LiteralValues
