import Mathlib

/-! Letter case of identifiers: SQLite compares names without ASCII case, and the code that
compares names itself upper-cases both. -/
namespace SqliteReconcile.Identifiers

/-- ASCII case folding, as SQLite compares identifiers. -/
def foldCase (name : String) : List Char := name.toList.map Char.toLower

/-- `name.upper()` on an ASCII name. -/
def upperCase (name : String) : List Char := name.toList.map Char.toUpper

theorem upperCase_eq_iff {left right : String} :
    upperCase left = upperCase right ↔ foldCase left = foldCase right := by
  have hlower : ∀ name : String, (upperCase name).map Char.toLower = foldCase name := by
    intro name
    simp [upperCase, foldCase]
  have hupper : ∀ name : String, (foldCase name).map Char.toUpper = upperCase name := by
    intro name
    simp [upperCase, foldCase]
  constructor
  · intro h
    rw [← hlower, ← hlower, h]
  · intro h
    rw [← hupper, ← hupper, h]

lemma toLower_eq_star {c : Char} (h : c.toLower = '*') : c = '*' := by
  have halpha : c.isAlpha = false := by
    rw [← Char.isAlpha_toLower_eq_isAlpha, h]
    rfl
  have hupper : ¬ c.isUpper := by
    intro hu
    simp [Char.isAlpha, hu] at halpha
  rwa [Char.toLower_eq_of_not_isUpper hupper] at h

lemma eq_star_of_foldCase {name : String} (h : foldCase name = foldCase "*") : name = "*" := by
  have hstar : foldCase "*" = ['*'] := by decide
  rw [hstar] at h
  obtain ⟨c, hc, hl⟩ := List.map_eq_singleton_iff.mp h
  exact String.ext (by rw [hc, toLower_eq_star hl]; decide)

lemma eq_empty_of_foldCase {name : String} (h : foldCase name = foldCase "") : name = "" := by
  have hnil : name.toList = [] := by simpa [foldCase] using h
  exact String.ext hnil

end SqliteReconcile.Identifiers
