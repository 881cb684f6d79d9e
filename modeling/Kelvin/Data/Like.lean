import Mathlib.Data.List.Infix

/-!
# Glob and LIKE patterns

Two kinds of patterns for texts. In a glob, `*` stands for any text and every other character for
itself. In a LIKE pattern, `%` stands for any text, `_` for any character, and an escape character
makes the one behind it stand for itself; a pattern must not end with the escape character.

* `Glob`: the texts that a glob stands for; `globMatches` decides it.
* `likeTokens`, `likeMatches`: LIKE, as a reader of the pattern and a matcher of what it read.
* `likeMatches_map_globToken`: LIKE agrees with the glob on the tokens of a glob.
-/

namespace Kelvin

/-! ## Globs -/

/-- The text matches the pattern, in which `*` stands for any text. -/
inductive Glob : List Char → List Char → Prop where
  | nil : Glob [] []
  | star {pattern text : List Char} (any : List Char) (h : Glob pattern text) :
      Glob ('*' :: pattern) (any ++ text)
  | char {pattern text : List Char} (c : Char) (hc : c ≠ '*') (h : Glob pattern text) :
      Glob (c :: pattern) (c :: text)

/-- A pattern with `*` for any text, on lower case characters (`MATCHES_CI`). -/
def globMatches : List Char → List Char → Bool
  | [], text => text.isEmpty
  | p :: pattern, text =>
    if p = '*' then text.tails.any (globMatches pattern)
    else match text with
      | [] => false
      | c :: text => c == p && globMatches pattern text

theorem globMatches_star (pattern text : List Char) :
    globMatches ('*' :: pattern) text = text.tails.any (globMatches pattern) := by
  rw [globMatches.eq_def]
  exact if_pos rfl

theorem globMatches_char {p : Char} (hp : p ≠ '*') (pattern : List Char) (c : Char)
    (text : List Char) :
    globMatches (p :: pattern) (c :: text) = (c == p && globMatches pattern text) := by
  rw [globMatches.eq_def]
  exact if_neg hp

theorem globMatches_char_nil {p : Char} (hp : p ≠ '*') (pattern : List Char) :
    globMatches (p :: pattern) [] = false := by
  rw [globMatches.eq_def]
  exact if_neg hp

theorem glob_star {pattern text : List Char} :
    Glob ('*' :: pattern) text ↔ ∃ rest, rest <:+ text ∧ Glob pattern rest := by
  constructor
  · intro h
    cases h with
    | star any h => exact ⟨_, List.suffix_append _ _, h⟩
    | char _ hc _ => exact absurd rfl hc
  · rintro ⟨rest, ⟨any, rfl⟩, h⟩
    exact .star any h

theorem glob_char {p : Char} (hp : p ≠ '*') {pattern text : List Char} :
    Glob (p :: pattern) text ↔ ∃ rest, text = p :: rest ∧ Glob pattern rest := by
  constructor
  · intro h
    cases h with
    | star _ _ => exact absurd rfl hp
    | char _ _ h => exact ⟨_, rfl, h⟩
  · rintro ⟨rest, rfl, h⟩
    exact .char p hp h

theorem globMatches_iff_glob {pattern text : List Char} :
    globMatches pattern text = true ↔ Glob pattern text := by
  induction pattern generalizing text with
  | nil =>
    rw [globMatches, List.isEmpty_iff]
    constructor
    · rintro rfl
      exact .nil
    · intro h
      cases h
      rfl
  | cons p pattern ih =>
    by_cases hp : p = '*'
    · subst hp
      rw [globMatches_star, List.any_eq_true, glob_star]
      simp only [List.mem_tails, ih]
    · rw [glob_char hp]
      cases text with
      | nil => simp [globMatches_char_nil hp]
      | cons c text =>
        rw [globMatches_char hp, Bool.and_eq_true, beq_iff_eq, ih]
        simp [and_assoc]

/-- A pattern without a wildcard matches itself only. -/
theorem globMatches_iff {pattern text : List Char} (h : '*' ∉ pattern) :
    globMatches pattern text = true ↔ pattern = text := by
  induction pattern generalizing text with
  | nil => cases text <;> simp [globMatches]
  | cons p pattern ih =>
    obtain ⟨hp, hrest⟩ := not_or.mp (List.mem_cons.not.mp h)
    cases text with
    | nil => simp [globMatches, Ne.symm hp]
    | cons c text =>
      rw [globMatches, if_neg (Ne.symm hp), Bool.and_eq_true, beq_iff_eq, ih hrest,
        List.cons.injEq]
      exact and_congr_left (fun _ => eq_comm)

/-- A text matches itself as a pattern. -/
theorem glob_self {text : List Char} : Glob text text := by
  induction text with
  | nil => exact .nil
  | cons c text ih =>
    by_cases hc : c = '*'
    · subst hc
      exact .star ['*'] ih
    · exact .char c hc ih

/-! ## LIKE -/

inductive LikeToken where
  | any
  | one
  | char (c : Char)
deriving DecidableEq

/-- What a LIKE pattern is read as. -/
def likeTokens (escape : Char) : List Char → Option (List LikeToken)
  | [] => some []
  | c :: pattern =>
    if c = escape then match pattern with
      | [] => none
      | d :: pattern => (likeTokens escape pattern).map (.char d :: ·)
    else if c = '%' then (likeTokens escape pattern).map (.any :: ·)
    else if c = '_' then (likeTokens escape pattern).map (.one :: ·)
    else (likeTokens escape pattern).map (.char c :: ·)

def likeMatches : List LikeToken → List Char → Bool
  | [], text => text.isEmpty
  | .any :: tokens, text => text.tails.any (likeMatches tokens)
  | .one :: _, [] => false
  | .one :: tokens, _ :: text => likeMatches tokens text
  | .char _ :: _, [] => false
  | .char d :: tokens, c :: text => c == d && likeMatches tokens text

/-- `text LIKE pattern ESCAPE escape`; a malformed pattern is an error. -/
def like (escape : Char) (pattern text : String) : Option Bool :=
  (likeTokens escape pattern.toList).map (fun tokens => likeMatches tokens text.toList)

section Tokens

variable {escape c : Char} {pattern : List Char}

theorem likeTokens_escaped :
    likeTokens escape (escape :: c :: pattern) = (likeTokens escape pattern).map (.char c :: ·) := by
  rw [likeTokens, if_pos rfl]

theorem likeTokens_percent (h : escape ≠ '%') :
    likeTokens escape ('%' :: pattern) = (likeTokens escape pattern).map (.any :: ·) := by
  rw [likeTokens.eq_def]
  dsimp only
  rw [if_neg h.symm, if_pos rfl]

theorem likeTokens_char (hescape : c ≠ escape) (hpercent : c ≠ '%') (hone : c ≠ '_') :
    likeTokens escape (c :: pattern) = (likeTokens escape pattern).map (.char c :: ·) := by
  rw [likeTokens.eq_def]
  dsimp only
  rw [if_neg hescape, if_neg hpercent, if_neg hone]

end Tokens

/-- The token that a character of a glob stands for. -/
def globToken (c : Char) : LikeToken := if c = '*' then .any else .char c

theorem likeMatches_map_globToken (pattern text : List Char) :
    likeMatches (pattern.map globToken) text = globMatches pattern text := by
  induction pattern generalizing text with
  | nil => rfl
  | cons p pattern ih =>
    rw [List.map_cons, globToken]
    by_cases hp : p = '*'
    · rw [if_pos hp, hp, globMatches_star, likeMatches]
      exact congrArg (List.any _) (funext ih)
    · rw [if_neg hp]
      cases text with
      | nil => rw [globMatches_char_nil hp, likeMatches]
      | cons c text => rw [globMatches_char hp, likeMatches, ih]

end Kelvin
