import Mathlib.Data.List.Infix

/-!
# Patterns and parts of a text

`removeAll` removes the occurrences of a pattern from a text, from left to right and
without overlaps. `takePart` takes a part of at least one character off a text, up to the
next separator.

* `removeAll_append_self`: a leading occurrence is removed first.
* `removeAll_eq_self`: a text stays as it is if and only if the pattern does not occur in it.
* `eq_append_of_takePart`, `takePart_append`: a part taken off, and put back.
-/

namespace Kelvin

namespace Text

variable {α : Type*} [DecidableEq α] {pat : List α}

/-- The text without the occurrences of the pattern, after `skip` characters of an
occurrence that has begun. -/
def removeFrom (pat : List α) : Nat → List α → List α
  | _, [] => []
  | skip + 1, _ :: cs => removeFrom pat skip cs
  | 0, c :: cs =>
    if pat.isPrefixOf (c :: cs) then removeFrom pat (pat.length - 1) cs
    else c :: removeFrom pat 0 cs

def removeAll (pat text : List α) : List α := removeFrom pat 0 text

theorem removeFrom_eq (skip : Nat) (text : List α) :
    removeFrom pat skip text = removeAll pat (text.drop skip) := by
  induction text generalizing skip with
  | nil => simp [removeAll, removeFrom]
  | cons c cs ih =>
    cases skip with
    | zero => rfl
    | succ skip =>
      rw [removeFrom, List.drop_succ_cons]
      exact ih skip

theorem removeAll_cons_of_match {c : α} {cs : List α} (h : pat <+: c :: cs) :
    removeAll pat (c :: cs) = removeAll pat (cs.drop (pat.length - 1)) := by
  rw [removeAll, removeFrom, if_pos (List.isPrefixOf_iff_prefix.mpr h), removeFrom_eq]

theorem removeAll_cons_of_no_match {c : α} {cs : List α} (h : ¬ pat <+: c :: cs) :
    removeAll pat (c :: cs) = c :: removeAll pat cs := by
  rw [removeAll, removeFrom, if_neg (fun hp => h (List.isPrefixOf_iff_prefix.mp hp))]
  rfl

theorem length_removeAll_le (pat text : List α) : (removeAll pat text).length ≤ text.length := by
  induction h : text.length using Nat.strong_induction_on generalizing text with
  | _ n ih =>
    subst h
    cases text with
    | nil => exact le_refl _
    | cons c cs =>
      by_cases hp : pat <+: c :: cs
      · rw [removeAll_cons_of_match hp]
        have hdrop : (cs.drop (pat.length - 1)).length < (c :: cs).length := by
          simp only [List.length_drop, List.length_cons]
          omega
        exact (ih _ hdrop _ rfl).trans hdrop.le
      · rw [removeAll_cons_of_no_match hp, List.length_cons, List.length_cons]
        have hcs := ih cs.length (by simp) cs rfl
        omega

/-- An occurrence makes the text shorter. -/
theorem length_removeAll_lt (hne : pat ≠ []) {text : List α} (h : pat <:+: text) :
    (removeAll pat text).length < text.length := by
  induction text with
  | nil => exact absurd (List.infix_nil.mp h) hne
  | cons c cs ih =>
    by_cases hp : pat <+: c :: cs
    · rw [removeAll_cons_of_match hp]
      have hle := length_removeAll_le pat (cs.drop (pat.length - 1))
      simp only [List.length_drop] at hle
      simp only [List.length_cons]
      omega
    · have hcs : pat <:+: cs := by
        rcases List.infix_cons_iff.mp h with hp' | hcs
        · exact absurd hp' hp
        · exact hcs
      rw [removeAll_cons_of_no_match hp, List.length_cons, List.length_cons]
      have := ih hcs
      omega

/-- The text stays as it is if and only if the pattern does not occur in it. -/
theorem removeAll_eq_self (hne : pat ≠ []) {text : List α} :
    removeAll pat text = text ↔ ¬ pat <:+: text := by
  constructor
  · intro heq h
    have hlt := length_removeAll_lt hne h
    rw [heq] at hlt
    exact lt_irrefl _ hlt
  · intro h
    induction text with
    | nil => rfl
    | cons c cs ih =>
      have hp : ¬ pat <+: c :: cs := fun hp => h hp.isInfix
      have hcs : ¬ pat <:+: cs := fun hcs => h (List.infix_cons_iff.mpr (.inr hcs))
      rw [removeAll_cons_of_no_match hp, ih hcs]

/-- A leading occurrence is removed first. -/
theorem removeAll_append_self (hne : pat ≠ []) (text : List α) :
    removeAll pat (pat ++ text) = removeAll pat text := by
  cases pat with
  | nil => exact absurd rfl hne
  | cons c cs =>
    have hp : c :: cs <+: c :: (cs ++ text) := ⟨text, rfl⟩
    rw [List.cons_append, removeAll_cons_of_match hp]
    simp

/-! ## Parts -/

/-- A part of at least one character, up to the next separator, and the rest. -/
def takePart (sep : α) : List α → Option (List α × List α)
  | [] => none
  | c :: cs => some (c :: cs.takeWhile (· ≠ sep), cs.dropWhile (· ≠ sep))

theorem eq_append_of_takePart {sep : α} {text part rest : List α}
    (h : takePart sep text = some (part, rest)) : text = part ++ rest ∧ part ≠ [] := by
  cases text with
  | nil => cases h
  | cons c cs =>
    simp only [takePart, Option.some.injEq, Prod.mk.injEq] at h
    obtain ⟨rfl, rfl⟩ := h
    rw [List.cons_append, List.takeWhile_append_dropWhile]
    exact ⟨rfl, List.cons_ne_nil _ _⟩

theorem takePart_append {sep : α} {part : List α} (rest : List α) (hne : part ≠ [])
    (hsep : sep ∉ part) : takePart sep (part ++ sep :: rest) = some (part, sep :: rest) := by
  cases part with
  | nil => exact absurd rfl hne
  | cons c cs =>
    have hcs : ∀ x ∈ cs, decide (x ≠ sep) = true := by
      intro x hx
      simp only [decide_eq_true_eq]
      rintro rfl
      exact hsep (List.mem_cons_of_mem c hx)
    simp only [List.cons_append, takePart]
    rw [List.takeWhile_append_of_pos hcs, List.dropWhile_append_of_pos hcs]
    simp

/-- The text before the first separator, and the text after it. -/
theorem append_sep_inj {α : Type*} {sep : α} {a b a' b' : List α} (ha : sep ∉ a) (ha' : sep ∉ a')
    (h : a ++ sep :: b = a' ++ sep :: b') : a = a' ∧ b = b' := by
  induction a generalizing a' with
  | nil =>
    cases a' with
    | nil => exact ⟨rfl, (List.cons.inj h).2⟩
    | cons x a' =>
      have hx : sep = x := (List.cons.inj h).1
      exact absurd (hx ▸ List.mem_cons_self) ha'
  | cons x a ih =>
    cases a' with
    | nil =>
      have hx : x = sep := (List.cons.inj h).1
      exact absurd (hx ▸ List.mem_cons_self) ha
    | cons y a' =>
      obtain ⟨rfl, htail⟩ := List.cons.inj h
      obtain ⟨rfl, rfl⟩ := ih (fun hm => ha (List.mem_cons_of_mem x hm))
        (fun hm => ha' (List.mem_cons_of_mem x hm)) htail
      exact ⟨rfl, rfl⟩

/-- No part of a split contains the separator. -/
theorem not_mem_of_mem_splitOn {α : Type*} [DecidableEq α] {sep : α} {text part : List α}
    (h : part ∈ text.splitOn sep) : sep ∉ part := by
  induction text generalizing part with
  | nil =>
    rw [List.splitOn_nil, List.mem_singleton] at h
    simp [h]
  | cons c cs ih =>
    obtain ⟨head, tail, hsplit⟩ := List.exists_cons_of_ne_nil (List.splitOn_ne_nil sep cs)
    rw [List.splitOn_cons_eq_if_modifyHead, hsplit] at h
    split at h
    · rcases List.mem_cons.mp h with rfl | h
      · simp
      · exact ih (hsplit ▸ h)
    · next hne =>
      rw [List.modifyHead_cons] at h
      rcases List.mem_cons.mp h with rfl | h
      · have hhead : sep ∉ head := ih (hsplit ▸ List.mem_cons_self)
        have hc : sep ≠ c := fun heq => hne (by simp [heq])
        simp [hhead, hc]
      · exact ih (hsplit ▸ List.mem_cons_of_mem _ h)

/-- Every character but the separator is in a part. -/
theorem exists_mem_splitOn {α : Type*} [DecidableEq α] {sep c : α} {text : List α} (h : c ∈ text)
    (hsep : c ≠ sep) : ∃ part ∈ text.splitOn sep, c ∈ part := by
  induction text with
  | nil => exact absurd h List.not_mem_nil
  | cons d cs ih =>
    obtain ⟨head, tail, hsplit⟩ := List.exists_cons_of_ne_nil (List.splitOn_ne_nil sep cs)
    rw [List.splitOn_cons_eq_if_modifyHead, hsplit]
    rcases List.mem_cons.mp h with rfl | hcs
    · rw [if_neg (by simpa using hsep), List.modifyHead_cons]
      exact ⟨_, List.mem_cons_self, List.mem_cons_self⟩
    · obtain ⟨part, hpart, hc⟩ := ih hcs
      rw [hsplit] at hpart
      split
      · exact ⟨part, List.mem_cons_of_mem _ hpart, hc⟩
      · rw [List.modifyHead_cons]
        rcases List.mem_cons.mp hpart with rfl | hpart
        · exact ⟨_, List.mem_cons_self, List.mem_cons_of_mem _ hc⟩
        · exact ⟨part, List.mem_cons_of_mem _ hpart, hc⟩

/-- A split has one part more than the text has separators. -/
theorem length_splitOn {α : Type*} [DecidableEq α] (sep : α) (text : List α) :
    (text.splitOn sep).length = text.count sep + 1 := by
  induction text with
  | nil => simp
  | cons c cs ih =>
    rw [List.splitOn_cons_eq_if_modifyHead, List.count_cons]
    split
    · rw [List.length_cons, ih]
    · rw [List.length_modifyHead, ih]

end Text

end Kelvin
