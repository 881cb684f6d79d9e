import Mathlib.Data.List.Forall2

/-!
# Regular expressions

Expressions that are matched at the beginning of a text. A match leaves a rest, and an expression may
match in several ways, so its meaning is the list of the rests. `$` matches at the end of a text and
before a line feed that ends it.

* `Regex.rests`: the rests after a match.
* `Regex.Matches`: `re.match`.
* `mem_rests_one`, `mem_rests_many`, `mem_rests_lit`, `mem_rests_seq`, `mem_rests_opt`,
  `mem_rests_lineEnd`, `mem_rests_capture`: the rests of each form.
-/

namespace Kelvin

inductive Regex where
  | empty
  /-- One character of a class. -/
  | one (p : Char → Bool)
  /-- Characters of a class, as with `*`. -/
  | many (p : Char → Bool)
  | seq (r q : Regex)
  | opt (r : Regex)
  /-- `$`. -/
  | lineEnd
  /-- A group, and what follows it, which may ask for the text of the group again. -/
  | capture (r : Regex) (next : List Char → Regex)

namespace Regex

/-- The rests after some characters of a class. -/
def manyRests (p : Char → Bool) : List Char → List (List Char)
  | [] => [[]]
  | c :: cs => if p c then manyRests p cs ++ [c :: cs] else [c :: cs]

/-- The rests of a text after a match at its beginning. -/
def rests : Regex → List Char → List (List Char)
  | empty, text => [text]
  | one _, [] => []
  | one p, c :: cs => if p c then [cs] else []
  | many p, text => manyRests p text
  | seq r q, text => (rests r text).flatMap (rests q)
  | opt r, text => rests r text ++ [text]
  | lineEnd, text => if text = [] ∨ text = ['\n'] then [text] else []
  | capture r next, text => (rests r text).flatMap (fun middle =>
      rests (next (text.take (text.length - middle.length))) middle)

/-- `re.match`. -/
def Matches (r : Regex) (text : List Char) : Prop := r.rests text ≠ []

instance (r : Regex) (text : List Char) : Decidable (r.Matches text) :=
  inferInstanceAs (Decidable (_ ≠ _))

/-- The characters of a text, each up to `same`. -/
def lit (same : Char → Char → Bool) : List Char → Regex
  | [] => empty
  | c :: cs => seq (one (same c)) (lit same cs)

variable {r q : Regex} {p : Char → Bool} {text rest : List Char}

theorem matches_iff : r.Matches text ↔ ∃ rest, rest ∈ r.rests text := by
  rw [Matches, ne_eq, List.eq_nil_iff_forall_not_mem]
  push Not
  rfl

@[simp] theorem mem_rests_empty : rest ∈ empty.rests text ↔ rest = text :=
  List.mem_singleton

@[simp] theorem mem_rests_one : rest ∈ (one p).rests text ↔ ∃ c, p c = true ∧ text = c :: rest := by
  cases text with
  | nil =>
    constructor
    · intro h
      cases h
    · rintro ⟨c, -, heq⟩
      cases heq
  | cons c cs =>
    change rest ∈ (if p c then [cs] else []) ↔ _
    by_cases hc : p c = true
    · rw [if_pos hc, List.mem_singleton]
      constructor
      · rintro rfl
        exact ⟨c, hc, rfl⟩
      · rintro ⟨d, -, heq⟩
        exact (List.cons.inj heq).2.symm
    · simp only [hc, Bool.false_eq_true, if_false, List.not_mem_nil, List.cons.injEq, false_iff]
      rintro ⟨d, hd, rfl, -⟩
      exact hc hd

@[simp] theorem mem_rests_many : rest ∈ (many p).rests text ↔
    ∃ before, text = before ++ rest ∧ ∀ c ∈ before, p c = true := by
  change rest ∈ manyRests p text ↔ _
  induction text with
  | nil =>
    rw [manyRests, List.mem_singleton]
    constructor
    · rintro rfl
      exact ⟨[], rfl, fun c hc => absurd hc List.not_mem_nil⟩
    · rintro ⟨before, heq, -⟩
      exact (List.append_eq_nil_iff.mp heq.symm).2
  | cons c cs ih =>
    have hself : ∀ rest, rest = c :: cs →
        ∃ before, c :: cs = before ++ rest ∧ ∀ d ∈ before, p d = true :=
      fun rest heq => ⟨[], heq.symm, fun d hd => absurd hd List.not_mem_nil⟩
    rw [manyRests]
    by_cases hc : p c = true
    · rw [if_pos hc, List.mem_append, ih, List.mem_singleton]
      constructor
      · rintro (⟨before, rfl, hbefore⟩ | heq)
        · exact ⟨c :: before, rfl, List.forall_mem_cons.mpr ⟨hc, hbefore⟩⟩
        · exact hself rest heq
      · rintro ⟨before, heq, hbefore⟩
        cases before with
        | nil => exact .inr heq.symm
        | cons d before =>
          obtain ⟨rfl, rfl⟩ := List.cons.inj heq
          exact .inl ⟨before, rfl, (List.forall_mem_cons.mp hbefore).2⟩
    · rw [if_neg hc, List.mem_singleton]
      constructor
      · exact hself rest
      · rintro ⟨before, heq, hbefore⟩
        cases before with
        | nil => exact heq.symm
        | cons d before =>
          obtain ⟨rfl, -⟩ := List.cons.inj heq
          exact absurd (hbefore c List.mem_cons_self) hc

@[simp] theorem mem_rests_seq : rest ∈ (seq r q).rests text ↔
    ∃ middle, middle ∈ r.rests text ∧ rest ∈ q.rests middle :=
  List.mem_flatMap

@[simp] theorem mem_rests_opt : rest ∈ (opt r).rests text ↔ rest ∈ r.rests text ∨ rest = text := by
  change rest ∈ r.rests text ++ [text] ↔ _
  rw [List.mem_append, List.mem_singleton]

@[simp] theorem mem_rests_lineEnd : rest ∈ lineEnd.rests text ↔
    rest = text ∧ (text = [] ∨ text = ['\n']) := by
  change rest ∈ (if text = [] ∨ text = ['\n'] then [text] else []) ↔ _
  split
  · next h => simp [h]
  · next h => simp [h]

@[simp] theorem mem_rests_lit {same : Char → Char → Bool} {word : List Char} :
    rest ∈ (lit same word).rests text ↔
      ∃ before, text = before ++ rest ∧ List.Forall₂ (fun c d => same c d = true) word before := by
  induction word generalizing text with
  | nil =>
    rw [lit, mem_rests_empty]
    constructor
    · rintro rfl
      exact ⟨[], rfl, .nil⟩
    · rintro ⟨before, rfl, hbefore⟩
      cases hbefore
      rfl
  | cons c word ih =>
    rw [lit, mem_rests_seq]
    simp only [mem_rests_one, ih]
    constructor
    · rintro ⟨_, ⟨d, hd, rfl⟩, before, rfl, hbefore⟩
      exact ⟨d :: before, rfl, .cons hd hbefore⟩
    · rintro ⟨before, rfl, hbefore⟩
      cases hbefore with
      | cons hd hbefore => exact ⟨_, ⟨_, hd, rfl⟩, _, rfl, hbefore⟩

/-- A text that a word begins matches the beginning of the word. -/
theorem exists_rests_take {same : Char → Char → Bool} {word : List Char} (n : Nat)
    (h : rest ∈ (lit same word).rests text) : ∃ rest, rest ∈ (lit same (word.take n)).rests text := by
  obtain ⟨before, rfl, hbefore⟩ := mem_rests_lit.mp h
  refine ⟨before.drop n ++ rest, mem_rests_lit.mpr ⟨before.take n, ?_, List.forall₂_take n hbefore⟩⟩
  rw [← List.append_assoc, List.take_append_drop]

/-- A rest is what a match leaves of the text. -/
theorem exists_before (h : rest ∈ r.rests text) : ∃ before, text = before ++ rest := by
  induction r generalizing text rest with
  | empty => exact ⟨[], (mem_rests_empty.mp h).symm⟩
  | one p =>
    obtain ⟨c, -, rfl⟩ := mem_rests_one.mp h
    exact ⟨[c], rfl⟩
  | many p =>
    obtain ⟨before, rfl, -⟩ := mem_rests_many.mp h
    exact ⟨before, rfl⟩
  | seq r q ihr ihq =>
    obtain ⟨middle, hmiddle, hrest⟩ := mem_rests_seq.mp h
    obtain ⟨front, rfl⟩ := ihr hmiddle
    obtain ⟨back, rfl⟩ := ihq hrest
    exact ⟨front ++ back, (List.append_assoc _ _ _).symm⟩
  | opt r ih =>
    rcases mem_rests_opt.mp h with h | rfl
    · exact ih h
    · exact ⟨[], rfl⟩
  | lineEnd => exact ⟨[], (mem_rests_lineEnd.mp h).1.symm⟩
  | capture r next ihr ihnext =>
    obtain ⟨middle, hmiddle, hrest⟩ := List.mem_flatMap.mp h
    obtain ⟨front, rfl⟩ := ihr hmiddle
    obtain ⟨back, rfl⟩ := ihnext _ hrest
    exact ⟨front ++ back, (List.append_assoc _ _ _).symm⟩

@[simp] theorem mem_rests_capture {next : List Char → Regex} :
    rest ∈ (capture r next).rests text ↔ ∃ group middle, text = group ++ middle ∧
      middle ∈ r.rests text ∧ rest ∈ (next group).rests middle := by
  refine List.mem_flatMap.trans ?_
  constructor
  · rintro ⟨middle, hmiddle, hrest⟩
    obtain ⟨group, hgroup⟩ := exists_before hmiddle
    have htake : text.take (text.length - middle.length) = group := by
      rw [hgroup, List.length_append, Nat.add_sub_cancel, List.take_left]
    exact ⟨group, middle, hgroup, hmiddle, htake ▸ hrest⟩
  · rintro ⟨group, middle, hgroup, hmiddle, hrest⟩
    have htake : text.take (text.length - middle.length) = group := by
      rw [hgroup, List.length_append, Nat.add_sub_cancel, List.take_left]
    exact ⟨middle, hmiddle, by rwa [htake]⟩

end Regex

end Kelvin
