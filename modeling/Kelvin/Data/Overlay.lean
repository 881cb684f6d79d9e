import Kelvin.Data.JsonOperations

/-!
# Documents over documents

Nested dictionaries of which a later one goes over the earlier ones. What is laid over each other
are the values at paths that are no dictionaries themselves.

* `LeafAt`: a value of a document that is no object, and its path.
* `Settles`: a document has a value on the way to a path.
* `Fits`: a document has nothing below the values of another one.
* `LastGiven`: the value that the last document to settle a path gives it.
* `Layered`: documents that can be laid over each other.
* `lastGiven_append_singleton`, `layered_append_singleton`: one more document.
-/

namespace Kelvin

namespace Json

/-- The keys of each object in a document are different, as those of a dictionary. -/
def Decoded (j : Json) : Prop :=
  ∀ path fields, valueAt path j = some (.obj fields) → (fields.map Prod.fst).Nodup

/-- The document has a value at a path, and it is no object. -/
def LeafAt (j : Json) (path : List String) (v : Json) : Prop :=
  valueAt path j = some v ∧ isObj v = false

/-- The document has a value that is no object at a path or before it. -/
def Settles (j : Json) (path : List String) : Prop := ∃ q v, q <+: path ∧ LeafAt j q v

/-- A document can go over another one: it has nothing below the values of that one. -/
def Fits (j d : Json) : Prop :=
  ∀ path v k, LeafAt j path v → valueAt (path ++ [k]) d = none

/-- A document gives a value to a path, and no later one settles the path. -/
def LastGiven (docs : List Json) (path : List String) (v : Json) : Prop :=
  ∃ before d later, docs = before ++ d :: later ∧ LeafAt d path v ∧
    ∀ d' ∈ later, ¬ Settles d' path

/-- The second document has some more values than the first. -/
def Adds (new : List (List String × Json)) (a b : Json) : Prop :=
  ∀ path v, LeafAt b path v ↔ LeafAt a path v ∨ (path, v) ∈ new

/-- Documents of which each can go over those before it. -/
def Layered (docs : List Json) : Prop :=
  ∀ before d later, docs = before ++ d :: later →
    ∀ path v k, LastGiven before path v → valueAt (path ++ [k]) d = none

section Leaves

variable {fields : Members} {j v : Json} {k : String} {path : List String}

theorem obj_or_not (j : Json) : (∃ fields, j = .obj fields) ∨ isObj j = false := by
  cases j with
  | obj fields => exact .inl ⟨fields, rfl⟩
  | _ => exact .inr rfl

theorem leafAt_nil : LeafAt j [] v ↔ j = v ∧ isObj v = false := by
  rw [LeafAt, valueAt_nil, Option.some.injEq]

theorem leafAt_cons : LeafAt (.obj fields) (k :: path) v ↔
    ∃ c, field? k fields = some c ∧ LeafAt c path v := by
  rw [LeafAt, valueAt_cons, Option.bind_eq_some_iff]
  constructor
  · rintro ⟨⟨c, hc, hv⟩, hobj⟩
    exact ⟨c, hc, hv, hobj⟩
  · rintro ⟨c, hc, hv, hobj⟩
    exact ⟨⟨c, hc, hv⟩, hobj⟩

/-- Below a value that is no object there is none. -/
theorem valueAt_below (h : isObj j = false) : valueAt (k :: path) j = none := by
  apply valueAt_cons_of_not_obj
  rintro fields rfl
  cases h

theorem not_leafAt_below (h : isObj j = false) : ¬ LeafAt j (k :: path) v := by
  rw [LeafAt, valueAt_below h]
  rintro ⟨hnone, -⟩
  cases hnone

theorem not_leafAt_obj : ¬ LeafAt (.obj fields) [] v := by
  rw [leafAt_nil]
  rintro ⟨rfl, hobj⟩
  cases hobj

theorem not_leafAt_empty : ¬ LeafAt (.obj []) path v := by
  cases path with
  | nil => exact not_leafAt_obj
  | cons k path =>
    rw [leafAt_cons]
    rintro ⟨c, hc, -⟩
    cases hc

theorem settles_of_leafAt (h : LeafAt j path v) : Settles j path := ⟨path, v, List.prefix_rfl, h⟩

theorem settles_of_not_obj (h : isObj j = false) : Settles j path :=
  ⟨[], j, List.nil_prefix, leafAt_nil.mpr ⟨rfl, h⟩⟩

theorem not_settles_nil : ¬ Settles (.obj fields) [] := by
  rintro ⟨q, v, hq, hleaf⟩
  obtain rfl := List.prefix_nil.mp hq
  exact not_leafAt_obj hleaf

theorem settles_cons : Settles (.obj fields) (k :: path) ↔
    ∃ c, field? k fields = some c ∧ Settles c path := by
  constructor
  · rintro ⟨q, v, hq, hleaf⟩
    cases q with
    | nil => exact absurd hleaf not_leafAt_obj
    | cons l q =>
      obtain ⟨rfl, hrest⟩ := List.cons_prefix_cons.mp hq
      obtain ⟨c, hc, hv⟩ := leafAt_cons.mp hleaf
      exact ⟨c, hc, q, v, hrest, hv⟩
  · rintro ⟨c, hc, q, v, hq, hleaf⟩
    exact ⟨k :: q, v, List.cons_prefix_cons.mpr ⟨rfl, hq⟩, leafAt_cons.mpr ⟨c, hc, hleaf⟩⟩

end Leaves

section Adds

variable {fields inner inner' : Members} {a b c value v : Json} {k : String} {path : List String}
  {new new' : List (List String × Json)}

theorem leafAt_putField_self : LeafAt (.obj (putField k c fields)) (k :: path) v ↔
    LeafAt c path v := by
  rw [leafAt_cons, field?_putField_self]
  simp

theorem leafAt_putField_ne {l : String} (hl : l ≠ k) :
    LeafAt (.obj (putField k c fields)) (l :: path) v ↔ LeafAt (.obj fields) (l :: path) v := by
  rw [leafAt_cons, leafAt_cons, field?_putField_ne hl]

theorem leafAt_cons_of_field? (h : field? k fields = some c) :
    LeafAt (.obj fields) (k :: path) v ↔ LeafAt c path v := by
  rw [leafAt_cons, h]
  simp

theorem not_leafAt_of_field? (h : field? k fields = none) :
    ¬ LeafAt (.obj fields) (k :: path) v := by
  rw [leafAt_cons, h]
  simp

theorem Adds.refl (a : Json) : Adds [] a a := fun path v => by simp

theorem Adds.trans (h : Adds new a b) (h' : Adds new' b c) : Adds (new ++ new') a c := by
  intro path v
  rw [h' path v, h path v, List.mem_append, or_assoc]

/-- Values added to the object under a key. -/
theorem Adds.lift (h : Adds new (.obj inner) (.obj inner'))
    (hold : field? k fields = some (.obj inner)) :
    Adds (new.map (fun n => (k :: n.1, n.2))) (.obj fields)
      (.obj (putField k (.obj inner') fields)) := by
  intro path v
  cases path with
  | nil => simp [not_leafAt_obj]
  | cons l path =>
    by_cases hl : l = k
    · subst hl
      rw [leafAt_putField_self, leafAt_cons_of_field? hold, h path v]
      simp
    · rw [leafAt_putField_ne hl]
      simp [Ne.symm hl]

/-- A value under a key that is new. -/
theorem adds_putField (hold : field? k fields = none) (hvalue : isObj value = false) :
    Adds [([k], value)] (.obj fields) (.obj (putField k value fields)) := by
  intro path v
  cases path with
  | nil => simp [not_leafAt_obj]
  | cons l path =>
    by_cases hl : l = k
    · subst hl
      rw [leafAt_putField_self, or_iff_right (not_leafAt_of_field? hold)]
      cases path with
      | nil =>
        rw [leafAt_nil]
        simp only [List.mem_singleton, Prod.mk.injEq, true_and, eq_comm (a := v)]
        exact ⟨fun hv => hv.1, fun hv => ⟨hv, hv ▸ hvalue⟩⟩
      | cons m path => simp [not_leafAt_below hvalue]
    · rw [leafAt_putField_ne hl]
      simp [hl]

/-- An object without members under a key that is new. -/
theorem adds_putField_empty (hold : field? k fields = none) :
    Adds [] (.obj fields) (.obj (putField k (.obj []) fields)) := by
  intro path v
  cases path with
  | nil => simp [not_leafAt_obj]
  | cons l path =>
    by_cases hl : l = k
    · subst hl
      rw [leafAt_putField_self]
      simp [not_leafAt_empty, not_leafAt_of_field? hold]
    · rw [leafAt_putField_ne hl]
      simp

end Adds

section Fits

variable {fields inner : Members} {j d : Json} {k : String}

theorem fits_not_obj (h : isObj j = false) : Fits j (.obj fields) ↔ fields = [] := by
  constructor
  · intro hfits
    cases fields with
    | nil => rfl
    | cons f rest =>
      have hnone := hfits [] j f.1 (leafAt_nil.mpr ⟨rfl, h⟩)
      rw [List.nil_append, valueAt_singleton, field?_cons, if_pos rfl] at hnone
      cases hnone
  · rintro rfl path v k -
    cases path <;> rfl

theorem fits_obj : Fits (.obj inner) (.obj fields) ↔
    ∀ k c d, field? k inner = some c → field? k fields = some d → Fits c d := by
  constructor
  · intro h k c d hc hd path v l hleaf
    have hnone := h (k :: path) v l (leafAt_cons.mpr ⟨c, hc, hleaf⟩)
    rwa [List.cons_append, valueAt_cons, hd] at hnone
  · intro h path v l hleaf
    cases path with
    | nil => exact absurd hleaf not_leafAt_obj
    | cons k path =>
      obtain ⟨c, hc, hv⟩ := leafAt_cons.mp hleaf
      rw [List.cons_append, valueAt_cons]
      cases hd : field? k fields with
      | none => rfl
      | some d => exact h k c d hc hd path v l hv

theorem fits_of_not_obj (h : isObj d = false) : Fits j d := by
  intro path v k hleaf
  cases path <;> exact valueAt_below h

theorem fits_empty : Fits (.obj []) d := fun _ _ _ hleaf => absurd hleaf not_leafAt_empty

end Fits

section Decoded

variable {fields : Members}

theorem Decoded.keys (h : Decoded (.obj fields)) : (fields.map Prod.fst).Nodup := h [] fields rfl

theorem Decoded.child {k : String} {c : Json} (h : Decoded (.obj fields))
    (hc : field? k fields = some c) : Decoded c := by
  intro path inner hinner
  refine h (k :: path) inner ?_
  rw [valueAt_cons, hc]
  exact hinner

theorem decoded_of_not_obj {j : Json} (h : isObj j = false) : Decoded j := by
  intro path fields hfields
  cases path with
  | nil =>
    cases hfields
    cases h
  | cons k path =>
    rw [valueAt_below h] at hfields
    cases hfields

theorem mem_of_field? {k : String} {c : Json} (h : field? k fields = some c) :
    (k, c) ∈ fields := by
  induction fields with
  | nil => cases h
  | cons f fields ih =>
    rw [field?_cons] at h
    split_ifs at h with hkey
    · cases hkey
      cases h
      exact List.mem_cons_self
    · exact List.mem_cons_of_mem f (ih h)

theorem decoded_obj (hkeys : (fields.map Prod.fst).Nodup) (h : ∀ f ∈ fields, Decoded f.2) :
    Decoded (.obj fields) := by
  intro path inner hinner
  cases path with
  | nil =>
    cases hinner
    exact hkeys
  | cons k path =>
    rw [valueAt_cons] at hinner
    obtain ⟨c, hc, hinner⟩ := Option.bind_eq_some_iff.mp hinner
    exact h (k, c) (mem_of_field? hc) path inner hinner

end Decoded

section Last

variable {docs : List Json} {d v : Json} {path : List String}

theorem lastGiven_nil : ¬ LastGiven [] path v := by
  rintro ⟨before, d, later, h, -⟩
  exact List.append_ne_nil_of_right_ne_nil _ (List.cons_ne_nil _ _) h.symm

/-- The last document wins. -/
theorem lastGiven_append_singleton : LastGiven (docs ++ [d]) path v ↔
    LeafAt d path v ∨ (LastGiven docs path v ∧ ¬ Settles d path) := by
  constructor
  · rintro ⟨before, e, later, heq, hleaf, hlater⟩
    obtain rfl | ⟨later, d', rfl⟩ := later.eq_nil_or_concat'
    · obtain ⟨-, hd⟩ := List.append_inj' heq rfl
      cases hd
      exact .inl hleaf
    · rw [← List.cons_append, ← List.append_assoc] at heq
      obtain ⟨rfl, hd⟩ := List.append_inj' heq rfl
      cases hd
      rw [List.forall_mem_append] at hlater
      exact .inr ⟨⟨before, e, later, rfl, hleaf, hlater.1⟩, hlater.2 d (List.mem_singleton_self d)⟩
  · rintro (hleaf | ⟨⟨before, e, later, rfl, hleaf, hlater⟩, hd⟩)
    · exact ⟨docs, d, [], rfl, hleaf, fun d' hd' => absurd hd' List.not_mem_nil⟩
    · refine ⟨before, e, later ++ [d], by simp, hleaf, ?_⟩
      rw [List.forall_mem_append, List.forall_mem_singleton]
      exact ⟨hlater, hd⟩

theorem layered_nil : Layered [] := by
  intro before d later h
  exact absurd h.symm (List.append_ne_nil_of_right_ne_nil _ (List.cons_ne_nil _ _))

theorem layered_append_singleton : Layered (docs ++ [d]) ↔
    Layered docs ∧ ∀ path v k, LastGiven docs path v → valueAt (path ++ [k]) d = none := by
  constructor
  · intro h
    refine ⟨fun before e later heq => h before e (later ++ [d]) (by simp [heq]), ?_⟩
    exact h docs d [] rfl
  · rintro ⟨hdocs, hd⟩ before e later heq
    obtain rfl | ⟨later, d', rfl⟩ := later.eq_nil_or_concat'
    · obtain ⟨rfl, he⟩ := List.append_inj' heq rfl
      cases he
      exact hd
    · rw [← List.cons_append, ← List.append_assoc] at heq
      obtain ⟨rfl, -⟩ := List.append_inj' heq rfl
      exact hdocs before e later rfl

end Last

end Json

end Kelvin
