import Kelvin.Data.JsonDiff
import Kelvin.Objects.RoundTrip

/-!
# Where the operations of a patch are

The values under the replace fields are taken out of both documents. What is left of them differs
only at positions at which the documents differ, and at none inside a value that was taken out.

* `PlaceOf`: the places that a replace field stands for.
* `Cleared`: two documents from which the values at some places are taken out.
* `cleared_collect`: what all replace fields take out.
* `operations_placed`: the operations of a patch are at these places, or at positions outside of
  them at which the documents differ.
-/

namespace Kelvin.Patch

open Json

/-- The places that the parts of a replace field stand for. -/
def PlaceOf : List String → List String → Prop
  | [], _ => False
  | [head], path => path = [head]
  | head :: part :: parts, path =>
    ∃ k rest, path = k :: rest ∧ (head = "*" ∨ head = k) ∧ PlaceOf (part :: parts) rest

theorem not_placeOf_nil (parts : List String) : ¬ PlaceOf parts [] := by
  cases parts with
  | nil => exact id
  | cons head parts =>
    cases parts with
    | nil => exact (List.cons_ne_nil _ _).symm
    | cons part parts => rintro ⟨k, rest, ⟨⟩, -, -⟩

/-- The documents `c.src` and `c.dst` are `s` and `t` without the values at some places. -/
structure Cleared (place : List String → Prop) (s t : Members) (c : Collected) : Prop where
  /-- The documents that are left differ where the given ones do, outside of these places. -/
  differs : ∀ path, DiffersAt (.obj c.src) (.obj c.dst) path →
    DiffersAt (.obj s) (.obj t) path ∧ ∀ front, place front → ¬ front <+: path
  /-- What is left of a document stood there before. -/
  within : ∀ path, valueAt path (.obj c.src) ≠ none → valueAt path (.obj s) ≠ none
  arrays : ∀ path xs, valueAt path (.obj c.src) = some (.arr xs) →
    valueAt path (.obj s) = some (.arr xs)
  /-- What was taken out was at one of the places, in a container of the document. -/
  popped : ∀ p ∈ c.popped, place p.path ∧ valueAt p.path.dropLast (.obj s) ≠ none
  kept : c.popped = [] → c.src = s ∧ c.dst = t

/-- Documents that do not differ at the places may stay as they are. -/
theorem cleared_unchanged {place : List String → Prop} {s t : Members}
    (hout : ∀ path, DiffersAt (.obj s) (.obj t) path → ∀ front, place front → ¬ front <+: path) :
    Cleared place s t ⟨s, t, []⟩ where
  differs path h := ⟨h, hout path h⟩
  within _ h := h
  arrays _ _ h := h
  popped p hp := by cases hp
  kept _ := ⟨rfl, rfl⟩

theorem cleared_nothing (s t : Members) : Cleared (fun _ => False) s t ⟨s, t, []⟩ :=
  cleared_unchanged (fun _ _ _ hplace => hplace.elim)

/-- A place with the same meaning may be named otherwise. -/
theorem Cleared.congr {place place' : List String → Prop} {s t : Members} {c : Collected}
    (h : Cleared place s t c)
    (hiff : ∀ path, DiffersAt (.obj s) (.obj t) path → ∀ front, place' front → front <+: path →
      ∃ front, place front ∧ front <+: path)
    (hpopped : ∀ path, place path → place' path) : Cleared place' s t c where
  differs path hpath := by
    obtain ⟨hdiffers, hout⟩ := h.differs path hpath
    refine ⟨hdiffers, fun front hplace hfront => ?_⟩
    obtain ⟨front', hplace', hfront'⟩ := hiff path hdiffers front hplace hfront
    exact hout front' hplace' hfront'
  within := h.within
  arrays := h.arrays
  popped p hp := ⟨hpopped _ (h.popped p hp).1, (h.popped p hp).2⟩
  kept := h.kept

theorem cleared_pop (field : String) (s t : Members) :
    Cleared (fun path => path = [field]) s t (pop field s t) where
  differs path h := by
    have hout : ∀ k rest, path = k :: rest → k ≠ field →
        ∀ front, front = [field] → ¬ front <+: path := by
      rintro k rest rfl hk front rfl hfront
      exact hk (List.cons_prefix_cons.mp hfront).1.symm
    cases h with
    | value _ hkind => exact absurd ⟨rfl, rfl⟩ hkind
    | @member k _ _ h =>
      have hk : k ≠ field := by
        rintro rfl
        exact h (by rw [pop, field?_eraseField_self, field?_eraseField_self])
      rw [pop, field?_eraseField_ne hk, field?_eraseField_ne hk] at h
      exact ⟨.member h, hout k [] rfl hk⟩
    | @inner k rest _ _ x y ha hb h =>
      have hk : k ≠ field := by
        rintro rfl
        rw [pop, field?_eraseField_self] at ha
        cases ha
      rw [pop, field?_eraseField_ne hk] at ha hb
      exact ⟨.inner ha hb h, hout k rest rfl hk⟩
  within path h := by
    cases path with
    | nil => simp [valueAt_nil]
    | cons k rest =>
      by_cases hk : k = field
      · subst hk
        rw [valueAt_cons, pop, field?_eraseField_self] at h
        exact absurd rfl h
      · rw [valueAt_cons, pop, field?_eraseField_ne hk] at h
        rwa [valueAt_cons]
  arrays path xs h := by
    cases path with
    | nil => cases h
    | cons k rest =>
      rw [valueAt_cons] at h ⊢
      by_cases hk : k = field
      · subst hk
        rw [pop, field?_eraseField_self] at h
        cases h
      · rwa [pop, field?_eraseField_ne hk] at h
  popped p hp := by
    obtain rfl := List.mem_singleton.mp hp
    exact ⟨rfl, by simp [valueAt_nil]⟩
  kept h := by cases h

/-- A position below a key, where both documents have objects, is one of these objects. -/
theorem differsAt_below {key : String} {s t a b : Members} {rest : List String}
    (hs : field? key s = some (.obj a)) (ht : field? key t = some (.obj b))
    (h : DiffersAt (.obj s) (.obj t) (key :: rest)) : DiffersAt (.obj a) (.obj b) rest := by
  cases h with
  | member h => exact absurd (by rw [hs, ht]; rfl) h
  | inner ha hb h =>
    obtain rfl := Option.some.inj (hs.symm.trans ha)
    obtain rfl := Option.some.inj (ht.symm.trans hb)
    exact h

/-- A difference that is not between two objects has no position below it. -/
theorem rest_eq_nil_of_differsAt {key : String} {s t : Members} {rest : List String}
    (hobj : ¬ ∃ a b, field? key s = some (.obj a) ∧ field? key t = some (.obj b))
    (h : DiffersAt (.obj s) (.obj t) (key :: rest)) : rest = [] := by
  cases h with
  | member _ => rfl
  | inner ha hb h =>
    cases h with
    | value _ _ => rfl
    | member _ => exact absurd ⟨_, _, ha, hb⟩ hobj
    | inner _ _ _ => exact absurd ⟨_, _, ha, hb⟩ hobj

theorem cleared_under {place : List String → Prop} {key : String} {s t a b : Members}
    {c : Collected} (hs : field? key s = some (.obj a)) (ht : field? key t = some (.obj b))
    (h : Cleared place a b c) (hne : c.popped ≠ []) :
    Cleared (fun path => ∃ rest, path = key :: rest ∧ place rest) s t
      { src := setField key (.obj c.src) s
        dst := setField key (.obj c.dst) t
        popped := c.popped.map (·.under key) } := by
  have hsrc : field? key (setField key (.obj c.src) s) = some (.obj c.src) :=
    field?_setField_self (by simp [hs])
  have hdst : field? key (setField key (.obj c.dst) t) = some (.obj c.dst) :=
    field?_setField_self (by simp [ht])
  have hother : ∀ k rest, k ≠ key → ∀ front, (∃ rest, front = key :: rest ∧ place rest) →
      ¬ front <+: k :: rest := by
    rintro k rest hk _ ⟨_, rfl, -⟩ hfront
    exact hk (List.cons_prefix_cons.mp hfront).1.symm
  refine ⟨?_, ?_, ?_, ?_, ?_⟩
  · intro path hpath
    obtain ⟨k, rest, rfl⟩ := List.exists_cons_of_ne_nil hpath.ne_nil
    by_cases hk : k = key
    · subst hk
      obtain ⟨hbelow, hout⟩ := h.differs rest (differsAt_below hsrc hdst hpath)
      refine ⟨.inner hs ht hbelow, ?_⟩
      rintro _ ⟨front, rfl, hplace⟩ hfront
      exact hout front hplace (List.cons_prefix_cons.mp hfront).2
    · refine ⟨?_, hother k rest hk⟩
      cases hpath with
      | member h =>
        rw [field?_setField_ne hk, field?_setField_ne hk] at h
        exact .member h
      | inner ha hb h =>
        rw [field?_setField_ne hk] at ha hb
        exact .inner ha hb h
  · intro path hpath
    cases path with
    | nil => simp [valueAt_nil]
    | cons k rest =>
      rw [valueAt_cons] at hpath ⊢
      by_cases hk : k = key
      · subst hk
        rw [hsrc] at hpath
        rw [hs]
        exact h.within rest hpath
      · rwa [field?_setField_ne hk] at hpath
  · intro path xs hpath
    cases path with
    | nil => cases hpath
    | cons k rest =>
      rw [valueAt_cons] at hpath ⊢
      by_cases hk : k = key
      · subst hk
        rw [hsrc] at hpath
        rw [hs]
        exact h.arrays rest xs hpath
      · rwa [field?_setField_ne hk] at hpath
  · rintro _ hmem
    obtain ⟨p, hp, rfl⟩ := List.mem_map.mp hmem
    obtain ⟨hplace, hcontainer⟩ := h.popped p hp
    refine ⟨⟨p.path, rfl, hplace⟩, ?_⟩
    change valueAt (key :: p.path).dropLast (.obj s) ≠ none
    cases hpath : p.path with
    | nil => simp [valueAt_nil]
    | cons k rest =>
      rw [hpath] at hcontainer
      rw [List.dropLast_cons_of_ne_nil (List.cons_ne_nil _ _), valueAt_cons, hs]
      exact hcontainer
  · exact fun hnil => absurd (List.map_eq_nil_iff.mp hnil) hne

theorem cleared_descend {collect : Members → Members → Collected} {place : List String → Prop}
    (hcollect : ∀ a b, Cleared place a b (collect a b)) (hnil : ¬ place []) (key : String)
    (s t : Members) :
    Cleared (fun path => ∃ rest, path = key :: rest ∧ place rest) s t
      (descend collect key s t) := by
  by_cases hobj : ∃ a b, field? key s = some (.obj a) ∧ field? key t = some (.obj b)
  · obtain ⟨a, b, hs, ht⟩ := hobj
    rw [descend_objects hs ht]
    by_cases hpopped : (collect a b).popped = []
    · rw [if_pos hpopped]
      refine cleared_unchanged (fun path hpath => ?_)
      rintro _ ⟨front, rfl, hplace⟩ ⟨rest, rfl⟩
      have hbelow := differsAt_below hs ht hpath
      obtain ⟨hsrc, hdst⟩ := (hcollect a b).kept hpopped
      have hdiffers := (hcollect a b).differs (front ++ rest)
      rw [hsrc, hdst] at hdiffers
      exact (hdiffers hbelow).2 front hplace (List.prefix_append _ _)
    · rw [if_neg hpopped]
      exact cleared_under hs ht (hcollect a b) hpopped
  · rw [descend_other hobj]
    refine cleared_unchanged (fun path hpath => ?_)
    rintro _ ⟨front, rfl, hplace⟩ ⟨rest, rfl⟩
    have hfront := rest_eq_nil_of_differsAt hobj hpath
    rw [(List.append_eq_nil_iff.mp hfront).1] at hplace
    exact hnil hplace

theorem cleared_andThen {place place' : List String → Prop} {s t : Members} {c : Collected}
    {step : Members → Members → Collected} (h : Cleared place s t c)
    (hstep : Cleared place' c.src c.dst (step c.src c.dst)) :
    Cleared (fun path => place path ∨ place' path) s t (c.andThen step) := by
  refine ⟨?_, ?_, ?_, ?_, ?_⟩
  · intro path hpath
    obtain ⟨hmid, hout'⟩ := hstep.differs path hpath
    obtain ⟨hdiffers, hout⟩ := h.differs path hmid
    refine ⟨hdiffers, fun front hplace => ?_⟩
    rcases hplace with hplace | hplace
    · exact hout front hplace
    · exact hout' front hplace
  · exact fun path hpath => h.within path (hstep.within path hpath)
  · exact fun path xs hpath => h.arrays path xs (hstep.arrays path xs hpath)
  · intro p hp
    rcases List.mem_append.mp hp with hp | hp
    · exact ⟨.inl (h.popped p hp).1, (h.popped p hp).2⟩
    · exact ⟨.inr (hstep.popped p hp).1, h.within _ (hstep.popped p hp).2⟩
  · intro hnil
    obtain ⟨hfirst, hsecond⟩ := List.append_eq_nil_iff.mp hnil
    obtain ⟨hsrc, hdst⟩ := h.kept hfirst
    obtain ⟨hsrc', hdst'⟩ := hstep.kept hsecond
    exact ⟨hsrc'.trans hsrc, hdst'.trans hdst⟩

theorem cleared_foldl {α : Type} {f : α → Members → Members → Collected}
    {place : α → List String → Prop} (hf : ∀ a s t, Cleared (place a) s t (f a s t)) (l : List α)
    {place₀ : List String → Prop} {s t : Members} {c : Collected} (h : Cleared place₀ s t c) :
    Cleared (fun path => place₀ path ∨ ∃ a ∈ l, place a path) s t
      (l.foldl (fun c a => c.andThen (f a)) c) := by
  induction l generalizing c place₀ with
  | nil => simpa using h
  | cons a l ih =>
    have hrun := ih (cleared_andThen h (hf a c.src c.dst))
    rw [List.foldl_cons]
    simpa only [List.mem_cons, exists_eq_or_imp, or_assoc] using hrun

theorem mem_commonKeys {k : String} {s t : Members} :
    k ∈ commonKeys s t ↔ field? k s ≠ none ∧ field? k t ≠ none := by
  rw [commonKeys, List.mem_insertionSort, List.mem_filter, ← field?_ne_none,
    Option.isSome_iff_ne_none]

theorem cleared_collectReplaceOps (parts : List String) (s t : Members) :
    Cleared (PlaceOf parts) s t (collectReplaceOps parts s t) := by
  induction parts generalizing s t with
  | nil => exact cleared_nothing s t
  | cons head parts ih =>
    cases parts with
    | nil => exact cleared_pop head s t
    | cons part parts =>
      unfold collectReplaceOps
      split
      · next hhead =>
        refine (cleared_foldl (cleared_descend ih (not_placeOf_nil _)) (commonKeys s t)
          (cleared_nothing s t)).congr ?_ ?_
        · rintro path hpath _ ⟨k, rest, rfl, -, hplace⟩ hfront
          refine ⟨k :: rest, .inr ⟨k, ?_, rest, rfl, hplace⟩, hfront⟩
          obtain ⟨more, rfl⟩ := hfront
          rw [List.cons_append] at hpath
          generalize hbelow : rest ++ more = below at hpath
          cases hpath with
          | member _ =>
            rw [(List.append_eq_nil_iff.mp hbelow).1] at hplace
            exact absurd hplace (not_placeOf_nil _)
          | inner hs ht _ => exact mem_commonKeys.mpr ⟨by simp [hs], by simp [ht]⟩
        · rintro path (h | ⟨k, -, rest, rfl, hplace⟩)
          · exact h.elim
          · exact ⟨k, rest, rfl, .inl hhead, hplace⟩
      · next hhead =>
        refine (cleared_descend ih (not_placeOf_nil _) head s t).congr ?_ ?_
        · rintro path - _ ⟨k, rest, rfl, hk, hplace⟩ hfront
          exact ⟨_, ⟨rest, by rw [hk.resolve_left hhead], hplace⟩, hfront⟩
        · rintro path ⟨rest, rfl, hplace⟩
          exact ⟨head, rest, rfl, .inr rfl, hplace⟩

/-- The values under the replace fields are taken out. -/
theorem cleared_collect (src dst : Members) (replaceFields : Finset String) :
    Cleared (fun path => ∃ f ∈ replaceFields, PlaceOf (fieldParts f) path) src dst
      (collect src dst replaceFields) := by
  have h := cleared_foldl (fun f => cleared_collectReplaceOps (fieldParts f))
    (replaceFields.sort (· ≤ ·)) (cleared_nothing src dst)
  rw [collect]
  simpa only [false_or, Finset.mem_sort] using h

/-! ## The operations of a patch -/

section Operations

variable [LocatedPatch]

/-- An operation as the managers get it. -/
def Operation.patchOperation : Operation → PatchOperation
  | .replace path value => ⟨path, .replace value⟩
  | .change c => LocatedPatch.operation c

/-- Where an operation of a patch may be: at a replaced place in a container of the first document,
or at a position outside of these places at which the documents differ. -/
inductive Placed (src dst : Members) (replaceFields : Finset String) : String → Prop where
  | replaced {path : List String} {f : String} (hf : f ∈ replaceFields)
      (hplace : PlaceOf (fieldParts f) path)
      (hcontainer : valueAt path.dropLast (.obj src) ≠ none) :
      Placed src dst replaceFields (pointerText path)
  | changed {front below : List String} (hdiffers : DiffersAt (.obj src) (.obj dst) front)
      (hout : ∀ f ∈ replaceFields, ∀ place, PlaceOf (fieldParts f) place → ¬ place <+: front)
      (hbelow : below ≠ [] → ∃ xs, valueAt front (.obj src) = some (.arr xs)) :
      Placed src dst replaceFields (escapedPointer (front ++ below))

/-- Every operation is at a replaced place, or at a difference outside of these places. -/
theorem operations_placed {src dst : Members} {replaceFields : Finset String}
    {ops : List Operation} (h : patchOps src dst replaceFields = some ops) {op : Operation}
    (hop : op ∈ ops) : Placed src dst replaceFields op.patchOperation.path := by
  have hcleared := cleared_collect src dst replaceFields
  unfold patchOps at h
  dsimp only at h
  split at h
  · obtain rfl := Option.some.inj h
    rcases List.mem_append.mp hop with hop | hop
    · obtain ⟨p, hp, hpop⟩ := List.mem_filterMap.mp hop
      obtain ⟨⟨f, hf, hplace⟩, hcontainer⟩ := hcleared.popped p hp
      unfold Popped.operation? at hpop
      split at hpop
      · obtain rfl := Option.some.inj hpop
        exact .replaced hf hplace hcontainer
      · cases hpop
    · obtain ⟨c, hc, rfl⟩ := List.mem_map.mp hop
      obtain ⟨_, hpath, front, below, rfl, hdiffers, hbelow⟩ := LocatedPatch.located _ _ c hc
      obtain ⟨hdiffers, hout⟩ := hcleared.differs front hdiffers
      change Placed src dst replaceFields (LocatedPatch.operation c).path
      rw [hpath]
      refine .changed hdiffers (fun f hf place hplace => hout place ⟨f, hf, hplace⟩) (fun hne => ?_)
      obtain ⟨xs, -, hxs, -⟩ := hbelow hne
      exact ⟨xs, hcleared.arrays front xs hxs⟩
  · cases h

/-- The patch is made where the keys of the replaced places are plain. -/
theorem patchOps_isSome {src dst : Members} {replaceFields : Finset String}
    (hplain : ∀ f ∈ replaceFields, ∀ path, PlaceOf (fieldParts f) path →
      valueAt path.dropLast (.obj src) ≠ none → ∀ key ∈ path, plainKey key = true) :
    ∃ ops, patchOps src dst replaceFields = some ops := by
  have hcleared := cleared_collect src dst replaceFields
  have hall : (collect src dst replaceFields).operations.all Operation.wellFormed = true := by
    rw [List.all_eq_true]
    intro op hop
    rcases List.mem_append.mp hop with hop | hop
    · obtain ⟨p, hp, hpop⟩ := List.mem_filterMap.mp hop
      obtain ⟨⟨f, hf, hplace⟩, hcontainer⟩ := hcleared.popped p hp
      unfold Popped.operation? at hpop
      split at hpop
      · obtain rfl := Option.some.inj hpop
        rw [Operation.wellFormed, pointerTokens_pointerText (hplain f hf p.path hplace hcontainer)]
        rfl
      · cases hpop
    · obtain ⟨c, -, rfl⟩ := List.mem_map.mp hop
      rfl
  exact ⟨_, if_pos hall⟩

end Operations

end Kelvin.Patch
