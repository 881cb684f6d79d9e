import Kelvin.Data.Documents

/-!
# Patches between documents

What a diff of two JSON documents is relied on for. A patch made from `a` and `b` changes places at
which the two differ. Applied to a document that has further members where both have objects, it
leads to `b` with these members.

* `Extends`, `Grafted`: a document with members beside those of `a`, and `b` with the same ones.
* `JsonPatch`: a library that makes and performs such patches.
* `graftPatch`: the library that performs a patch at once.
-/

namespace Kelvin

open Json

/-- `d` is `a` with further members, at places where `a` and `b` have objects without them. -/
inductive Extends : Json → Json → Json → Prop where
  | same (a b : Json) : Extends a a b
  | members {d a b : Members}
      (removed : ∀ k, field? k a ≠ none → field? k b = none → field? k d = field? k a)
      (added : ∀ k, field? k a = none → field? k b ≠ none → field? k d = none)
      (both : ∀ k, field? k a ≠ none → field? k b ≠ none → field? k d ≠ none)
      (inner : ∀ k x y z, field? k d = some x → field? k a = some y → field? k b = some z →
        Extends x y z) :
      Extends (.obj d) (.obj a) (.obj b)

/-- `r` is `b` with the members that `d` has beside those of `a`. -/
inductive Grafted : Json → Json → Json → Json → Prop where
  | same (a b : Json) : Grafted a a b b
  | members {d a b r : Members}
      (beside : ∀ k, field? k a = none → field? k b = none → field? k r = field? k d)
      (removed : ∀ k, field? k a ≠ none → field? k b = none → field? k r = none)
      (added : ∀ k, field? k a = none → field? k b ≠ none → field? k r = field? k b)
      (both : ∀ k, field? k a ≠ none → field? k b ≠ none → field? k r ≠ none)
      (inner : ∀ k x y z w, field? k d = some x → field? k a = some y → field? k b = some z →
        field? k r = some w → Grafted x y z w) :
      Grafted (.obj d) (.obj a) (.obj b) (.obj r)

/-- A path to a member that neither of two documents has, through objects that both have. -/
inductive Beside : List String → Json → Json → Prop where
  | here {k : String} {a b : Members} (ha : field? k a = none) (hb : field? k b = none) :
      Beside [k] (.obj a) (.obj b)
  | inner {k : String} {path : List String} {a b : Members} {x y : Json}
      (ha : field? k a = some x) (hb : field? k b = some y) (h : Beside path x y) :
      Beside (k :: path) (.obj a) (.obj b)

/-- The library `jsonpatch`: the changes of a diff, and their application. -/
class JsonPatch where
  Change : Type
  fromDiff : Json → Json → List Change
  perform : Change → Json → Option Json
  /-- The changes of a diff lead from the first document to the second, and members that a
  document has beside theirs do not hinder them. -/
  fromDiff_extends : ∀ a b d, Extends d a b →
    ∃ r, (fromDiff a b).foldlM (fun d c => perform c d) d = some r ∧ Grafted d a b r
  /-- No change of a diff is about a member that neither document has. -/
  fromDiff_beside : ∀ a b d r path, (fromDiff a b).foldlM (fun d c => perform c d) d = some r →
    Beside path a b → valueAt path r = valueAt path d

/-! ## A library that performs a patch at once -/

/-- Neither of two objects has the member. -/
def inNeither (a b : Members) (k : String) : Bool := (field? k a).isNone && (field? k b).isNone

mutual

/-- `b` with the members that `d` has beside those of `a`. -/
def graft (d a : Json) : Json → Json
  | .obj b =>
    match d, a with
    | .obj d, .obj a =>
      .obj (d.filter (fun f => inNeither a b f.1) ++ graftFields d a b)
    | _, _ => .obj b
  | b => b

def graftFields (d a : Members) : Members → Members
  | [] => []
  | (k, z) :: b =>
    (k, match field? k d, field? k a with
      | some x, some y => if x = y then z else graft x y z
      | _, _ => z) :: graftFields d a b

end

theorem field?_filter_name {keep : String → Bool} {k : String} {fields : Members} :
    field? k (fields.filter (fun f => keep f.1)) =
      if keep k then field? k fields else none := by
  induction fields with
  | nil => simp [field?_nil]
  | cons f fields ih =>
    rw [List.filter_cons, field?_cons]
    by_cases hf : keep f.1 = true
    · rw [if_pos hf, field?_cons, ih]
      by_cases hk : f.1 = k
      · rw [if_pos hk, if_pos hk, if_pos (hk ▸ hf)]
      · rw [if_neg hk, if_neg hk]
    · rw [if_neg hf, ih]
      by_cases hk : f.1 = k
      · rw [if_neg (hk ▸ hf), if_neg (hk ▸ hf)]
      · rw [if_neg hk]

theorem field?_append {k : String} {front back : Members} :
    field? k (front ++ back) = (field? k front).or (field? k back) := by
  induction front with
  | nil => rfl
  | cons f front ih =>
    rw [List.cons_append, field?_cons, field?_cons, ih]
    split <;> rfl

theorem field?_graftFields {k : String} {d a b : Members} :
    field? k (graftFields d a b) = (field? k b).map (fun z =>
      match field? k d, field? k a with
      | some x, some y => if x = y then z else graft x y z
      | _, _ => z) := by
  induction b with
  | nil => rfl
  | cons f b ih =>
    obtain ⟨l, z⟩ := f
    rw [graftFields, field?_cons, field?_cons, ih]
    dsimp only
    by_cases hl : l = k
    · subst hl
      rw [if_pos rfl, if_pos rfl]
      rfl
    · rw [if_neg hl, if_neg hl]

/-- The value that a grafted document has where the second document has one. -/
def graftValue (d a : Members) (k : String) (z : Json) : Json :=
  match field? k d, field? k a with
  | some x, some y => if x = y then z else graft x y z
  | _, _ => z

theorem field?_graft {k : String} {d a b : Members} :
    field? k (d.filter (fun f => inNeither a b f.1) ++ graftFields d a b) =
      if inNeither a b k then field? k d else (field? k b).map (graftValue d a k) := by
  have hnames : field? k (d.filter (fun f => inNeither a b f.1)) =
      if inNeither a b k then field? k d else none := field?_filter_name
  rw [field?_append, hnames, field?_graftFields]
  by_cases hk : inNeither a b k = true
  · rw [if_pos hk, if_pos hk]
    have hnone : field? k b = none := by
      simp only [inNeither, Bool.and_eq_true, Option.isNone_iff_eq_none] at hk
      exact hk.2
    rw [hnone]
    cases field? k d <;> rfl
  · rw [if_neg hk, if_neg hk]
    rfl

theorem inNeither_iff {a b : Members} {k : String} :
    inNeither a b k = true ↔ field? k a = none ∧ field? k b = none := by
  simp [inNeither, Option.isNone_iff_eq_none]

theorem graftValue_eq {d a : Members} {k : String} {x y z : Json} (hx : field? k d = some x)
    (hy : field? k a = some y) : graftValue d a k z = if x = y then z else graft x y z := by
  simp only [graftValue, hx, hy]

/-- A diff that is kept as its two documents, and performed at once. -/
def performGraft (change : Json × Json) (d : Json) : Option Json :=
  some (if d = change.1 then change.2 else graft d change.1 change.2)

theorem grafted_performGraft {d a b : Json} (h : Extends d a b) :
    Grafted d a b (if d = a then b else graft d a b) := by
  induction h with
  | same a b =>
    rw [if_pos rfl]
    exact .same a b
  | @members d a b removed added both inner ih =>
    by_cases heq : Json.obj d = Json.obj a
    · rw [if_pos heq, heq]
      exact .same _ _
    · rw [if_neg heq, graft]
      refine .members ?_ ?_ ?_ ?_ ?_
      · intro k ha hb
        rw [field?_graft, if_pos (inNeither_iff.mpr ⟨ha, hb⟩)]
      · intro k ha hb
        rw [field?_graft, if_neg (fun h => ha (inNeither_iff.mp h).1), hb]
        rfl
      · intro k ha hb
        rw [field?_graft, if_neg (fun h => hb (inNeither_iff.mp h).2)]
        obtain ⟨z, hz⟩ := Option.ne_none_iff_exists'.mp hb
        simp only [hz, Option.map_some, graftValue, ha]
        cases field? k d <;> rfl
      · intro k ha hb
        rw [field?_graft, if_neg (fun h => hb (inNeither_iff.mp h).2)]
        obtain ⟨z, hz⟩ := Option.ne_none_iff_exists'.mp hb
        simp [hz]
      · intro k x y z w hx hy hz hw
        rw [field?_graft, if_neg (fun h => absurd hy (by simp [(inNeither_iff.mp h).1])), hz,
          Option.map_some, graftValue_eq hx hy] at hw
        obtain rfl := Option.some.inj hw
        exact ih k x y z hx hy hz

theorem graft_of_not_obj {d a : Json} {b : Members} (h : ∀ fields, d ≠ .obj fields) :
    graft d a (.obj b) = .obj b := by
  cases d with
  | obj fields => exact absurd rfl (h fields)
  | _ => rfl

theorem Beside.valueAt_right {path : List String} {a b : Json} (h : Beside path a b) :
    valueAt path b = none := by
  induction h with
  | here _ hb => rw [valueAt_singleton, hb]
  | inner _ hb _ ih => rw [valueAt_cons, hb, Option.bind_some, ih]

theorem Beside.valueAt_left {path : List String} {a b : Json} (h : Beside path a b) :
    valueAt path a = none := by
  induction h with
  | here ha _ => rw [valueAt_singleton, ha]
  | inner ha _ _ ih => rw [valueAt_cons, ha, Option.bind_some, ih]

theorem valueAt_performGraft {path : List String} {d a b : Json} (h : Beside path a b) :
    valueAt path (if d = a then b else graft d a b) = valueAt path d := by
  by_cases heq : d = a
  · rw [if_pos heq, heq, h.valueAt_right, h.valueAt_left]
  · rw [if_neg heq]
    induction h generalizing d with
    | @here k a b ha hb =>
      by_cases hd : ∃ fields, d = .obj fields
      · obtain ⟨fields, rfl⟩ := hd
        rw [graft, valueAt_singleton, valueAt_singleton, field?_graft,
          if_pos (inNeither_iff.mpr ⟨ha, hb⟩)]
      · have hd := not_exists.mp hd
        rw [graft_of_not_obj hd, valueAt_cons_of_not_obj hd, valueAt_singleton, hb]
    | @inner k path a b x y ha hb h ih =>
      by_cases hd : ∃ fields, d = .obj fields
      · obtain ⟨fields, rfl⟩ := hd
        have hne : ¬ inNeither a b k = true := fun h => absurd ha (by simp [(inNeither_iff.mp h).1])
        rw [graft, valueAt_cons, valueAt_cons, field?_graft, if_neg hne, hb]
        cases hx : field? k fields with
        | none => simp [graftValue, hx, h.valueAt_right]
        | some z =>
          simp only [Option.map_some, Option.bind_some, graftValue_eq hx ha]
          by_cases hz : z = x
          · rw [if_pos hz, hz, h.valueAt_right, h.valueAt_left]
          · rw [if_neg hz]
            exact ih hz
      · have hd := not_exists.mp hd
        rw [graft_of_not_obj hd, valueAt_cons_of_not_obj hd, valueAt_cons, hb, Option.bind_some,
          h.valueAt_right]

/-- The library that performs a patch at once. -/
@[reducible] def graftPatch : JsonPatch where
  Change := Json × Json
  fromDiff a b := [(a, b)]
  perform := performGraft
  fromDiff_extends a b d h := ⟨_, rfl, grafted_performGraft h⟩
  fromDiff_beside a b d r path hr h := by
    obtain rfl : (if d = a then b else graft d a b) = r := by simpa [performGraft] using hr
    exact valueAt_performGraft h

end Kelvin
