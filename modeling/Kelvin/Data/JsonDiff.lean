import Mathlib.Data.List.Dedup
import Kelvin.Data.JsonOperations
import Kelvin.Data.JsonPatch

/-!
# Where a diff changes a document

The changes of a diff are operations of RFC 6902. Each of them is at a position at which the two
documents differ, or at an item below it where both have an array.

* `DiffersAt`: the positions at which two documents differ.
* `LocatedPatch`: a library whose changes are operations at such positions.
* `diff`, `memberwisePatch`: the library that compares documents member by member.
-/

namespace Kelvin

open Json

/-! ## Paths as texts -/

/-- A key as a reference token. -/
def escape (key : String) : String :=
  String.ofList (key.toList.flatMap (fun c =>
    if c = '~' then ['~', '0'] else if c = '/' then ['~', '1'] else [c]))

/-- A path as the pointer that the library writes. -/
def escapedPointer (path : List String) : String := pointerText (path.map escape)

theorem no_slash_escape (key : String) : '/' ∉ (escape key).toList := by
  rw [escape, String.toList_ofList, List.mem_flatMap]
  rintro ⟨c, -, hc⟩
  split at hc
  · simp at hc
  · split at hc
    · simp at hc
    · next hslash =>
      obtain rfl := List.mem_singleton.mp hc
      exact hslash rfl

theorem unescape_escape (key : String) : unescape (escape key).toList = some key.toList := by
  rw [escape, String.toList_ofList]
  induction key.toList with
  | nil => rfl
  | cons c cs ih =>
    rw [List.flatMap_cons]
    split
    · next hc =>
      rw [List.cons_append, List.cons_append, List.nil_append, unescape, ih, hc]
      rfl
    · next htilde =>
      split
      · next hc =>
        rw [List.cons_append, List.cons_append, List.nil_append, unescape, ih, hc]
        rfl
      · rw [List.singleton_append, unescape_cons htilde, ih]
        rfl

theorem escape_injective : Function.Injective escape := by
  intro k l h
  have hlists := congrArg (fun s => unescape s.toList) h
  simp only [unescape_escape] at hlists
  exact String.toList_injective (Option.some.inj hlists)

theorem escape_plain {key : String} (h : plainKey key = true) : escape key = key := by
  obtain ⟨hslash, htilde⟩ := plainKey_iff.mp h
  have hchars : key.toList.flatMap (fun c =>
      if c = '~' then ['~', '0'] else if c = '/' then ['~', '1'] else [c]) = key.toList := by
    generalize key.toList = cs at hslash htilde
    induction cs with
    | nil => rfl
    | cons c cs ih =>
      obtain ⟨hslash, hslashes⟩ := not_or.mp (List.mem_cons.not.mp hslash)
      obtain ⟨htilde, htildes⟩ := not_or.mp (List.mem_cons.not.mp htilde)
      rw [List.flatMap_cons, if_neg (Ne.symm htilde), if_neg (Ne.symm hslash), ih hslashes htildes]
      rfl
  rw [escape, hchars, String.ofList_toList]

/-! ## Positions -/

/-- A position at which two documents differ. It is reached through objects that both have, and
there one of them has no value or the values are not both objects. -/
inductive DiffersAt : Json → Json → List String → Prop where
  | value {a b : Json} (hne : a ≠ b) (hkind : ¬ (isObj a = true ∧ isObj b = true)) :
      DiffersAt a b []
  | member {k : String} {a b : Members} (h : (field? k a).isSome ≠ (field? k b).isSome) :
      DiffersAt (.obj a) (.obj b) [k]
  | inner {k : String} {path : List String} {a b : Members} {x y : Json}
      (ha : field? k a = some x) (hb : field? k b = some y) (h : DiffersAt x y path) :
      DiffersAt (.obj a) (.obj b) (k :: path)

theorem DiffersAt.ne {a b : Json} {path : List String} (h : DiffersAt a b path) : a ≠ b := by
  induction h with
  | value hne _ => exact hne
  | member h =>
    rintro heq
    cases heq
    exact h rfl
  | @inner k path a b x y ha hb _ ih =>
    rintro heq
    cases heq
    exact ih (Option.some.inj (ha.symm.trans hb))

theorem DiffersAt.ne_nil {a b : Members} {path : List String}
    (h : DiffersAt (.obj a) (.obj b) path) : path ≠ [] := by
  rintro rfl
  cases h with
  | value _ hkind => exact hkind ⟨rfl, rfl⟩

/-- A position of an operation: one at which the documents differ, or below one where both have an
array. -/
def LocatedAt (a b : Json) (path : List String) : Prop :=
  ∃ front below, path = front ++ below ∧ DiffersAt a b front ∧
    (below ≠ [] → ∃ xs ys, valueAt front a = some (.arr xs) ∧ valueAt front b = some (.arr ys))

/-- A library whose changes are operations, each of them about a difference of the documents. -/
class LocatedPatch extends JsonPatch where
  operation : Change → PatchOperation
  /-- No operation of a diff is about a place at which the documents agree. -/
  located : ∀ a b, ∀ c ∈ fromDiff a b, ∃ path, (operation c).path = escapedPointer path ∧
    LocatedAt a b path

/-! ## A library that compares member by member -/

/-- A value to be written at a path, or none where the value is removed. -/
abbrev Edit := List String × Option Json

def Edit.under (k : String) (e : Edit) : Edit := (k :: e.1, e.2)

/-- The part of an edit that is about the member under a key. -/
def Edit.below (k : String) : Edit → Option Edit
  | ([], _) => none
  | (l :: path, m) => if l = k then some (path, m) else none

def removedEdits (a b : Members) : List Edit :=
  ((a.map Prod.fst).dedup.filter (fun k => field? k b = none)).map (fun k => ([k], none))

mutual

def diff (a : Json) : Json → List Edit
  | .obj b =>
    match a with
    | .obj a => removedEdits a b ++ diffFields a [] b
    | _ => [([], some (.obj b))]
  | b => if a = b then [] else [([], some b)]

def diffFields (a : Members) (seen : List String) : Members → List Edit
  | [] => []
  | (k, z) :: b =>
    (if k ∈ seen then []
      else ((field? k a).elim [([], some z)] (fun y => diff y z)).map (Edit.under k)) ++
      diffFields a (k :: seen) b

end

/-- What the diff of two objects does with the member under a key. -/
def memberDiff : Option Json → Option Json → List Edit
  | none, none => []
  | some _, none => [([], none)]
  | none, some z => [([], some z)]
  | some y, some z => diff y z

theorem below_cons_self {l : String} {path : List String} {m : Option Json} {edits : List Edit} :
    (((l :: path, m) : Edit) :: edits).filterMap (Edit.below l) =
      (path, m) :: edits.filterMap (Edit.below l) := by
  rw [List.filterMap_cons]
  simp [Edit.below]

theorem below_cons_ne {k l : String} {path : List String} {m : Option Json} {edits : List Edit}
    (h : l ≠ k) : (((l :: path, m) : Edit) :: edits).filterMap (Edit.below k) =
      edits.filterMap (Edit.below k) := by
  rw [List.filterMap_cons]
  simp [Edit.below, h]

theorem below_under {k l : String} (edits : List Edit) :
    (edits.map (Edit.under l)).filterMap (Edit.below k) = if l = k then edits else [] := by
  induction edits with
  | nil => simp
  | cons e edits ih =>
    rw [List.map_cons, Edit.under]
    by_cases hl : l = k
    · subst hl
      rw [if_pos rfl] at ih ⊢
      rw [below_cons_self, ih]
    · rw [if_neg hl] at ih ⊢
      rw [below_cons_ne hl, ih]

theorem below_removed {k : String} {keys : List String} (h : keys.Nodup) :
    (keys.map (fun k => (([k], none) : Edit))).filterMap (Edit.below k) =
      if k ∈ keys then [([], none)] else [] := by
  induction keys with
  | nil => rfl
  | cons l keys ih =>
    obtain ⟨hl, hkeys⟩ := List.nodup_cons.mp h
    rw [List.map_cons, List.filterMap_cons, ih hkeys]
    by_cases hk : l = k
    · subst hk
      simp [Edit.below, hl]
    · simp [Edit.below, hk, Ne.symm hk]

theorem field?_ne_none {k : String} {fields : Members} :
    field? k fields ≠ none ↔ k ∈ fields.map Prod.fst := by
  induction fields with
  | nil => simp [field?_nil]
  | cons f fields ih =>
    rw [field?_cons, List.map_cons, List.mem_cons]
    by_cases hf : f.1 = k
    · simp [hf]
    · rw [if_neg hf, ih]
      exact ⟨Or.inr, fun h => h.resolve_left (Ne.symm hf)⟩

theorem below_removedEdits {k : String} {a b : Members} : (removedEdits a b).filterMap (Edit.below k) =
    if field? k a ≠ none ∧ field? k b = none then [([], none)] else [] := by
  rw [removedEdits, below_removed ((List.nodup_dedup _).filter _)]
  refine if_congr ?_ rfl rfl
  rw [List.mem_filter, List.mem_dedup, ← field?_ne_none, decide_eq_true_eq]

theorem below_diffFields {k : String} {a b : Members} {seen : List String} :
    (diffFields a seen b).filterMap (Edit.below k) =
      if k ∈ seen ∨ field? k b = none then [] else memberDiff (field? k a) (field? k b) := by
  induction b generalizing seen with
  | nil => simp [diffFields, field?_nil]
  | cons f b ih =>
    obtain ⟨l, z⟩ := f
    have hmember : (field? l a).elim [([], some z)] (fun y => diff y z) =
        memberDiff (field? l a) (some z) := by
      cases field? l a <;> rfl
    rw [diffFields, hmember, List.filterMap_append, ih, field?_cons]
    by_cases hseen : l ∈ seen
    · rw [if_pos hseen, List.filterMap_nil, List.nil_append]
      by_cases hl : l = k
      · subst hl
        simp [hseen]
      · simp [hl, Ne.symm hl]
    · rw [if_neg hseen, below_under]
      by_cases hl : l = k
      · subst hl
        simp [hseen]
      · simp [hl, Ne.symm hl]

/-- The diff of two objects compares the members under each key. -/
theorem below_diff {k : String} {a b : Members} :
    (diff (.obj a) (.obj b)).filterMap (Edit.below k) = memberDiff (field? k a) (field? k b) := by
  rw [diff, List.filterMap_append, below_removedEdits, below_diffFields]
  cases hb : field? k b with
  | none => cases field? k a <;> simp [memberDiff]
  | some z => simp

theorem diff_of_not_objects {a b : Json} (h : ¬ (isObj a = true ∧ isObj b = true)) :
    diff a b = if a = b then [] else [([], some b)] := by
  cases b with
  | obj b =>
    cases a with
    | obj a => exact absurd ⟨rfl, rfl⟩ h
    | _ => rfl
  | _ => rfl

theorem ne_nil_of_mem_diffFields {a b : Members} {seen : List String} {e : Edit}
    (h : e ∈ diffFields a seen b) : e.1 ≠ [] := by
  induction b generalizing seen with
  | nil => cases h
  | cons f b ih =>
    obtain ⟨k, z⟩ := f
    rw [diffFields, List.mem_append] at h
    rcases h with h | h
    · split at h
      · cases h
      · obtain ⟨e, -, rfl⟩ := List.mem_map.mp h
        exact List.cons_ne_nil _ _
    · exact ih h

theorem ne_nil_of_mem_diff {a b : Members} {e : Edit} (h : e ∈ diff (.obj a) (.obj b)) :
    e.1 ≠ [] := by
  rw [diff, List.mem_append] at h
  rcases h with h | h
  · obtain ⟨k, -, rfl⟩ := List.mem_map.mp h
    exact List.cons_ne_nil _ _
  · exact ne_nil_of_mem_diffFields h

theorem sizeOf_field? {k : String} {z : Json} {b : Members} (h : field? k b = some z) :
    sizeOf z < sizeOf (Json.obj b) := by
  have hlist : sizeOf z < sizeOf b := by
    induction b with
    | nil => cases h
    | cons f b ih =>
      rw [field?_cons] at h
      rw [List.cons.sizeOf_spec]
      split at h
      · obtain rfl := Option.some.inj h
        obtain ⟨l, z⟩ := f
        rw [Prod.mk.sizeOf_spec]
        dsimp only
        omega
      · have := ih h
        omega
  rw [Json.obj.sizeOf_spec]
  omega

/-- Induction over the members of objects. -/
theorem members_induction {P : Json → Prop}
    (step : ∀ b, (∀ fields k z, b = .obj fields → field? k fields = some z → P z) → P b) (b : Json) :
    P b := by
  generalize hn : sizeOf b = n
  induction n using Nat.strongRecOn generalizing b with
  | ind n ih =>
    refine step b (fun fields k z hb hz => ih (sizeOf z) ?_ z rfl)
    rw [← hn, hb]
    exact sizeOf_field? hz

/-- Every edit of a diff is at a position at which the documents differ. -/
theorem differsAt_of_mem_diff {a b : Json} {e : Edit} (h : e ∈ diff a b) : DiffersAt a b e.1 := by
  induction b using members_induction generalizing a e with
  | step b ih =>
    by_cases hobj : isObj a = true ∧ isObj b = true
    · cases a with
      | obj a =>
        cases b with
        | obj b =>
          obtain ⟨path, m⟩ := e
          cases path with
          | nil => exact absurd rfl (ne_nil_of_mem_diff h)
          | cons k path =>
            have hmem : (path, m) ∈ memberDiff (field? k a) (field? k b) := by
              rw [← below_diff, List.mem_filterMap]
              exact ⟨_, h, if_pos rfl⟩
            cases ha : field? k a with
            | none =>
              cases hb : field? k b with
              | none =>
                rw [ha, hb] at hmem
                cases hmem
              | some z =>
                rw [ha, hb] at hmem
                cases List.mem_singleton.mp hmem
                exact .member (by simp [ha, hb])
            | some y =>
              cases hb : field? k b with
              | none =>
                rw [ha, hb] at hmem
                cases List.mem_singleton.mp hmem
                exact .member (by simp [ha, hb])
              | some z =>
                rw [ha, hb] at hmem
                exact .inner ha hb (ih b k z rfl hb hmem)
        | _ => cases hobj.2
      | _ => cases hobj.1
    · rw [diff_of_not_objects hobj] at h
      split at h
      · cases h
      · next hne =>
        cases List.mem_singleton.mp h
        exact .value hne hobj

/-! ## Performing edits -/

/-- A member after an edit. -/
def write : List String → Option Json → Option Json → Option (Option Json)
  | [], m, _ => some m
  | k :: path, m, some (.obj d) =>
    (write path m (field? k d)).map (fun m => some (.obj (writeField k m d)))
  | _ :: _, _, _ => none

/-- A member after some edits. -/
def writeAll (edits : List Edit) (m : Option Json) : Option (Option Json) :=
  edits.foldlM (fun m e => write e.1 e.2 m) m

/-- A document after an edit, which does not remove it. -/
def performEdit (e : Edit) (d : Json) : Option Json := (write e.1 e.2 (some d)).bind id

theorem writeAll_cons {e : Edit} {edits : List Edit} {m : Option Json} :
    writeAll (e :: edits) m = (write e.1 e.2 m).bind (writeAll edits) := rfl

theorem write_obj {k : String} {path : List String} {m w : Option Json} {d : Members} :
    write (k :: path) m (some (.obj d)) = some w ↔
      ∃ v, write path m (field? k d) = some v ∧ some (.obj (writeField k v d)) = w := by
  rw [write, Option.map_eq_some_iff]

/-- A run of edits on an object is a run on each of its members. -/
theorem members_of_writeAll {edits : List Edit} (hne : ∀ e ∈ edits, e.1 ≠ []) {d : Members}
    {w : Option Json} (h : writeAll edits (some (.obj d)) = some w) :
    ∃ d', w = some (.obj d') ∧
      ∀ k, writeAll (edits.filterMap (Edit.below k)) (field? k d) = some (field? k d') := by
  induction edits generalizing d with
  | nil =>
    obtain rfl := Option.some.inj h
    exact ⟨d, rfl, fun k => rfl⟩
  | cons e edits ih =>
    obtain ⟨hhead, hrest⟩ := List.forall_mem_cons.mp hne
    obtain ⟨path, m⟩ := e
    cases path with
    | nil => exact absurd rfl hhead
    | cons l path =>
      rw [writeAll_cons] at h
      obtain ⟨_, hwrite, h⟩ := Option.bind_eq_some_iff.mp h
      obtain ⟨v, hv, rfl⟩ := write_obj.mp hwrite
      obtain ⟨d', hd', hruns⟩ := ih hrest h
      refine ⟨d', hd', fun k => ?_⟩
      have hrun := hruns k
      by_cases hk : l = k
      · subst hk
        rw [field?_writeField_self] at hrun
        rw [below_cons_self, writeAll_cons, hv, Option.bind_some, hrun]
      · rw [field?_writeField_ne (Ne.symm hk)] at hrun
        rw [below_cons_ne hk, hrun]

/-- Runs on the members of an object make up a run on the object. -/
theorem writeAll_of_members {edits : List Edit} (hne : ∀ e ∈ edits, e.1 ≠ []) {d : Members}
    (h : ∀ k, (writeAll (edits.filterMap (Edit.below k)) (field? k d)).isSome) :
    ∃ d', writeAll edits (some (.obj d)) = some (some (.obj d')) := by
  induction edits generalizing d with
  | nil => exact ⟨d, rfl⟩
  | cons e edits ih =>
    obtain ⟨hhead, hrest⟩ := List.forall_mem_cons.mp hne
    obtain ⟨path, m⟩ := e
    cases path with
    | nil => exact absurd rfl hhead
    | cons l path =>
      have hl := h l
      rw [below_cons_self, writeAll_cons] at hl
      obtain ⟨w, hw⟩ := Option.isSome_iff_exists.mp hl
      obtain ⟨v, hv, hw⟩ := Option.bind_eq_some_iff.mp hw
      have hstep : write (l :: path) m (some (.obj d)) = some (some (.obj (writeField l v d))) :=
        write_obj.mpr ⟨v, hv, rfl⟩
      obtain ⟨d', hd'⟩ := @ih hrest (writeField l v d) (fun k => by
        by_cases hk : l = k
        · subst hk
          rw [field?_writeField_self, hw]
          rfl
        · have hrun := h k
          rw [below_cons_ne hk] at hrun
          rwa [field?_writeField_ne (Ne.symm hk)])
      refine ⟨d', ?_⟩
      rw [writeAll_cons, hstep, Option.bind_some, hd']

/-- What holds of a document that extends another one, member by member. -/
structure ExtendsMembers (d a b : Members) : Prop where
  removed : ∀ k, field? k a ≠ none → field? k b = none → field? k d = field? k a
  added : ∀ k, field? k a = none → field? k b ≠ none → field? k d = none
  both : ∀ k, field? k a ≠ none → field? k b ≠ none → field? k d ≠ none
  inner : ∀ k x y z, field? k d = some x → field? k a = some y → field? k b = some z →
    Extends x y z

theorem extendsMembers_of_extends {d : Json} {a b : Members} (h : Extends d (.obj a) (.obj b)) :
    ∃ d', d = .obj d' ∧ ExtendsMembers d' a b := by
  cases h with
  | same _ _ =>
    refine ⟨a, rfl, fun _ _ _ => rfl, fun _ ha _ => ha, fun _ ha _ => ha, fun k x y z hx hy _ => ?_⟩
    obtain rfl := Option.some.inj (hx.symm.trans hy)
    exact .same _ _
  | @members d _ _ removed added both inner => exact ⟨d, rfl, removed, added, both, inner⟩

/-- What becomes of a member `x` where the documents have `y` and `z`. -/
structure GraftedMember (x y z w : Option Json) : Prop where
  beside : y = none → z = none → w = x
  removed : y ≠ none → z = none → w = none
  added : y = none → z ≠ none → w = z
  both : ∀ y' z', y = some y' → z = some z' → ∃ x' w', x = some x' ∧ w = some w' ∧
    Grafted x' y' z' w'

theorem grafted_of_members {d a b r : Members}
    (h : ∀ k, GraftedMember (field? k d) (field? k a) (field? k b) (field? k r)) :
    Grafted (.obj d) (.obj a) (.obj b) (.obj r) := by
  refine .members (fun k => (h k).beside) (fun k => (h k).removed) (fun k => (h k).added) ?_ ?_
  · intro k ha hb
    obtain ⟨y, hy⟩ := Option.ne_none_iff_exists'.mp ha
    obtain ⟨z, hz⟩ := Option.ne_none_iff_exists'.mp hb
    obtain ⟨x, w, -, hw, -⟩ := (h k).both y z hy hz
    simp [hw]
  · intro k x y z w hx hy hz hw
    obtain ⟨x', w', hx', hw', hg⟩ := (h k).both y z hy hz
    obtain rfl := Option.some.inj (hx.symm.trans hx')
    obtain rfl := Option.some.inj (hw.symm.trans hw')
    exact hg

theorem writeAll_memberDiff {d a b : Members} {k : String} (hext : ExtendsMembers d a b)
    (hinner : ∀ x y z, field? k b = some z → Extends x y z →
      ∃ w, writeAll (diff y z) (some x) = some (some w) ∧ Grafted x y z w) :
    ∃ w, writeAll (memberDiff (field? k a) (field? k b)) (field? k d) = some w ∧
      GraftedMember (field? k d) (field? k a) (field? k b) w := by
  cases ha : field? k a with
  | none =>
    cases hb : field? k b with
    | none => exact ⟨field? k d, rfl, by simp, by simp, by simp, by simp⟩
    | some z => exact ⟨some z, rfl, by simp, by simp, by simp, by simp⟩
  | some y =>
    cases hb : field? k b with
    | none => exact ⟨none, rfl, by simp, by simp, by simp, by simp⟩
    | some z =>
      obtain ⟨x, hx⟩ := Option.ne_none_iff_exists'.mp (hext.both k (by simp [ha]) (by simp [hb]))
      obtain ⟨w, hw, hg⟩ := hinner x y z hb (hext.inner k x y z hx ha hb)
      refine ⟨some w, by rw [hx]; exact hw, by simp, by simp, by simp, ?_⟩
      rintro _ _ ⟨⟩ ⟨⟩
      exact ⟨x, w, hx, rfl, hg⟩

/-- The diff leads from the first document to the second one, and members beside theirs stay. -/
theorem writeAll_diff {d a b : Json} (h : Extends d a b) :
    ∃ r, writeAll (diff a b) (some d) = some (some r) ∧ Grafted d a b r := by
  induction b using members_induction generalizing d a with
  | step b ih =>
    by_cases hobj : isObj a = true ∧ isObj b = true
    · cases a with
      | obj a =>
        cases b with
        | obj b =>
          obtain ⟨d, rfl, hext⟩ := extendsMembers_of_extends h
          have hmember : ∀ k, ∃ w, writeAll ((diff (.obj a) (.obj b)).filterMap (Edit.below k))
              (field? k d) = some w ∧
                GraftedMember (field? k d) (field? k a) (field? k b) w := by
            intro k
            rw [below_diff]
            exact writeAll_memberDiff hext (fun x y z hz hxyz => ih b k z rfl hz hxyz)
          obtain ⟨r, hr⟩ := @writeAll_of_members _ (fun _ he => ne_nil_of_mem_diff he) d (fun k => by
            obtain ⟨w, hw, -⟩ := hmember k
            rw [hw]
            rfl)
          refine ⟨.obj r, hr, grafted_of_members (fun k => ?_)⟩
          obtain ⟨r', hr', hruns⟩ := members_of_writeAll (fun _ he => ne_nil_of_mem_diff he) hr
          cases hr'
          obtain ⟨w, hw, hg⟩ := hmember k
          obtain rfl := Option.some.inj (hw.symm.trans (hruns k))
          exact hg
        | _ => cases hobj.2
      | _ => cases hobj.1
    · have hd : d = a := by
        cases h with
        | same _ _ => rfl
        | members _ _ _ _ => exact absurd ⟨rfl, rfl⟩ hobj
      subst hd
      rw [diff_of_not_objects hobj]
      refine ⟨b, ?_, .same d b⟩
      split
      · next heq =>
        rw [heq]
        rfl
      · rfl

theorem writeAll_not_obj {edits : List Edit} (hne : ∀ e ∈ edits, e.1 ≠ []) {m w : Option Json}
    (hm : ∀ d, m ≠ some (.obj d)) (h : writeAll edits m = some w) : w = m := by
  cases edits with
  | nil => exact (Option.some.inj h).symm
  | cons e edits =>
    obtain ⟨path, v⟩ := e
    cases path with
    | nil => exact absurd rfl (hne _ List.mem_cons_self)
    | cons k path =>
      have hnone : write (k :: path) v m = none := by
        rw [write]
        exact fun d hd => hm d hd
      rw [writeAll_cons, hnone] at h
      cases h

/-- A member that neither document has is not edited. -/
theorem valueAt_writeAll {path : List String} {a b : Json} (h : Beside path a b)
    {m w : Option Json} (hrun : writeAll (diff a b) m = some w) :
    w.bind (valueAt path) = m.bind (valueAt path) := by
  induction h generalizing m w with
  | @here k a b ha hb =>
    by_cases hm : ∃ d, m = some (.obj d)
    · obtain ⟨d, rfl⟩ := hm
      obtain ⟨r, rfl, hruns⟩ := members_of_writeAll (fun _ he => ne_nil_of_mem_diff he) hrun
      have hk := hruns k
      rw [below_diff, ha, hb] at hk
      rw [Option.bind_some, Option.bind_some, valueAt_singleton, valueAt_singleton,
        Option.some.inj hk]
    · rw [writeAll_not_obj (fun _ he => ne_nil_of_mem_diff he) (not_exists.mp hm) hrun]
  | @inner k path a b x y ha hb _ ih =>
    by_cases hm : ∃ d, m = some (.obj d)
    · obtain ⟨d, rfl⟩ := hm
      obtain ⟨r, rfl, hruns⟩ := members_of_writeAll (fun _ he => ne_nil_of_mem_diff he) hrun
      have hk := hruns k
      rw [below_diff, ha, hb] at hk
      rw [Option.bind_some, Option.bind_some, valueAt_cons, valueAt_cons]
      exact ih hk
    · rw [writeAll_not_obj (fun _ he => ne_nil_of_mem_diff he) (not_exists.mp hm) hrun]

/-! ## The library -/

/-- No edit of a diff removes the document. -/
theorem isSome_of_mem_diff {a b : Json} {e : Edit} (h : e ∈ diff a b) (hroot : e.1 = []) :
    e.2.isSome := by
  by_cases hobj : isObj a = true ∧ isObj b = true
  · cases a with
    | obj a =>
      cases b with
      | obj b => exact absurd hroot (ne_nil_of_mem_diff h)
      | _ => cases hobj.2
    | _ => cases hobj.1
  · rw [diff_of_not_objects hobj] at h
    split at h
    · cases h
    · cases List.mem_singleton.mp h
      rfl

theorem performEdit_of_write {e : Edit} {d : Json} {w : Option Json} (hroot : e.1 = [] → e.2.isSome)
    (h : write e.1 e.2 (some d) = some w) : ∃ d', w = some d' ∧ performEdit e d = some d' := by
  have hw : w.isSome := by
    obtain ⟨path, m⟩ := e
    cases path with
    | nil =>
      obtain rfl := Option.some.inj h
      exact hroot rfl
    | cons k path =>
      cases d with
      | obj d =>
        obtain ⟨v, -, rfl⟩ := write_obj.mp h
        rfl
      | _ => cases h
  obtain ⟨d', rfl⟩ := Option.isSome_iff_exists.mp hw
  exact ⟨d', rfl, by rw [performEdit, h]; rfl⟩

theorem performEdits_of_writeAll {edits : List Edit} (hroot : ∀ e ∈ edits, e.1 = [] → e.2.isSome)
    {d r : Json} (h : writeAll edits (some d) = some (some r)) :
    edits.foldlM (fun d e => performEdit e d) d = some r := by
  induction edits generalizing d with
  | nil => exact Option.some.inj h
  | cons e edits ih =>
    obtain ⟨hhead, hrest⟩ := List.forall_mem_cons.mp hroot
    rw [writeAll_cons] at h
    obtain ⟨w, hw, h⟩ := Option.bind_eq_some_iff.mp h
    obtain ⟨d', rfl, hd'⟩ := performEdit_of_write hhead hw
    rw [List.foldlM_cons, hd']
    exact ih hrest h

theorem writeAll_of_performEdits {edits : List Edit} {d r : Json}
    (h : edits.foldlM (fun d e => performEdit e d) d = some r) :
    writeAll edits (some d) = some (some r) := by
  induction edits generalizing d with
  | nil => exact congrArg some h
  | cons e edits ih =>
    rw [List.foldlM_cons] at h
    obtain ⟨d', hd', h⟩ := Option.bind_eq_some_iff.mp h
    obtain ⟨w, hw, hwd⟩ := Option.bind_eq_some_iff.mp hd'
    obtain rfl : w = some d' := hwd
    rw [writeAll_cons, hw]
    exact ih h

theorem diff_extends (a b d : Json) (h : Extends d a b) :
    ∃ r, (diff a b).foldlM (fun d e => performEdit e d) d = some r ∧ Grafted d a b r := by
  obtain ⟨r, hr, hg⟩ := writeAll_diff h
  exact ⟨r, performEdits_of_writeAll (fun _ he => isSome_of_mem_diff he) hr, hg⟩

theorem diff_beside (a b d r : Json) (path : List String)
    (hr : (diff a b).foldlM (fun d e => performEdit e d) d = some r) (h : Beside path a b) :
    valueAt path r = valueAt path d :=
  valueAt_writeAll h (writeAll_of_performEdits hr)

/-- An edit as an operation. An addition replaces the member that an object has. -/
def Edit.operation (e : Edit) : PatchOperation where
  path := escapedPointer e.1
  kind := e.2.elim .remove .add

theorem diff_located (a b : Json) (e : Edit) (he : e ∈ diff a b) :
    ∃ path, e.operation.path = escapedPointer path ∧ LocatedAt a b path :=
  ⟨e.1, rfl, e.1, [], (List.append_nil _).symm, differsAt_of_mem_diff he, absurd rfl⟩

/-- The library that compares documents member by member, and other values as a whole. -/
@[reducible] def memberwisePatch : LocatedPatch where
  Change := Edit
  fromDiff := diff
  perform := performEdit
  fromDiff_extends := diff_extends
  fromDiff_beside := diff_beside
  operation := Edit.operation
  located := diff_located

end Kelvin
