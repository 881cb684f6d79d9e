import Kelvin.Lib.SchoolRoles

/-!
# School role strings through the operations of the lib

A user object of the lib is created, modified and moved to another school; each operation
rewrites its role strings. They are to follow the schools: no school role string names a school
that the user is not in, every school has one, and the others stay as they are.

* `create`, `modify`, `changeSchool`: the operations, as far as they read or write schools and
  roles.
* `RolesFollow`: role strings follow the schools.
* `rolesFollow_create_iff`, `rolesFollow_changeSchool_iff`, `rolesFollow_modify_iff`: when they
  do, for each operation.
* `rolesFollow_iff`: the same for every operation.
-/

namespace Kelvin

/-! ## Operations -/

/-- A user object of the lib, as far as its schools and roles go. -/
structure LibUser where
  cls : UserClass
  school : Ou
  schools : List Ou
  roles : List String
deriving DecidableEq

def LibUser.getSchools (u : LibUser) : List Ou := Kelvin.getSchools u.schools u.school

/-- `RolesSyntax.parse` accepts the text. -/
def rolesSyntax (text : String) : Bool :=
  text = "" ∨ (rolesRegex text).any (fun d => d.contextType ≠ "school" ∨ d.role ∈ allRoles)

/-- The syntax of the role strings, and `validate_roles`. -/
def validateRoles (u : LibUser) : Bool :=
  u.roles.all rolesSyntax ∧ (rolesAsDicts u.roles).all (fun d =>
    d.contextType ≠ "school" ∨ d.context = "-" ∨ d.context ∈ u.getSchools.map (·.name))

/-- `create_without_hooks`. -/
def create (u : LibUser) : Option LibUser :=
  let roles := createRoles u.cls u.roles u.getSchools
  if validateRoles { u with roles := roles } then
    some { u with
      roles := roles
      schools := if u.schools = [] then [u.school] else u.schools }
  else none

/-- `change_school`, for another name of the object. -/
def changeSchool (u : LibUser) (school : Ou) : Option LibUser :=
  let rest := u.schools.erase u.school
  if school = u.school then none
  else
    some { u with
      school := school
      schools := if school ∈ rest then rest else rest ++ [school]
      roles := doMoveRoles u.cls u.roles u.school school }

/-- `remove_from_school`. A user that is in no other school is deleted. -/
def removeFromSchool (u : LibUser) (school : Ou) : Option LibUser :=
  match u.schools.erase school with
  | [] => none
  | next :: rest =>
    if u.school = school then changeSchool { u with schools := next :: rest } next
    else some { u with schools := next :: rest }

/-- A modified user object, the schools that the directory has for it, and the order in which
the set of removed schools is run through. -/
structure Modification where
  user : LibUser
  stored : List Ou
  order : List Ou
  stored_nodup : stored.Nodup
  order_perm : order.Perm (stored.filter (fun s => s ∉ user.schools))

/-- `modify_without_hooks`, with `do_modify`. -/
def modify (m : Modification) : Option LibUser :=
  let u := { m.user with
    roles := updateUcsschoolRoles m.user.cls m.user.roles m.user.getSchools }
  if validateRoles u then
    (m.order.foldlM removeFromSchool { u with schools := m.stored }).map (fun v =>
      { v with schools := m.user.schools })
  else none

inductive RoleOperation where
  | create (u : LibUser)
  | modify (m : Modification)
  | changeSchool (u : LibUser) (school : Ou)

def RoleOperation.run : RoleOperation → Option LibUser
  | .create u => Kelvin.create u
  | .modify m => Kelvin.modify m
  | .changeSchool u school => Kelvin.changeSchool u school

/-- The role strings of the object before the operation. -/
def RoleOperation.rolesBefore : RoleOperation → List String
  | .create u => u.roles
  | .modify m => m.user.roles
  | .changeSchool u _ => u.roles

/-- The schools of the object before the operation. -/
def RoleOperation.schoolsBefore : RoleOperation → List Ou
  | .create _ => []
  | .modify m => getSchools m.stored m.user.school
  | .changeSchool u _ => u.getSchools

/-- School role strings follow the schools. -/
structure RolesFollow (before : List RoleDict) (schoolsBefore : List Ou) (after : List RoleDict)
    (schoolsAfter : List Ou) : Prop where
  onlyOwn : ∀ d ∈ after, ¬ Foreign schoolsAfter d
  everySchool : ∀ s ∈ schoolsAfter, NamedIn s after
  otherTypes : ∀ d, d.contextType ≠ "school" → (d ∈ after ↔ d ∈ before)
  keptSchools : ∀ s ∈ schoolsBefore, s ∈ schoolsAfter → ∀ d, d.contextType = "school" →
    d.context = s.name → (d ∈ after ↔ d ∈ before)

theorem LibUser.mem_getSchools {u : LibUser} {s : Ou} :
    s ∈ u.getSchools ↔ s ∈ u.schools ∨ s = u.school := Kelvin.mem_getSchools

theorem not_foreign_of_validateRoles {u : LibUser} (h : validateRoles u = true) :
    ∀ d ∈ rolesAsDicts u.roles, ¬ Foreign u.getSchools d := by
  rintro d hd ⟨htype, hdash, hforeign⟩
  simp only [validateRoles, Bool.decide_and, Bool.and_eq_true, decide_eq_true_eq,
    List.all_eq_true] at h
  rcases h.2 d hd with h | h | h
  · exact h htype
  · exact hdash h
  · obtain ⟨s, hs, hctx⟩ := List.mem_map.mp h
    exact hforeign s hs hctx.symm

/-! ## Create -/

theorem create_eq_some {u after : LibUser} (h : create u = some after) :
    after.roles = createRoles u.cls u.roles u.getSchools ∧
      (∀ s, s ∈ after.getSchools ↔ s ∈ u.getSchools) ∧
      ∀ d ∈ rolesAsDicts after.roles, ¬ Foreign u.getSchools d := by
  unfold create at h
  extract_lets roles at h
  split at h
  · next hvalid =>
    cases h
    refine ⟨rfl, fun s => ?_, not_foreign_of_validateRoles hvalid⟩
    simp only [LibUser.mem_getSchools]
    split
    · next hnil => simp [hnil]
    · rfl
  · cases h

theorem rolesFollow_create_iff {u after : LibUser} (h : create u = some after) :
    RolesFollow (rolesAsDicts u.roles) [] (rolesAsDicts after.roles) after.getSchools ↔
      (NamesContext (rolesAsDicts u.roles) →
        ∀ s ∈ u.getSchools, NamedIn s (rolesAsDicts u.roles)) := by
  obtain ⟨hroles, hschools, hvalid⟩ := create_eq_some h
  have hafter : ∀ d, d ∈ rolesAsDicts after.roles ↔ d ∈ rolesAsDicts u.roles ∨
      ¬ NamesContext (rolesAsDicts u.roles) ∧ ∃ s ∈ u.getSchools, d ∈ defaultDicts u.cls s := by
    intro d
    rw [hroles]
    exact mem_createRoles
  constructor
  · intro hfollow hnames s hs
    obtain ⟨d, hd, hnamed⟩ := hfollow.everySchool s ((hschools s).mpr hs)
    exact ⟨d, ((hafter d).mp hd).resolve_right (fun hnot => hnot.1 hnames), hnamed⟩
  · intro hcond
    refine ⟨?_, ?_, ?_, ?_⟩
    · rintro d hd ⟨htype, hdash, hforeign⟩
      exact hvalid d hd ⟨htype, hdash, fun s hs => hforeign s ((hschools s).mpr hs)⟩
    · intro s hs
      have hs' : s ∈ u.getSchools := (hschools s).mp hs
      by_cases hnames : NamesContext (rolesAsDicts u.roles)
      · obtain ⟨d, hd, hnamed⟩ := hcond hnames s hs'
        exact ⟨d, (hafter d).mpr (Or.inl hd), hnamed⟩
      · obtain ⟨d, hd⟩ := exists_mem_defaultDicts u.cls s
        exact ⟨d, (hafter d).mpr (Or.inr ⟨hnames, s, hs', hd⟩), mem_defaultDicts hd⟩
    · intro d htype
      rw [hafter]
      refine or_iff_left ?_
      rintro ⟨-, s, -, hd⟩
      exact htype (mem_defaultDicts hd).1
    · intro s hs
      cases hs

/-! ## Moves -/

/-- What a move to a school asks for: the user stays in no other school, the school has had the
default roles and no others, and no other role string has a school that is left as its
context. -/
structure MoveKeeps (cls : UserClass) (before : List RoleDict) (schoolsBefore stays : List Ou)
    (school : Ou) (left : List Ou) : Prop where
  alone : ∀ s ∈ stays, s = school
  defaults : school ∈ schoolsBefore → ∀ d, d.contextType = "school" →
    d.context = school.name → (d ∈ defaultDicts cls school ↔ d ∈ before)
  elsewhere : ∀ d ∈ before, d.contextType ≠ "school" → ∀ s ∈ left, d.context ≠ s.name

theorem rolesFollow_moved_iff {cls : UserClass} {before after : List RoleDict}
    {schoolsBefore schoolsAfter stays : List Ou} {school : Ou} {left : List Ou}
    (hafter : ∀ d, d ∈ after ↔ d ∈ defaultDicts cls school ∨
      d ∈ before ∧ d.contextType ≠ "school" ∧ ∀ s ∈ left, d.context ≠ s.name)
    (hschools : ∀ s, s ∈ schoolsAfter ↔ s ∈ stays ∨ s = school) :
    RolesFollow before schoolsBefore after schoolsAfter ↔
      MoveKeeps cls before schoolsBefore stays school left := by
  have hschool : school ∈ schoolsAfter := (hschools school).mpr (Or.inr rfl)
  have htypeSchool : ∀ d, d.contextType = "school" →
      (d ∈ after ↔ d ∈ defaultDicts cls school) := by
    intro d htype
    rw [hafter]
    exact or_iff_left (fun h => h.2.1 htype)
  have htypeOther : ∀ d, d.contextType ≠ "school" →
      (d ∈ after ↔ d ∈ before ∧ ∀ s ∈ left, d.context ≠ s.name) := by
    intro d htype
    rw [hafter, or_iff_right (fun h => htype (mem_defaultDicts h).1), and_iff_right htype]
  constructor
  · intro hfollow
    refine ⟨?_, ?_, ?_⟩
    · intro s hs
      obtain ⟨d, hd, htype, hctx⟩ := hfollow.everySchool s ((hschools s).mpr (Or.inl hs))
      have hdefault := (mem_defaultDicts ((htypeSchool d htype).mp hd)).2
      exact Ou.name_inj.mp (hctx.symm.trans hdefault)
    · intro hbefore d htype hctx
      rw [← htypeSchool d htype]
      exact hfollow.keptSchools school hbefore hschool d htype hctx
    · intro d hd htype
      have hd' := (hfollow.otherTypes d htype).mpr hd
      exact ((htypeOther d htype).mp hd').2
  · intro hkeeps
    have hsame : ∀ s ∈ schoolsAfter, s = school := fun s hs =>
      ((hschools s).mp hs).elim (hkeeps.alone s) id
    refine ⟨?_, ?_, ?_, ?_⟩
    · rintro d hd ⟨htype, -, hforeign⟩
      exact hforeign school hschool (mem_defaultDicts ((htypeSchool d htype).mp hd)).2
    · intro s hs
      obtain ⟨d, hd⟩ := exists_mem_defaultDicts cls school
      rw [hsame s hs]
      exact ⟨d, (hafter d).mpr (Or.inl hd), mem_defaultDicts hd⟩
    · intro d htype
      rw [htypeOther d htype]
      exact and_iff_left_of_imp (fun hd => hkeeps.elsewhere d hd htype)
    · intro s hbefore hs d htype hctx
      obtain rfl := hsame s hs
      rw [htypeSchool d htype]
      exact hkeeps.defaults hbefore d htype hctx

theorem changeSchool_eq_some {u after : LibUser} {school : Ou}
    (h : changeSchool u school = some after) :
    school ≠ u.school ∧ after = { u with
      school := school
      schools := if school ∈ u.schools.erase u.school then u.schools.erase u.school
        else u.schools.erase u.school ++ [school]
      roles := doMoveRoles u.cls u.roles u.school school } := by
  unfold changeSchool at h
  extract_lets rest at h
  split at h
  · cases h
  · next hne => exact ⟨hne, (Option.some.inj h).symm⟩

theorem rolesFollow_changeSchool_iff {u after : LibUser} {school : Ou}
    (h : changeSchool u school = some after) :
    RolesFollow (rolesAsDicts u.roles) u.getSchools (rolesAsDicts after.roles) after.getSchools ↔
      MoveKeeps u.cls (rolesAsDicts u.roles) u.getSchools (u.schools.erase u.school) school
        [u.school] := by
  obtain ⟨-, rfl⟩ := changeSchool_eq_some h
  apply rolesFollow_moved_iff
  · intro d
    rw [mem_rolesAsDicts_doMoveRoles]
    simp
  · intro s
    rw [LibUser.mem_getSchools]
    split
    · rfl
    · simp

/-! ## Modifications -/

/-- The schools that the user is moved away from while schools are removed. -/
def movedFrom (school : Ou) (schools : List Ou) : List Ou → List Ou
  | [] => []
  | s :: order =>
    match schools.erase s with
    | [] => []
    | next :: rest =>
      if school = s then s :: movedFrom next (next :: rest) order
      else movedFrom school (next :: rest) order

theorem removeFromSchool_eq_some {u v : LibUser} {s : Ou} (hnodup : u.schools.Nodup)
    (h : removeFromSchool u s = some v) :
    ∃ next rest, u.schools.erase s = next :: rest ∧
      ((u.school ≠ s ∧ v = { u with schools := next :: rest }) ∨
        (u.school = s ∧ v = { u with
          school := next
          schools := next :: rest
          roles := doMoveRoles u.cls u.roles s next })) := by
  unfold removeFromSchool at h
  split at h
  · cases h
  · next next rest herase =>
    refine ⟨next, rest, herase, ?_⟩
    split at h
    · next hs =>
      subst hs
      -- the school is already removed, so `change_school` finds it no more
      have hgone : u.school ∉ next :: rest := herase ▸ hnodup.not_mem_erase
      obtain ⟨-, rfl⟩ := changeSchool_eq_some h
      refine Or.inr ⟨rfl, ?_⟩
      simp only [List.erase_of_not_mem hgone, List.mem_cons_self, if_true]
    · next hs =>
      cases h
      exact Or.inl ⟨hs, rfl⟩

/-- What the removal of schools leaves of a user. -/
structure Removed (u v : LibUser) (order : List Ou) : Prop where
  cls : v.cls = u.cls
  schools : ∀ s ∈ v.schools, s ∈ u.schools ∧ s ∉ order
  stayed : movedFrom u.school u.schools order = [] → v.school = u.school ∧ v.roles = u.roles
  present : u.school ∈ u.schools ∨ movedFrom u.school u.schools order ≠ [] → v.school ∈ v.schools
  moved : movedFrom u.school u.schools order ≠ [] → ∀ d, d ∈ rolesAsDicts v.roles ↔
    d ∈ defaultDicts u.cls v.school ∨ d ∈ rolesAsDicts u.roles ∧ d.contextType ≠ "school" ∧
      ∀ s ∈ movedFrom u.school u.schools order, d.context ≠ s.name

theorem foldlM_removeFromSchool {u v : LibUser} {order : List Ou} (hnodup : u.schools.Nodup)
    (h : order.foldlM removeFromSchool u = some v) : Removed u v order := by
  induction order generalizing u with
  | nil =>
    cases h
    refine ⟨rfl, ?_, ?_, ?_, ?_⟩
    · simp
    · exact fun _ => ⟨rfl, rfl⟩
    · rintro (h | h)
      · exact h
      · exact absurd rfl h
    · intro h
      exact absurd rfl h
  | cons s order ih =>
    rw [List.foldlM_cons, Option.bind_eq_bind, Option.bind_eq_some_iff] at h
    obtain ⟨w, hw, h⟩ := h
    obtain ⟨next, rest, herase, hstep⟩ := removeFromSchool_eq_some hnodup hw
    have hnodup' : (next :: rest).Nodup := herase ▸ hnodup.erase s
    have hmem : ∀ t ∈ next :: rest, t ∈ u.schools ∧ t ≠ s := by
      intro t ht
      rw [← herase, hnodup.mem_erase_iff] at ht
      exact ht.symm
    have hschools : ∀ t, t ∈ next :: rest ∧ t ∉ order → t ∈ u.schools ∧ t ∉ s :: order := by
      rintro t ⟨ht, horder⟩
      exact ⟨(hmem t ht).1, by simp [(hmem t ht).2, horder]⟩
    rcases hstep with ⟨hs, rfl⟩ | ⟨rfl, rfl⟩
    · have hrest := ih hnodup' h
      have hpath : movedFrom u.school u.schools (s :: order) =
          movedFrom u.school (next :: rest) order := by
        rw [movedFrom, herase]
        exact if_neg hs
      refine ⟨hrest.cls, fun t ht => hschools t (hrest.schools t ht), ?_, ?_, ?_⟩
      · rw [hpath]
        exact hrest.stayed
      · rw [hpath]
        rintro (hin | hmoved)
        · apply hrest.present
          left
          show u.school ∈ next :: rest
          rw [← herase, hnodup.mem_erase_iff]
          exact ⟨hs, hin⟩
        · exact hrest.present (Or.inr hmoved)
      · rw [hpath]
        exact hrest.moved
    · have hrest := ih hnodup' h
      have hpath : movedFrom u.school u.schools (u.school :: order) =
          u.school :: movedFrom next (next :: rest) order := by
        rw [movedFrom, herase]
        exact if_pos rfl
      refine ⟨hrest.cls, fun t ht => hschools t (hrest.schools t ht), ?_, ?_, ?_⟩
      · rw [hpath]
        intro hnil
        cases hnil
      · exact fun _ => hrest.present (Or.inl List.mem_cons_self)
      · intro _ d
        rw [hpath, List.forall_mem_cons]
        by_cases hstayed : movedFrom next (next :: rest) order = []
        · obtain ⟨hschool, hroles⟩ := hrest.stayed hstayed
          rw [hschool, hroles, hstayed]
          simpa using mem_rolesAsDicts_doMoveRoles
        · rw [hrest.moved hstayed d]
          simp only [mem_rolesAsDicts_doMoveRoles]
          constructor
          · rintro (hd | ⟨hd | ⟨hd, -, hctx⟩, htype, hpath'⟩)
            · exact Or.inl hd
            · exact absurd (mem_defaultDicts hd).1 htype
            · exact Or.inr ⟨hd, htype, hctx, hpath'⟩
          · rintro (hd | ⟨hd, htype, hctx, hpath'⟩)
            · exact Or.inl hd
            · exact Or.inr ⟨Or.inr ⟨hd, htype, hctx⟩, htype, hpath'⟩

def Modification.movedFrom (m : Modification) : List Ou :=
  Kelvin.movedFrom m.user.school m.stored m.order

theorem modify_eq_some {m : Modification} {after : LibUser} (h : modify m = some after) :
    ∃ v, Removed { m.user with
        roles := updateUcsschoolRoles m.user.cls m.user.roles m.user.getSchools
        schools := m.stored } v m.order ∧
      after = { v with schools := m.user.schools } := by
  unfold modify at h
  extract_lets u at h
  split at h
  · obtain ⟨v, hv, hafter⟩ := Option.map_eq_some_iff.mp h
    exact ⟨v, foldlM_removeFromSchool m.stored_nodup hv, hafter.symm⟩
  · cases h

/-- What a modification without a move asks for: a school that the user was in, or that is the
context of some role string, has a school role string. -/
def ModifyKeeps (before : List RoleDict) (schoolsBefore schoolsAfter : List Ou) : Prop :=
  ∀ s ∈ schoolsAfter, (s ∈ schoolsBefore ∨ ∃ d ∈ before, d.context = s.name) → NamedIn s before

theorem rolesFollow_update_iff {cls : UserClass} {roles : List String}
    {schoolsBefore schoolsAfter : List Ou} :
    RolesFollow (rolesAsDicts roles) schoolsBefore
        (rolesAsDicts (updateUcsschoolRoles cls roles schoolsAfter)) schoolsAfter ↔
      ModifyKeeps (rolesAsDicts roles) schoolsBefore schoolsAfter := by
  have hschool : ∀ s ∈ schoolsAfter, ∀ d, d.contextType = "school" → d.context = s.name →
      (d ∈ rolesAsDicts (updateUcsschoolRoles cls roles schoolsAfter) ↔
        d ∈ rolesAsDicts roles ∨
          (∀ e ∈ rolesAsDicts roles, e.context ≠ s.name) ∧ d ∈ defaultDicts cls s) := by
    intro s hs d htype hctx
    have hown : ¬ Foreign schoolsAfter d := fun h => h.2.2 s hs hctx
    rw [mem_updateUcsschoolRoles, and_iff_left hown]
    refine or_congr_right ⟨?_, fun h => ⟨s, hs, h⟩⟩
    rintro ⟨t, -, hnamed, hd⟩
    obtain rfl : t = s := Ou.name_inj.mp ((mem_defaultDicts hd).2.symm.trans hctx)
    exact ⟨hnamed, hd⟩
  constructor
  · intro hfollow s hs hcause
    obtain ⟨d, hd, htype, hctx⟩ := hfollow.everySchool s hs
    refine ⟨d, ?_, htype, hctx⟩
    rcases hcause with hbefore | ⟨e, he, hectx⟩
    · exact (hfollow.keptSchools s hbefore hs d htype hctx).mp hd
    · exact ((hschool s hs d htype hctx).mp hd).resolve_right (fun h => h.1 e he hectx)
  · intro hkeeps
    refine ⟨?_, ?_, ?_, ?_⟩
    · intro d hd
      rcases mem_updateUcsschoolRoles.mp hd with ⟨-, hown⟩ | ⟨s, hs, -, hd⟩
      · exact hown
      · exact fun h => h.2.2 s hs (mem_defaultDicts hd).2
    · intro s hs
      by_cases hnamed : ∃ d ∈ rolesAsDicts roles, d.context = s.name
      · obtain ⟨d, hd, htype, hctx⟩ := hkeeps s hs (Or.inr hnamed)
        exact ⟨d, (hschool s hs d htype hctx).mpr (Or.inl hd), htype, hctx⟩
      · obtain ⟨d, hd⟩ := exists_mem_defaultDicts cls s
        obtain ⟨htype, hctx⟩ := mem_defaultDicts hd
        have hnone : ∀ e ∈ rolesAsDicts roles, e.context ≠ s.name := by simpa using hnamed
        exact ⟨d, (hschool s hs d htype hctx).mpr (Or.inr ⟨hnone, hd⟩), htype, hctx⟩
    · intro d htype
      rw [mem_updateUcsschoolRoles, and_iff_left (fun h => htype h.1)]
      refine or_iff_left ?_
      rintro ⟨s, -, -, hd⟩
      exact htype (mem_defaultDicts hd).1
    · intro s hbefore hs d htype hctx
      obtain ⟨e, he, -, hectx⟩ := hkeeps s hs (Or.inl hbefore)
      rw [hschool s hs d htype hctx]
      exact or_iff_left (fun h => h.1 e he hectx)

theorem rolesFollow_modify_iff {m : Modification} {after : LibUser} (h : modify m = some after) :
    RolesFollow (rolesAsDicts m.user.roles) (getSchools m.stored m.user.school)
        (rolesAsDicts after.roles) after.getSchools ↔
      if m.movedFrom = [] then
        ModifyKeeps (rolesAsDicts m.user.roles) (getSchools m.stored m.user.school)
          m.user.getSchools
      else ∃ s ∈ m.user.schools, MoveKeeps m.user.cls (rolesAsDicts m.user.roles)
        (getSchools m.stored m.user.school) m.user.schools s m.movedFrom := by
  obtain ⟨v, hremoved, rfl⟩ := modify_eq_some h
  split
  · next hnil =>
    obtain ⟨hschool, hroles⟩ := hremoved.stayed hnil
    have hafter : LibUser.getSchools { v with schools := m.user.schools } =
        m.user.getSchools := by
      simp only [LibUser.getSchools, hschool]
    rw [hafter, hroles]
    exact rolesFollow_update_iff
  · next hmoved =>
    have hpresent := hremoved.schools _ (hremoved.present (Or.inr hmoved))
    have hwanted : v.school ∈ m.user.schools := by
      by_contra hnot
      apply hpresent.2
      rw [m.order_perm.mem_iff, List.mem_filter]
      exact ⟨hpresent.1, by simpa using hnot⟩
    have hiff := @rolesFollow_moved_iff m.user.cls (rolesAsDicts m.user.roles)
      (rolesAsDicts v.roles) (getSchools m.stored m.user.school)
      (LibUser.getSchools { v with schools := m.user.schools }) m.user.schools v.school
      m.movedFrom
    rw [hiff]
    · constructor
      · exact fun hkeeps => ⟨v.school, hwanted, hkeeps⟩
      · rintro ⟨s, -, hkeeps⟩
        rw [hkeeps.alone v.school hwanted]
        exact hkeeps
    · intro d
      rw [hremoved.moved hmoved d]
      refine or_congr_right (and_congr_left fun hother => ?_)
      rw [mem_updateUcsschoolRoles, and_iff_left (fun h => hother.1 h.1)]
      refine or_iff_left ?_
      rintro ⟨s, -, -, hd⟩
      exact hother.1 (mem_defaultDicts hd).1
    · exact fun s => LibUser.mem_getSchools

/-! ## All operations -/

/-- When the role strings follow the schools through an operation. -/
def RoleOperation.Keeps : RoleOperation → Prop
  | .create u => NamesContext (rolesAsDicts u.roles) →
      ∀ s ∈ u.getSchools, NamedIn s (rolesAsDicts u.roles)
  | .modify m =>
    if m.movedFrom = [] then
      ModifyKeeps (rolesAsDicts m.user.roles) (getSchools m.stored m.user.school)
        m.user.getSchools
    else ∃ s ∈ m.user.schools, MoveKeeps m.user.cls (rolesAsDicts m.user.roles)
      (getSchools m.stored m.user.school) m.user.schools s m.movedFrom
  | .changeSchool u school => MoveKeeps u.cls (rolesAsDicts u.roles) u.getSchools
      (u.schools.erase u.school) school [u.school]

/-- The school role strings of a user follow its schools through a successful operation if and
only if what the operation asks for holds of the user before it. -/
theorem rolesFollow_iff {op : RoleOperation} {after : LibUser} (hrun : op.run = some after) :
    RolesFollow (rolesAsDicts op.rolesBefore) op.schoolsBefore (rolesAsDicts after.roles)
      after.getSchools ↔ op.Keeps := by
  cases op with
  | create u => exact rolesFollow_create_iff hrun
  | modify m => exact rolesFollow_modify_iff hrun
  | changeSchool u school => exact rolesFollow_changeSchool_iff hrun

/-- A school whose name is one letter. -/
def Ou.ofChar (c : Char) (h : asciiAlnum c = true) : Ou where
  name := String.ofList [c]
  chars := fun c' hc' => by
    rw [String.toList_ofList, List.mem_singleton] at hc'
    exact Or.inl (hc' ▸ h)
  head := ⟨c, by rw [String.toList_ofList]; rfl, h⟩

theorem alnum_A : asciiAlnum 'A' = true := rfl

theorem alnum_B : asciiAlnum 'B' = true := rfl

theorem alnum_C : asciiAlnum 'C' = true := rfl

def ouNamedA : Ou := Ou.ofChar 'A' alnum_A

def ouNamedB : Ou := Ou.ofChar 'B' alnum_B

def ouNamedC : Ou := Ou.ofChar 'C' alnum_C

/-- A student of two schools, as the lib creates it. -/
def twoSchoolStudent : LibUser where
  cls := .student
  school := ouNamedA
  schools := [ouNamedA, ouNamedB]
  roles := ["student:school:B", "student:school:A"]

def newStudent : RoleOperation := .create { twoSchoolStudent with roles := [] }

theorem newStudent_run : newStudent.run = some twoSchoolStudent := by decide

theorem rolesFollow_newStudent :
    RolesFollow (rolesAsDicts newStudent.rolesBefore) newStudent.schoolsBefore
      (rolesAsDicts twoSchoolStudent.roles) twoSchoolStudent.getSchools :=
  (rolesFollow_iff newStudent_run).mpr (fun ⟨_, hd, _⟩ => absurd hd List.not_mem_nil)

/-- A student of two schools that is moved from the first to a third has no role string in the
second any more. -/
theorem moved_without_role :
    ∃ op after, RoleOperation.run op = some after ∧
      ¬ RolesFollow (rolesAsDicts op.rolesBefore) op.schoolsBefore (rolesAsDicts after.roles)
        after.getSchools := by
  have hrun : RoleOperation.run (.changeSchool twoSchoolStudent ouNamedC) = some
      { twoSchoolStudent with
        school := ouNamedC
        schools := [ouNamedB, ouNamedC]
        roles := ["student:school:C"] } := by decide
  refine ⟨_, _, hrun, fun hfollow => ?_⟩
  have hB : ouNamedB ∈ getSchools [ouNamedB, ouNamedC] ouNamedC :=
    mem_getSchools.mpr (Or.inl List.mem_cons_self)
  obtain ⟨d, hd, -, hctx⟩ := hfollow.everySchool ouNamedB hB
  have hnone : ∀ d ∈ rolesAsDicts ["student:school:C"], d.context ≠ ouNamedB.name := by
    decide
  exact hnone d hd hctx

end Kelvin
