import Kelvin.Api.CustomRoleParts

/-!
# Custom role strings through the updates of a user

A `PATCH` or `PUT` may move and convert the user before it modifies it, and each of these
rewrites the role strings.

* `movedCustom_steps`: the first three steps of an update drop no more than the custom role
  strings of the school that is left.
* `roles_modifyActions`: a modification never moves the user.
* `customRole_partialUpdate`, `customRole_completeUpdate`: what accepted updates leave.
-/

namespace Kelvin

/-! ## The first three steps of an update -/

/-- A step keeps the primary school and the custom role strings. -/
structure SameCustom (u v : UdmUser) : Prop where
  school : v.school = u.school
  wellFormed : AllWellFormed u.roles → AllWellFormed v.roles
  custom : AllWellFormed u.roles → ∀ d, CustomRole v.roles d ↔ CustomRole u.roles d

theorem SameCustom.refl (u : UdmUser) : SameCustom u u := ⟨rfl, id, fun _ _ => Iff.rfl⟩

theorem SameCustom.trans {u v w : UdmUser} (h : SameCustom u v) (h' : SameCustom v w) :
    SameCustom u w where
  school := h'.school.trans h.school
  wellFormed hu := h'.wellFormed (h.wellFormed hu)
  custom hu d := (h'.custom (h.wellFormed hu) d).trans (h.custom hu d)

section Steps

variable [Runtime] {dir : Directory}

omit [Runtime] in
theorem sameCustom_renameActions (u v : UdmUser) (name : Option String) :
    SameCustom v (Action.saved (renameActions dir u name) v) := by
  unfold renameActions
  split
  · exact .refl v
  · split
    · exact .refl v
    · exact ⟨rfl, id, fun _ _ => Iff.rfl⟩

omit [Runtime] in
theorem sameCustom_changeRolesActions (u v : UdmUser) (roles : List SchoolUserRole)
    (schoolClasses workgroups : Table String (List String)) :
    SameCustom v (Action.saved (changeRolesActions dir u roles schoolClasses workgroups) v) := by
  unfold changeRolesActions
  split
  · exact .refl v
  · split
    · exact .refl v
    · exact ⟨rfl, allWellFormed_convertedRoles, fun hv _ => customRole_convertedRoles hv⟩

omit [Runtime] in
theorem sameCustom_renameStep (req : PatchRequest) (u v : UdmUser) :
    SameCustom v (Action.saved (req.renameStep dir u) v) := by
  unfold PatchRequest.renameStep
  split
  · exact .refl v
  · exact sameCustom_renameActions u v _

omit [Runtime] in
theorem sameCustom_rolesStep (req : PatchRequest) (u v : UdmUser) :
    SameCustom v (Action.saved (req.rolesStep dir u) v) := by
  unfold PatchRequest.rolesStep
  split
  · exact .refl v
  · exact sameCustom_changeRolesActions u v _ _ _

/-- The user is moved to another school. -/
def Moves (u : UdmUser) (newSchool : Option Ou) : Prop := ∃ s, newSchool = some s ∧ s ≠ u.school

/-- A step leads to a school and drops the custom role strings of the old one, if it moves the
user. -/
structure MovedCustom (u v : UdmUser) (newSchool : Option Ou) : Prop where
  school : v.school = newSchool.getD u.school
  wellFormed : AllWellFormed v.roles
  custom : ∀ d, CustomRole v.roles d ↔
    CustomRole u.roles d ∧ (Moves u newSchool → d.context ≠ u.school.name)

theorem movedCustom_moveStep {u : UdmUser} (hu : AllWellFormed u.roles) (newSchool : Option Ou)
    (newSchools : List Ou) :
    MovedCustom u (Action.saved (moveStep dir u newSchool newSchools) u) newSchool := by
  have hstays : ∀ newSchool, ¬ Moves u newSchool → newSchool.getD u.school = u.school →
      MovedCustom u u newSchool := by
    intro newSchool hmoves hschool
    refine ⟨hschool.symm, hu, fun d => (and_iff_left fun h => absurd h hmoves).symm⟩
  cases newSchool with
  | none =>
    apply hstays
    · rintro ⟨s, hs, -⟩
      cases hs
    · rfl
  | some school =>
    by_cases hsame : school = u.school
    · have hsaved : Action.saved (moveStep dir u (some school) newSchools) u = u := by
        rw [Action.saved, saves_moveStep (fun s hs => Option.some.inj hs ▸ hsame)]
        rfl
      rw [hsaved]
      apply hstays
      · rintro ⟨s, hs, hne⟩
        exact hne (Option.some.inj hs ▸ hsame)
      · exact hsame
    · have hroles : (Action.saved (moveStep dir u (some school) newSchools) u).roles =
          doMoveRoles u.cls u.roles u.school school := by
        simp only [moveStep, changeSchoolActions, hsame, if_false]
        rfl
      have hmoves : Moves u (some school) := ⟨school, rfl, hsame⟩
      refine ⟨?_, ?_, ?_⟩
      · simp only [moveStep, changeSchoolActions, hsame, if_false]
        rfl
      · rw [hroles]
        exact allWellFormed_doMoveRoles hu
      · intro d
        rw [hroles, customRole_doMoveRoles]
        exact and_congr_right fun _ => ⟨fun h _ => h, fun h => h hmoves⟩

omit [Runtime] in
theorem MovedCustom.trans {u v w : UdmUser} {newSchool : Option Ou}
    (h : MovedCustom u v newSchool) (h' : SameCustom v w) : MovedCustom u w newSchool where
  school := h'.school.trans h.school
  wellFormed := h'.wellFormed h.wellFormed
  custom d := (h'.custom h.wellFormed d).trans (h.custom d)

theorem movedCustom_steps {req : UpdateRequest} {u : UdmUser} (hu : AllWellFormed u.roles) :
    MovedCustom u (Action.saved (req.steps dir u) u) (req.newSchool u) := by
  cases req with
  | patch req =>
    simp only [UpdateRequest.steps, PatchRequest.steps, Action.saved_append]
    have hmove := @movedCustom_moveStep _ dir u hu (req.newSchool u) (req.newSchools.getD [])
    exact (hmove.trans (sameCustom_renameStep req u _)).trans (sameCustom_rolesStep req u _)
  | put req =>
    simp only [UpdateRequest.steps, UserCreateModel.steps, Action.saved_append]
    have hmove := @movedCustom_moveStep _ dir u hu (req.newSchool u) req.libSchools
    exact (hmove.trans (sameCustom_renameActions u _ _)).trans
      (sameCustom_changeRolesActions u _ _ _ _)

/-! ## Modifications -/

omit [Runtime] in
/-- The removals do not move the user while the primary school stays. -/
theorem school_removalActions {school : Ou} {schools order : List Ou} (h : school ∉ order)
    (v : UdmUser) : (Action.saved (removalActions dir school schools order) v).school = v.school := by
  induction order generalizing schools v with
  | nil => rfl
  | cons s order ih =>
    rw [List.mem_cons, not_or] at h
    rw [removalActions]
    split
    · rfl
    · rw [if_neg h.1, Action.saved_append, ih h.2]
      rfl

theorem roles_modifyActions {new : ImportUser} {v : UdmUser} (hschool : new.school = v.school)
    (hstays : v.school ∈ v.schools → v.school ∈ new.schools) :
    (Action.saved (modifyActions dir new v.schools) v).roles =
      updateUcsschoolRoles new.cls new.roles new.getSchools := by
  have hnot : new.school ∉ dir.setOrder (v.schools.filter (fun s => s ∉ new.schools)) := by
    rw [(dir.setOrder_perm _).mem_iff, List.mem_filter, hschool]
    rintro ⟨hmem, hgone⟩
    exact (of_decide_eq_true hgone) (hstays hmem)
  have hsame := @school_removalActions dir new.school v.schools _ hnot v
  simp only [modifyActions, List.cons_append, Action.saved_check, requireThat,
    Action.saved_append]
  show (modifyTo (withUpdatedRoles new) _).roles = _
  simp only [modifyTo]
  exact if_pos (hsame.trans hschool.symm)

omit [Runtime] in
theorem allWellFormed_updateUcsschoolRoles {cls : UserClass} {roles : List String}
    {schools : List Ou} (hroles : AllWellFormed roles) :
    AllWellFormed (updateUcsschoolRoles cls roles schools) := by
  unfold updateUcsschoolRoles
  extract_lets dicts oldSchools newSchools removedSchools extended kept
  split
  · exact hroles
  · intro text htext
    obtain ⟨d, hd, rfl⟩ := List.mem_map.mp htext
    rcases mem_foldl_addDefaults.mp (List.mem_of_mem_filter hd) with hd | ⟨s, -, -, hd⟩
    · obtain ⟨text, -, he⟩ := (mem_rolesAsDicts_iff hroles).mp hd
      exact ⟨d, he.text_eq ▸ he⟩
    · obtain ⟨role, hrole, rfl⟩ := List.mem_map.mp hd
      obtain ⟨e, he, -⟩ := schoolText_default hrole
      exact ⟨e, he⟩

/-- What a modification, if there is one, makes of the role strings of the object in memory. -/
theorem modified_roles {changed : Prop} [Decidable changed] {new : ImportUser} {v : UdmUser}
    (hschool : new.school = v.school) (hstays : v.school ∈ v.schools → v.school ∈ new.schools)
    (hsame : ¬ changed → CustomRole new.roles = CustomRole v.roles) (hnew : AllWellFormed new.roles)
    (hv : AllWellFormed v.roles) :
    AllWellFormed (Action.saved (if changed then modifyActions dir new v.schools else []) v).roles ∧
      ∀ d, CustomRole
        (Action.saved (if changed then modifyActions dir new v.schools else []) v).roles d ↔
          CustomRole new.roles d := by
  split
  · rw [roles_modifyActions hschool hstays]
    exact ⟨allWellFormed_updateUcsschoolRoles hnew, fun d => customRole_updateUcsschoolRoles⟩
  · next hchanged =>
    rw [Action.saved_nil, hsame hchanged]
    exact ⟨hv, fun d => Iff.rfl⟩

omit [Runtime] in
/-- No custom role string of a user that can be shown counts as a school role string. -/
theorem not_countsAsSchool {roles : List String} (hroles : AllWellFormed roles)
    (hshows : showsRoles roles = true) {d : RoleDict} (hd : CustomRole roles d) :
    ¬ CountsAsSchool d := by
  rintro (htype | ⟨htype, hrole⟩)
  · exact hd.2 htype
  · obtain ⟨text, htext, he⟩ := (mem_rolesAsDicts_iff hroles).mp hd.1
    have hunknown : getRoleInfo text = .error .unknownRole := by
      unfold getRoleInfo
      rw [he.splitThree_eq]
      exact if_pos ⟨by simp [htype], hrole⟩
    have hshow := List.all_eq_true.mp hshows text htext
    simp [isSchoolRoleString, fromLibRole, hunknown] at hshow

/-! ## Accepted updates -/

omit [Runtime] in
theorem requireThat_passes {ok : Bool} {status : Nat} {as : List (Action UdmUser Nat)}
    {u : UdmUser} (h : Action.Passes (requireThat ok status :: as) u) :
    ok = true ∧ Action.Passes as u := by
  rw [requireThat, Action.passes_check] at h
  refine ⟨?_, h.2⟩
  by_contra hok
  simp [hok] at h

/-- A move passes only to a school among those that are to come, or are present. -/
theorem mem_of_moveStep {u : UdmUser} {school : Ou} {newSchools : List Ou}
    (h : Action.Passes (moveStep dir u (some school) newSchools) u) :
    school ∈ if newSchools = [] then u.schools else newSchools := by
  simpa using (requireThat_passes h).1

omit [Runtime] in
theorem firstSchool_ne_none {schools : List Ou} (h : schools ≠ []) :
    firstSchool schools ≠ none := by
  intro hnone
  rw [firstSchool, List.head?_eq_none_iff] at hnone
  apply h
  have hlength := List.length_insertionSort (fun a b : Ou => a.name ≤ b.name) schools
  rw [hnone] at hlength
  exact List.length_eq_zero_iff.mp hlength.symm

/-- The primary school that a `PATCH` leads to is among the schools that it leads to. -/
theorem PatchRequest.newSchool_mem {req : PatchRequest} {u : UdmUser} {schools : List Ou}
    (h : Action.Passes (moveStep dir u (req.newSchool u) (req.newSchools.getD [])) u)
    (hschools : req.newSchools = some schools) : (req.newSchool u).getD u.school ∈ schools := by
  have hne : schools ≠ [] := by
    rintro rfl
    unfold PatchRequest.newSchools at hschools
    split at hschools
    · next heq => exact req.schools_ne (heq.trans hschools)
    · cases hschools
    · cases hschools
  rw [hschools, Option.getD_some] at h
  cases hnew : req.newSchool u with
  | some school =>
    rw [hnew] at h
    simpa [hne] using mem_of_moveStep h
  | none =>
    unfold PatchRequest.newSchool at hnew
    rw [hschools] at hnew
    split at hnew
    · cases hnew
    · next heq =>
      cases heq
      split at hnew
      · next hmem => exact hmem
      · exact absurd hnew (firstSchool_ne_none hne)
    · next heq => cases heq

theorem UserCreateModel.newSchool_mem {req : UserCreateModel} {u : UdmUser}
    (h : Action.Passes (moveStep dir u (req.newSchool u) req.libSchools) u) :
    (req.newSchool u).getD u.school ∈
      makeSchools req.libSchools ((req.newSchool u).getD u.school) := by
  unfold makeSchools
  split
  · exact List.mem_singleton_self _
  · next hne =>
    rw [List.mem_dedup]
    cases hnew : req.newSchool u with
    | some school =>
      rw [hnew] at h
      simpa [hne] using mem_of_moveStep h
    | none =>
      unfold UserCreateModel.newSchool at hnew
      split at hnew
      · cases hnew
      · split at hnew
        · next hmem => exact hmem
        · exact absurd hnew (firstSchool_ne_none hne)

/-- An accepted update that ends with a modification and the reply. -/
theorem accepted_last {front : List (Action UdmUser Nat)} {changed : Prop} [Decidable changed]
    {new : ImportUser} {u v after : UdmUser} (hv : Action.saved front u = v)
    (h : Action.run (front ++ (if changed then modifyActions dir new v.schools else []) ++
      [showUser]) u = (none, after)) :
    Action.Passes front u ∧
      after = Action.saved (if changed then modifyActions dir new v.schools else []) v ∧
      showsRoles after.roles = true := by
  obtain ⟨hpasses, hafter⟩ := Action.run_eq_none.mp h
  obtain ⟨hfront, hshow⟩ := Action.passes_append.mp hpasses
  have hsaved : after = Action.saved (if changed then modifyActions dir new v.schools else []) v := by
    rw [hafter, Action.saved_append, Action.saved_append, hv]
    rfl
  refine ⟨(Action.passes_append.mp hfront).1, hsaved, ?_⟩
  rw [Action.saved_append, hv, ← hsaved, showUser, Action.passes_check] at hshow
  by_contra hnot
  simp [hnot] at hshow

/-- An accepted `PATCH` leaves the custom role strings of the object in memory, and they can be
shown. -/
theorem customRole_partialUpdate {req : PatchRequest} {u after : UdmUser}
    (hu : AllWellFormed u.roles) (htexts : ∀ texts ∈ req.ucsschoolRoles, AllWellFormed texts)
    (h : Action.run (partialUpdate dir req u) u = (none, after)) :
    (∀ d, CustomRole after.roles d ↔
        CustomRole (req.setAll (Action.saved (req.steps dir u) u)).roles d) ∧
      ∀ d, CustomRole after.roles d → ¬ CountsAsSchool d := by
  have hmoved := @movedCustom_steps _ dir (.patch req) u hu
  have hsteps : UpdateRequest.steps dir u (.patch req) = req.steps dir u := rfl
  rw [hsteps] at hmoved
  unfold partialUpdate at h
  extract_lets steps v at h
  have hfront : Action.saved (requireThat (guardianParameters req.attributes u.cls
        (req.roles.getD [])) 400 :: steps ++ [requireThat (req.ucsschoolRoles.all (fun texts =>
          roleStringsValid texts ∧ roleStringsValid v.roles)) 500,
        requireThat req.references 404]) u = v := by
    simp [requireThat, v]
  obtain ⟨hpasses, hafter, hshows⟩ := accepted_last hfront h
  have hmove : Action.Passes (moveStep dir u (req.newSchool u) (req.newSchools.getD [])) u := by
    have hguarded := (Action.passes_append.mp hpasses).1
    have hall : Action.Passes steps u := (requireThat_passes hguarded).2
    exact (Action.passes_append.mp (Action.passes_append.mp hall).1).1
  have hwf : AllWellFormed v.roles := hmoved.wellFormed
  have hnew : AllWellFormed (req.setAll v).roles := by
    unfold PatchRequest.setAll
    split
    · exact hwf
    · next texts heq =>
      intro text htext
      rcases List.mem_append.mp htext with htext | htext
      · exact htexts texts heq text (List.mem_of_mem_filter htext)
      · exact hwf text (List.mem_of_mem_filter htext)
  have hstays : v.school ∈ v.schools → v.school ∈ (req.setAll v).schools := by
    intro hmem
    show v.school ∈ req.newSchools.getD v.schools
    cases hschools : req.newSchools with
    | none => exact hmem
    | some schools =>
      rw [hmoved.school]
      exact req.newSchool_mem hmove hschools
  have hsame : ¬ req.changes v = true → CustomRole (req.setAll v).roles = CustomRole v.roles := by
    intro hnot
    have heq : req.setAll v = getImportUser v := by
      by_contra hne
      simp [PatchRequest.changes, hne] at hnot
    rw [heq]
    rfl
  obtain ⟨hafterWf, hcustom⟩ := modified_roles rfl hstays hsame hnew hwf
  rw [← hafter] at hafterWf hcustom
  exact ⟨hcustom, fun d hd => not_countsAsSchool hafterWf hshows hd⟩

/-- An accepted `PUT` leaves the custom role strings of the request that do not count as school
role strings. -/
theorem customRole_completeUpdate {req : UserCreateModel} {u after : UdmUser}
    (hu : AllWellFormed u.roles) (htexts : AllWellFormed req.ucsschoolRoles)
    (h : Action.run (completeUpdate dir req u) u = (none, after)) (d : RoleDict) :
    CustomRole after.roles d ↔ CustomRole req.ucsschoolRoles d ∧ ¬ CountsAsSchool d := by
  have hmoved := @movedCustom_steps _ dir (.put req) u hu
  have hsteps : UpdateRequest.steps dir u (.put req) = req.steps dir u := rfl
  rw [hsteps] at hmoved
  unfold completeUpdate at h
  extract_lets steps v new at h
  have hfront : Action.saved ([requireThat (validateUcsschoolRoles req.ucsschoolRoles) 422,
        requireThat (roleStringsValid req.ucsschoolRoles) 500,
        requireThat (guardianParameters req.attributes u.cls []) 400] ++ steps ++
      [requireThat req.references 404]) u = v := by
    simp [requireThat, v]
  obtain ⟨hpasses, hafter, hshows⟩ := accepted_last hfront h
  have hmove : Action.Passes (moveStep dir u (req.newSchool u) req.libSchools) u := by
    have hguarded := (Action.passes_append.mp hpasses).1
    have hall : Action.Passes steps u := (Action.passes_append.mp hguarded).2
    exact (Action.passes_append.mp (Action.passes_append.mp hall).1).1
  have hlib : AllWellFormed req.libRoles := allWellFormed_requestRoles htexts
  have hnew : AllWellFormed (prepareAttributes new).roles := by
    show AllWellFormed (makeUcsschoolRoles v.cls req.libRoles _)
    unfold makeUcsschoolRoles
    split
    · intro text htext
      obtain ⟨role, hrole, htext⟩ := List.mem_flatMap.mp htext
      obtain ⟨s, -, rfl⟩ := List.mem_map.mp htext
      obtain ⟨e, he, -⟩ := schoolText_default hrole
      exact ⟨e, he⟩
    · exact hlib
  have hcustom' : ∀ d, CustomRole (prepareAttributes new).roles d ↔ CustomRole req.libRoles d :=
    fun d => customRole_makeUcsschoolRoles
  have hstays : v.school ∈ v.schools → v.school ∈ (prepareAttributes new).schools := by
    intro _
    show v.school ∈ makeSchools req.libSchools v.school
    rw [hmoved.school]
    exact req.newSchool_mem hmove
  have hsame : ¬ new ≠ getImportUser v →
      CustomRole (prepareAttributes new).roles = CustomRole v.roles := by
    intro hnot
    have heq : req.libRoles = v.roles := congrArg (fun o : ImportUser => o.roles) (not_not.mp hnot)
    funext d
    exact propext ((hcustom' d).trans (heq ▸ Iff.rfl))
  obtain ⟨-, hcustom⟩ := modified_roles rfl hstays hsame hnew hmoved.wellFormed
  rw [hafter, hcustom, hcustom']
  exact customRole_requestRoles htexts

end Steps

end Kelvin
