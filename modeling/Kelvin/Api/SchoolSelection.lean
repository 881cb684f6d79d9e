import Kelvin.Api.RoleUpdates

/-!
# The schools that an update leaves

A `PATCH` or `PUT` of the v1 user resource may name a primary school, schools or both. The user is
moved to the primary school that follows from them, and the modification removes it from the
schools that are not named.

* `UpdateRequest.wantedSchools`: the schools that an update asks for.
* `schools_steps`: where the user is before the modification.
* `selected_modifyActions`: the modification does not move the user again.
* `schools_selected`: the schools and the primary school after an accepted update.
-/

namespace Kelvin

/-! ## Requests -/

/-- The primary school that a request names. -/
def UpdateRequest.school : UpdateRequest → Option Ou
  | .patch req => req.school
  | .put req => req.school

/-- The schools that a request names, or else its primary school. -/
def UpdateRequest.wantedSchools : UpdateRequest → Option (List Ou)
  | .patch req => req.schools <|> req.school.map (fun s => [s])
  | .put req => if req.schools ≠ [] then some req.schools else req.school.map (fun s => [s])

/-- A user is in the schools. Its primary school is the one that is named, else the present one
or, if that is not among them, the first one. -/
structure SchoolsSelected (school : Option Ou) (schools : List Ou) (u after : UdmUser) : Prop where
  members : ∀ s, s ∈ after.schools ↔ s ∈ schools
  named : ∀ s, school = some s → after.school = s
  present : school = none → u.school ∈ schools → after.school = u.school
  first : school = none → u.school ∉ schools →
    after.school ∈ schools ∧ ∀ s ∈ schools, after.school.name ≤ s.name

theorem firstSchool_least {schools : List Ou} {school : Ou} (h : firstSchool schools = some school) :
    school ∈ schools ∧ ∀ s ∈ schools, school.name ≤ s.name := by
  have hmap : (schools.insertionSort (fun a b => a.name ≤ b.name)).map (·.name) =
      (schools.map (·.name)).insertionSort (· ≤ ·) :=
    List.map_insertionSort _ _ _ _ (fun a _ b _ => Iff.rfl)
  have hsorted := List.pairwise_insertionSort (· ≤ ·) (schools.map (·.name))
  rw [← hmap, List.pairwise_map] at hsorted
  have hmem : ∀ s, s ∈ schools.insertionSort (fun a b => a.name ≤ b.name) ↔ s ∈ schools :=
    fun s => List.mem_insertionSort _
  rw [firstSchool] at h
  cases hsort : schools.insertionSort (fun a b => a.name ≤ b.name) with
  | nil =>
    rw [hsort] at h
    cases h
  | cons first rest =>
    rw [hsort] at h hsorted hmem
    obtain rfl := Option.some.inj h
    refine ⟨(hmem first).mp List.mem_cons_self, fun s hs => ?_⟩
    rcases List.mem_cons.mp ((hmem s).mpr hs) with rfl | hs
    · exact le_refl _
    · exact (List.pairwise_cons.mp hsorted).1 s hs

/-- The primary school that a request leads to, if it is another one. -/
def leadsTo (school : Option Ou) (schools : List Ou) (current : Ou) : Option Ou :=
  match school with
  | some s => some s
  | none => if current ∈ schools then none else firstSchool schools

/-! ## Before the modification -/

section Steps

variable [Runtime] {dir : Directory}

theorem school_moveStep (u : UdmUser) (newSchool : Option Ou) (newSchools : List Ou) :
    (Action.saved (moveStep dir u newSchool newSchools) u).school = newSchool.getD u.school := by
  cases newSchool with
  | none => rfl
  | some school =>
    by_cases hsame : school = u.school
    · subst hsame
      rw [Action.saved, saves_moveStep (fun s hs => (Option.some.inj hs).symm)]
      rfl
    · simp only [moveStep, changeSchoolActions, hsame, if_false]
      rfl

/-- Before the modification the user is in the school that the request leads to. -/
theorem school_steps (req : UpdateRequest) (u : UdmUser) :
    (Action.saved (req.steps dir u) u).school = (req.newSchool u).getD u.school := by
  cases req with
  | patch req =>
    simp only [UpdateRequest.steps, PatchRequest.steps, Action.saved_append]
    rw [(sameCustom_rolesStep req u _).school, (sameCustom_renameStep req u _).school,
      school_moveStep]
    rfl
  | put req =>
    simp only [UpdateRequest.steps, UserCreateModel.steps, Action.saved_append]
    rw [(sameCustom_changeRolesActions u _ _ _ _).school, (sameCustom_renameActions u _ _).school,
      school_moveStep]
    rfl

/-! ## The modification -/

/-- The modification leaves the schools of the object in memory, and the user where it is. -/
theorem selected_modifyActions {new : ImportUser} {v : UdmUser} (hschool : new.school = v.school)
    (hstays : v.school ∈ new.schools) :
    (Action.saved (modifyActions dir new v.schools) v).schools = new.schools ∧
      (Action.saved (modifyActions dir new v.schools) v).school = v.school := by
  have hnot : new.school ∉ dir.setOrder (v.schools.filter (fun s => s ∉ new.schools)) := by
    rw [(dir.setOrder_perm _).mem_iff, List.mem_filter, hschool]
    rintro ⟨-, hgone⟩
    exact of_decide_eq_true hgone hstays
  have hsame := @school_removalActions dir new.school v.schools _ hnot v
  simp only [modifyActions, List.cons_append, Action.saved_check, requireThat, Action.saved_append]
  exact ⟨rfl, hsame⟩

/-- The schools that a modification, if there is one, leaves. -/
theorem selected_last {changed : Prop} [Decidable changed] {new : ImportUser} {v : UdmUser}
    (hschool : new.school = v.school) (hstays : v.school ∈ new.schools)
    (hsame : ¬ changed → new.schools = v.schools) :
    (Action.saved (if changed then modifyActions dir new v.schools else []) v).schools =
        new.schools ∧
      (Action.saved (if changed then modifyActions dir new v.schools else []) v).school =
        v.school := by
  split
  · exact selected_modifyActions hschool hstays
  · next hnot => exact ⟨(hsame hnot).symm, rfl⟩

/-! ## The update -/

theorem selected_partialUpdate {req : PatchRequest} {u after : UdmUser} {schools : List Ou}
    (hgiven : req.newSchools = some schools)
    (h : Action.run (partialUpdate dir req u) u = (none, after)) :
    after.schools = schools ∧ after.school = (req.newSchool u).getD u.school ∧
      after.school ∈ schools := by
  have hschool := @school_steps _ dir (.patch req) u
  unfold partialUpdate at h
  extract_lets steps v at h
  have hv : v.school = (req.newSchool u).getD u.school := hschool
  have hfront : Action.saved (requireThat (guardianParameters req.attributes u.cls
        (req.roles.getD [])) 400 :: steps ++ [requireThat (req.ucsschoolRoles.all (fun texts =>
          roleStringsValid texts ∧ roleStringsValid v.roles)) 500,
        requireThat req.references 404]) u = v := by
    simp [requireThat, v]
  obtain ⟨hpasses, hafter, -⟩ := accepted_last hfront h
  have hmove : Action.Passes (moveStep dir u (req.newSchool u) (req.newSchools.getD [])) u := by
    have hguarded := (Action.passes_append.mp hpasses).1
    have hall : Action.Passes steps u := (requireThat_passes hguarded).2
    exact (Action.passes_append.mp (Action.passes_append.mp hall).1).1
  have hmem : v.school ∈ schools := hv ▸ req.newSchool_mem hmove hgiven
  have hset : (req.setAll v).schools = schools := by
    show req.newSchools.getD v.schools = schools
    rw [hgiven, Option.getD_some]
  have hsame : ¬ req.changes v = true → (req.setAll v).schools = v.schools := by
    intro hnot
    have heq : req.setAll v = getImportUser v := by
      by_contra hne
      simp [PatchRequest.changes, hne] at hnot
    rw [heq]
    rfl
  obtain ⟨hschools, hstays⟩ := @selected_last _ dir _ _ (req.setAll v) v rfl (hset ▸ hmem) hsame
  rw [hafter, hschools, hstays]
  exact ⟨hset, hv, hmem⟩

omit [Runtime] in
theorem UserCreateModel.libSchools_ne (req : UserCreateModel) : req.libSchools ≠ [] := by
  unfold UserCreateModel.libSchools
  split
  · next hnone =>
    obtain ⟨school, hschool⟩ := Option.ne_none_iff_exists'.mp
      (req.school_or_schools.resolve_right (fun h => h hnone))
    rw [hschool]
    exact List.cons_ne_nil _ _
  · next hsome => exact hsome

theorem selected_completeUpdate {req : UserCreateModel} {u after : UdmUser}
    (h : Action.run (completeUpdate dir req u) u = (none, after)) :
    (∀ s, s ∈ after.schools ↔ s ∈ req.libSchools) ∧
      after.school = (req.newSchool u).getD u.school ∧ after.school ∈ req.libSchools := by
  have hschool := @school_steps _ dir (.put req) u
  unfold completeUpdate at h
  extract_lets steps v new at h
  have hv : v.school = (req.newSchool u).getD u.school := hschool
  have hfront : Action.saved ([requireThat (validateUcsschoolRoles req.ucsschoolRoles) 422,
        requireThat (roleStringsValid req.ucsschoolRoles) 500,
        requireThat (guardianParameters req.attributes u.cls []) 400] ++ steps ++
      [requireThat req.references 404]) u = v := by
    simp [requireThat, v]
  obtain ⟨hpasses, hafter, -⟩ := accepted_last hfront h
  have hmove : Action.Passes (moveStep dir u (req.newSchool u) req.libSchools) u := by
    have hguarded := (Action.passes_append.mp hpasses).1
    have hall : Action.Passes steps u := (Action.passes_append.mp hguarded).2
    exact (Action.passes_append.mp (Action.passes_append.mp hall).1).1
  have hprepared : makeSchools req.libSchools v.school = req.libSchools.dedup :=
    if_neg req.libSchools_ne
  have hmem : v.school ∈ req.libSchools := by
    have hmade := req.newSchool_mem hmove
    rw [← hv, hprepared, List.mem_dedup] at hmade
    exact hmade
  by_cases hchanged : new ≠ getImportUser v
  · have hstays : v.school ∈ (prepareAttributes new).schools := by
      show v.school ∈ makeSchools req.libSchools v.school
      rw [hprepared, List.mem_dedup]
      exact hmem
    rw [if_pos hchanged] at hafter
    obtain ⟨hschools, hstill⟩ := @selected_modifyActions _ dir (prepareAttributes new) v rfl hstays
    rw [hafter, hschools, hstill]
    refine ⟨fun s => ?_, hv, hmem⟩
    show s ∈ makeSchools req.libSchools v.school ↔ _
    rw [hprepared, List.mem_dedup]
  · rw [if_neg hchanged] at hafter
    have hsame : req.libSchools = v.schools :=
      congrArg (fun o : ImportUser => o.schools) (not_not.mp hchanged)
    rw [hafter]
    exact ⟨fun s => by rw [hsame]; rfl, hv, hmem⟩

omit [Runtime] in
theorem schoolsSelected_of {school : Option Ou} {schools : List Ou} {u after : UdmUser}
    (hmembers : ∀ s, s ∈ after.schools ↔ s ∈ schools) (hmem : after.school ∈ schools)
    (hschool : after.school = (leadsTo school schools u.school).getD u.school) :
    SchoolsSelected school schools u after := by
  refine ⟨hmembers, ?_, ?_, ?_⟩
  · rintro s rfl
    exact hschool
  · rintro rfl hpresent
    rwa [leadsTo, if_pos hpresent] at hschool
  · rintro rfl habsent
    rw [leadsTo, if_neg habsent] at hschool
    cases hfirst : firstSchool schools with
    | none => exact absurd hfirst (firstSchool_ne_none (List.ne_nil_of_mem hmem))
    | some first =>
      rw [hfirst, Option.getD_some] at hschool
      rw [hschool]
      exact firstSchool_least hfirst

/-- After an accepted `PATCH` or `PUT` that names schools or a primary school, the user is in these
schools, and its primary school is the named one, else the old one if it is among them, else the
first of them. -/
theorem schools_selected {req : UpdateRequest} {u after : UdmUser} {schools : List Ou}
    (hgiven : req.wantedSchools = some schools)
    (h : Action.run (req.actions dir u) u = (none, after)) :
    SchoolsSelected req.school schools u after := by
  cases req with
  | patch req =>
    have hnew : req.newSchools = some schools := by
      rw [← hgiven, UpdateRequest.wantedSchools, PatchRequest.newSchools]
      cases req.school <;> cases req.schools <;> rfl
    obtain ⟨hschools, hschool, hmem⟩ := selected_partialUpdate hnew h
    apply schoolsSelected_of (fun s => by rw [hschools]) hmem
    rw [hschool, PatchRequest.newSchool, hnew, UpdateRequest.school, leadsTo.eq_def]
    cases req.school <;> rfl
  | put req =>
    have hlib : req.libSchools = schools := by
      rw [UpdateRequest.wantedSchools] at hgiven
      rw [UserCreateModel.libSchools]
      by_cases hnone : req.schools = []
      · rw [if_neg (not_not.mpr hnone)] at hgiven
        obtain ⟨school, hschool, rfl⟩ := Option.map_eq_some_iff.mp hgiven
        rw [if_pos hnone, hschool]
        rfl
      · rw [if_pos hnone] at hgiven
        rw [if_neg hnone]
        exact Option.some.inj hgiven
    obtain ⟨hmembers, hschool, hmem⟩ := selected_completeUpdate h
    rw [hlib] at hmembers hmem
    apply schoolsSelected_of hmembers hmem
    rw [hschool, UserCreateModel.newSchool, hlib]
    rfl

end Steps

section Concrete

attribute [local instance] asciiRuntime

theorem onlySchoolB_ne : some [ouNamedB] ≠ some [] := by simp

/-- `{"schools": [".../schools/B"]}`. -/
def onlySchoolB : UpdateRequest := .patch
  { name := none, school := none, schools := some [ouNamedB], roles := none,
    schoolClasses := none, workgroups := none, ucsschoolRoles := none, attributes := [],
    references := true, schools_ne := onlySchoolB_ne }

theorem selected_onlySchoolB : SchoolsSelected none [ouNamedB] anna annaMoved :=
  @schools_selected _ bertDirectory onlySchoolB anna annaMoved [ouNamedB] rfl (by decide)

end Concrete

end Kelvin
