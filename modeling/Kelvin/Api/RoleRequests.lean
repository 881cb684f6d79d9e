import Kelvin.Api.RoleUpdates

/-!
# Custom role strings through the v1 requests

A `POST`, `PUT` or `PATCH` of the v1 user resource gives role strings. Those of other context
types than `school` are to be stored, and those that a `PATCH` does not name are to stay.

* `createUser`: the `POST`.
* `customRole_createUser`: what an accepted `POST` leaves.
* `accepted_withoutSchool`: the school role strings of a request have no effect.
* `customRoles_survive_iff`: when custom role strings survive an accepted request.
-/

namespace Kelvin

/-! ## POST -/

/-- A new user. There is no class for a request without roles. -/
structure NewUser where
  cls : Option UserClass
  name : String
  school : Ou
  schools : List Ou
  roles : List String
  schoolClasses : Table String (List String)
  workgroups : Table String (List String)
  attributes : Table String Json

/-- What `create` asks of the directory and of the import. -/
structure CreateContext where
  /-- The name of a school as the directory has it. -/
  canonical : Ou → Option Ou
  /-- There is a user with the name or the ids. -/
  taken : Bool
  makeUsername : Option String → String
  /-- The status with which the checks that are not modelled reject the user, if they do. -/
  rejects : NewUser → Option Nat

/-- The loop body of `fix_case_of_ous` for the role strings. -/
def fixRole [Runtime] (schools : List Ou) (roles : List String) (text : String) : List String :=
  match splitThree text with
  | none => roles
  | some (role, contextType, context) =>
    if contextType ≠ "school" then roles
    else
      schools.foldl
        (fun roles school =>
          if Runtime.lower context = Runtime.lower school.name ∧ context ≠ school.name then
            roles.erase text ++ [roleText role contextType school.name]
          else roles)
        roles

/-- `fix_case_of_ous`, for the role strings. -/
def fixCaseOfRoles [Runtime] (schools : List Ou) (roles : List String) : List String :=
  roles.foldl (fixRole schools) roles

/-- The role strings that `prepare_all` and `create_without_hooks_roles` make. -/
def newRoles (cls : Option UserClass) (roles : List String) (schools : List Ou) (school : Ou) :
    List String :=
  match cls with
  | none => roles
  | some cls => createRoles cls (makeUcsschoolRoles cls roles schools) (getSchools schools school)

/-- `make_school`, after `make_schools`. -/
def makeSchool (school : Option Ou) (schools : List Ou) : Option Ou :=
  match school with
  | none => firstSchool schools
  | some s => if s ∈ schools ∨ schools = [] then some s else firstSchool schools

/-- `create`. -/
def createUser [Runtime] (ctx : CreateContext) (req : UserCreateModel) : Except Nat NewUser := do
  require (validateUcsschoolRoles req.ucsschoolRoles = true) 422
  require (roleStringsValid req.ucsschoolRoles = true) 500
  require (∀ s ∈ req.school.toList ++ req.schools, ctx.canonical s ≠ none) 404
  require (ctx.taken = false) 409
  let cls := getLibClass req.roles
  require (∀ c ∈ cls, guardianParameters req.attributes c [] = true) 400
  require (cls ≠ none ∨ guardianParameters req.attributes .staff [] = true) 500
  let schools := req.libSchools.filterMap ctx.canonical
  match makeSchool (req.school.bind ctx.canonical) schools with
  | none => .error 400
  | some school =>
    let new : NewUser :=
      { cls := cls
        name := ctx.makeUsername req.name
        school := school
        schools := makeSchools schools school
        roles := newRoles cls (fixCaseOfRoles schools req.libRoles) (makeSchools schools school)
          school
        schoolClasses := req.schoolClasses
        workgroups := req.workgroups.getD .empty
        attributes := setAttributes req.attributes .empty }
    -- the class is not looked at
    require (validateRoles ⟨cls.getD .staff, new.school, new.schools, new.roles⟩ = true) 400
    require (ctx.rejects new = none) ((ctx.rejects new).getD 400)
    require (showsRoles new.roles = true) 500
    .ok new

/-! ## Accepted new users -/

section NewUsers

variable [Runtime]

/-- The correction of the letter case of a school changes school role strings only. -/
theorem fixRole_spec {schools : List Ou} {roles : List String} {text : String} {e : RoleDict}
    (hroles : AllWellFormed roles) (he : WellFormed text e) :
    AllWellFormed (fixRole schools roles text) ∧
      ∀ d, CustomRole (fixRole schools roles text) d ↔ CustomRole roles d := by
  unfold fixRole
  simp only [he.splitThree_eq]
  split
  · exact ⟨hroles, fun d => Iff.rfl⟩
  · next htype =>
    have hschool : e.contextType = "school" := not_not.mp htype
    have hline : '\n' ∉ e.role.toList := by
      have := he.line
      rw [he.text_eq] at this
      simp only [RoleDict.text, roleText, String.toList_append, List.mem_append] at this
      tauto
    induction schools generalizing roles with
    | nil => exact ⟨hroles, fun d => Iff.rfl⟩
    | cons s schools ih =>
      rw [List.foldl_cons]
      split
      · have hfixed : WellFormed (roleText e.role e.contextType s.name)
            ⟨e.role, "school", s.name⟩ :=
          hschool ▸ wellFormed_roleText s he.parts_ne.1 he.colon.1 hline
        have hstep : AllWellFormed (roles.erase text ++ [roleText e.role e.contextType s.name]) := by
          intro text' htext'
          rcases List.mem_append.mp htext' with h | h
          · exact hroles text' (List.mem_of_mem_erase h)
          · exact ⟨_, List.mem_singleton.mp h ▸ hfixed⟩
        obtain ⟨hwf, hcustom⟩ := ih hstep
        refine ⟨hwf, fun d => (hcustom d).trans ?_⟩
        have hnew : ¬ CustomRole [roleText e.role e.contextType s.name] d := by
          apply not_customRole_of_schoolTexts
          intro text' htext'
          exact ⟨_, List.mem_singleton.mp htext' ▸ hfixed, rfl⟩
        rw [customRole_append, or_iff_left hnew]
        refine and_congr_left fun hother => ?_
        have herase : AllWellFormed (roles.erase text) :=
          fun text' h => hroles text' (List.mem_of_mem_erase h)
        rw [mem_rolesAsDicts_iff herase, mem_rolesAsDicts_iff hroles]
        constructor
        · rintro ⟨text', h, hd⟩
          exact ⟨text', List.mem_of_mem_erase h, hd⟩
        · rintro ⟨text', h, hd⟩
          refine ⟨text', (List.mem_erase_of_ne ?_).mpr h, hd⟩
          rintro rfl
          exact hother (hd.unique he ▸ hschool)
      · exact ih hroles

theorem customRole_fixCaseOfRoles {schools : List Ou} {roles : List String}
    (hroles : AllWellFormed roles) (d : RoleDict) :
    CustomRole (fixCaseOfRoles schools roles) d ↔ CustomRole roles d := by
  have hrun : ∀ texts current, AllWellFormed texts → AllWellFormed current →
      (CustomRole (texts.foldl (fixRole schools) current) d ↔ CustomRole current d) := by
    intro texts
    induction texts with
    | nil => exact fun _ _ _ => Iff.rfl
    | cons text texts ih =>
      intro current htexts hcurrent
      obtain ⟨e, he⟩ := htexts text List.mem_cons_self
      obtain ⟨hwf, hcustom⟩ := @fixRole_spec _ schools current text e hcurrent he
      rw [List.foldl_cons, ih _ (fun t h => htexts t (List.mem_cons_of_mem text h)) hwf]
      exact hcustom d
  exact hrun roles roles hroles hroles

omit [Runtime] in
theorem customRole_newRoles {cls : Option UserClass} {roles : List String} {schools : List Ou}
    {school : Ou} {d : RoleDict} :
    CustomRole (newRoles cls roles schools school) d ↔ CustomRole roles d := by
  cases cls with
  | none => rfl
  | some cls => exact customRole_createRoles.trans customRole_makeUcsschoolRoles

/-- An accepted `POST` leaves the custom role strings of the request that do not count as school
role strings. -/
theorem customRole_createUser {ctx : CreateContext} {req : UserCreateModel} {new : NewUser}
    (htexts : AllWellFormed req.ucsschoolRoles) (h : createUser ctx req = .ok new)
    (d : RoleDict) :
    CustomRole new.roles d ↔ CustomRole req.ucsschoolRoles d ∧ ¬ CountsAsSchool d := by
  unfold createUser at h
  simp only [require_bind_eq_ok] at h
  obtain ⟨-, -, -, -, -, -, h⟩ := h
  split at h
  · cases h
  · simp only [require_bind_eq_ok] at h
    obtain ⟨-, -, -, h⟩ := h
    cases h
    show CustomRole (newRoles _ (fixCaseOfRoles _ req.libRoles) _ _) d ↔ _
    have hlib : AllWellFormed req.libRoles := allWellFormed_requestRoles htexts
    rw [customRole_newRoles, customRole_fixCaseOfRoles hlib]
    exact customRole_requestRoles htexts

end NewUsers

/-! ## All requests -/

/-- A request for a user. A `PUT` or `PATCH` comes with the stored user. -/
inductive RoleRequest where
  | post (ctx : CreateContext) (req : UserCreateModel)
  | put (req : UserCreateModel) (u : UdmUser)
  | patch (req : PatchRequest) (u : UdmUser)

/-- The role strings that the request gives. -/
def RoleRequest.texts : RoleRequest → Option (List String)
  | .post _ req => some req.ucsschoolRoles
  | .put req _ => some req.ucsschoolRoles
  | .patch req _ => req.ucsschoolRoles

/-- The role strings before the request. -/
def RoleRequest.stored : RoleRequest → List String
  | .post _ _ => []
  | .put _ u => u.roles
  | .patch _ u => u.roles

/-- The request is accepted and leaves the role strings. -/
def RoleRequest.Accepted [Runtime] (dir : Directory) (roles : List String) : RoleRequest → Prop
  | .post ctx req => ∃ new, createUser ctx req = .ok new ∧ new.roles = roles
  | .put req u => ∃ after, Action.run (completeUpdate dir req u) u = (none, after) ∧
      after.roles = roles
  | .patch req u => ∃ after, Action.run (partialUpdate dir req u) u = (none, after) ∧
      after.roles = roles

/-- The list without its strings of the context type `school`. -/
def dropSchoolTexts (texts : List String) : List String :=
  texts.filter (fun text => ¬ (splitThree text).any (fun p => p.2.1 = "school"))

/-- The request without its strings of the context type `school`. -/
def RoleRequest.withoutSchool : RoleRequest → RoleRequest
  | .post ctx req => .post ctx { req with ucsschoolRoles := dropSchoolTexts req.ucsschoolRoles }
  | .put req u => .put { req with ucsschoolRoles := dropSchoolTexts req.ucsschoolRoles } u
  | .patch req u => .patch { req with ucsschoolRoles := req.ucsschoolRoles.map dropSchoolTexts } u

/-- Custom role strings survive a request that leaves the role strings. -/
structure CustomRolesSurvive [Runtime] (dir : Directory) (request : RoleRequest)
    (roles : List String) : Prop where
  given : ∀ texts, request.texts = some texts → ∀ d, CustomRole roles d ↔ CustomRole texts d
  ignored : ∀ roles', request.withoutSchool.Accepted dir roles' ↔ request.Accepted dir roles'
  kept : request.texts = none → ∀ d, CustomRole roles d ↔ CustomRole request.stored d

/-- The role strings of the context type `exam` have known roles. -/
def ExamRolesKnown (texts : List String) : Prop :=
  ∀ d ∈ rolesAsDicts texts, d.contextType = "exam" → d.role ∈ allRoles

/-- When custom role strings survive: exam roles that the request gives are known; a `PATCH`
without role strings does not move the user away from the context of one. -/
def RoleRequest.Keeps : RoleRequest → Prop
  | .post _ req => ExamRolesKnown req.ucsschoolRoles
  | .put req _ => ExamRolesKnown req.ucsschoolRoles
  | .patch req u =>
    (∀ texts ∈ req.ucsschoolRoles, ExamRolesKnown texts) ∧
      (req.ucsschoolRoles = none → Moves u (req.newSchool u) →
        ∀ d, CustomRole u.roles d → d.context ≠ u.school.name)

/-- The custom role strings that do not count as school role strings are all there are, if and
only if the exam roles are known. -/
theorem examRolesKnown_iff {roles texts : List String}
    (h : ∀ d, CustomRole roles d ↔ CustomRole texts d ∧ ¬ CountsAsSchool d) :
    (∀ d, CustomRole roles d ↔ CustomRole texts d) ↔ ExamRolesKnown texts := by
  constructor
  · intro hsame d hd hexam
    by_contra hrole
    have htype : d.contextType ≠ "school" := by
      rw [hexam]
      decide
    exact ((h d).mp ((hsame d).mpr ⟨hd, htype⟩)).2 (Or.inr ⟨hexam, hrole⟩)
  · intro hknown d
    rw [h d]
    refine and_iff_left_of_imp fun hd => ?_
    rintro (htype | ⟨hexam, hrole⟩)
    · exact hd.2 htype
    · exact hrole (hknown d hd.1 hexam)

/-! ## School role strings of a request have no effect -/

theorem isSchoolRoleString_of_dropped {text : String} (hwf : ∃ d, WellFormed text d)
    (h : (splitThree text).any (fun p => p.2.1 = "school") = true) :
    isSchoolRoleString text = some true := by
  obtain ⟨d, hd⟩ := hwf
  rw [hd.splitThree_eq, Option.any_some, decide_eq_true_eq] at h
  have hcounts : CountsAsSchool d := Or.inl h
  rw [hd.isSchoolRoleString_eq, decide_eq_true hcounts]

theorem requestRoles_dropSchoolTexts {roles : List SchoolUserRole} {schools : List Ou}
    {texts : List String} (htexts : AllWellFormed texts) :
    requestRoles roles schools (dropSchoolTexts texts) = requestRoles roles schools texts := by
  unfold requestRoles
  generalize roles.flatMap (fun role => schools.map (fun school => role.asLibRole school)) = own
  induction texts generalizing own with
  | nil => rfl
  | cons text texts ih =>
    have hrest : AllWellFormed texts := fun t h => htexts t (List.mem_cons_of_mem text h)
    by_cases hdrop : (splitThree text).any (fun p => p.2.1 = "school") = true
    · have hschool := isSchoolRoleString_of_dropped (htexts text List.mem_cons_self) hdrop
      have hcons : dropSchoolTexts (text :: texts) = dropSchoolTexts texts :=
        List.filter_cons_of_neg (by simpa using hdrop)
      rw [hcons, ih hrest, List.foldl_cons, if_neg]
      rw [hschool]
      simp
    · have hcons : dropSchoolTexts (text :: texts) = text :: dropSchoolTexts texts :=
        List.filter_cons_of_pos (by simpa using hdrop)
      rw [hcons, List.foldl_cons, List.foldl_cons, ih hrest]

theorem keptRoles_dropSchoolTexts {texts current : List String} (htexts : AllWellFormed texts) :
    keptRoles (dropSchoolTexts texts) current = keptRoles texts current := by
  rw [keptRoles, keptRoles, dropSchoolTexts, List.filter_filter]
  congr 1
  apply List.filter_congr
  intro text htext
  by_cases hdrop : (splitThree text).any (fun p => p.2.1 = "school") = true
  · rw [isSchoolRoleString_of_dropped (htexts text htext) hdrop]
    simp
  · simp [hdrop]

theorem validateUcsschoolRoles_eq_true {texts : List String} (htexts : AllWellFormed texts) :
    validateUcsschoolRoles texts = true := by
  induction texts with
  | nil => rfl
  | cons text texts ih =>
    obtain ⟨d, hd⟩ := htexts text List.mem_cons_self
    have hrest : AllWellFormed texts := fun t h => htexts t (List.mem_cons_of_mem text h)
    simp only [validateUcsschoolRoles, getRoleInfo, hd.splitThree_eq]
    split
    · next heq => exact ih hrest
    · rfl
    · next heq =>
      split at heq
      · cases heq
      · cases heq

theorem roleStringsValid_eq_true {texts : List String} (htexts : AllWellFormed texts) :
    roleStringsValid texts = true := by
  apply List.all_eq_true.mpr
  intro text htext
  obtain ⟨d, hd⟩ := htexts text htext
  rw [hd.isSchoolRoleString_eq]
  rfl

theorem allWellFormed_dropSchoolTexts {texts : List String} (htexts : AllWellFormed texts) :
    AllWellFormed (dropSchoolTexts texts) := fun text h => htexts text (List.mem_of_mem_filter h)

section Requests

variable [Runtime] {dir : Directory}

theorem createUser_withoutSchool {ctx : CreateContext} {req : UserCreateModel}
    (htexts : AllWellFormed req.ucsschoolRoles) :
    createUser ctx { req with ucsschoolRoles := dropSchoolTexts req.ucsschoolRoles } =
      createUser ctx req := by
  have hdropped := allWellFormed_dropSchoolTexts htexts
  have hlib : UserCreateModel.libRoles
      { req with ucsschoolRoles := dropSchoolTexts req.ucsschoolRoles } = req.libRoles :=
    requestRoles_dropSchoolTexts htexts
  have hschools : UserCreateModel.libSchools
      { req with ucsschoolRoles := dropSchoolTexts req.ucsschoolRoles } = req.libSchools := rfl
  unfold createUser
  rw [hlib, hschools, require_of (validateUcsschoolRoles_eq_true htexts),
    require_of (validateUcsschoolRoles_eq_true hdropped),
    require_of (roleStringsValid_eq_true htexts), require_of (roleStringsValid_eq_true hdropped)]

theorem completeUpdate_withoutSchool {req : UserCreateModel} {u : UdmUser}
    (htexts : AllWellFormed req.ucsschoolRoles) :
    completeUpdate dir { req with ucsschoolRoles := dropSchoolTexts req.ucsschoolRoles } u =
      completeUpdate dir req u := by
  have hdropped := allWellFormed_dropSchoolTexts htexts
  have hset : ∀ v, UserCreateModel.setAll
      { req with ucsschoolRoles := dropSchoolTexts req.ucsschoolRoles } u v = req.setAll u v := by
    intro v
    simp only [UserCreateModel.setAll, UserCreateModel.libRoles, UserCreateModel.libSchools,
      requestRoles_dropSchoolTexts htexts]
  simp only [completeUpdate, hset, validateUcsschoolRoles_eq_true htexts,
    validateUcsschoolRoles_eq_true hdropped, roleStringsValid_eq_true htexts,
    roleStringsValid_eq_true hdropped]
  rfl

theorem partialUpdate_withoutSchool {req : PatchRequest} {u : UdmUser}
    (htexts : ∀ texts ∈ req.ucsschoolRoles, AllWellFormed texts) :
    partialUpdate dir { req with ucsschoolRoles := req.ucsschoolRoles.map dropSchoolTexts } u =
      partialUpdate dir req u := by
  cases hroles : req.ucsschoolRoles with
  | none =>
    have heq : { req with ucsschoolRoles := (none : Option (List String)).map dropSchoolTexts } =
        req := by
      rw [Option.map_none, ← hroles]
    rw [heq]
  | some texts =>
    have hwf := htexts texts hroles
    have hdropped := allWellFormed_dropSchoolTexts hwf
    rw [Option.map_some]
    have hset : ∀ v, PatchRequest.setAll
        { req with ucsschoolRoles := some (dropSchoolTexts texts) } v = req.setAll v := by
      intro v
      simp only [PatchRequest.setAll, hroles, keptRoles_dropSchoolTexts hwf]
      rfl
    have hchanges : ∀ v, PatchRequest.changes
        { req with ucsschoolRoles := some (dropSchoolTexts texts) } v = req.changes v := by
      intro v
      simp only [PatchRequest.changes, hset]
    simp only [partialUpdate, hset, hchanges, hroles, Option.all_some,
      roleStringsValid_eq_true hwf, roleStringsValid_eq_true hdropped]
    rfl

theorem accepted_withoutSchool {request : RoleRequest}
    (htexts : ∀ texts ∈ request.texts, AllWellFormed texts) (roles : List String) :
    request.withoutSchool.Accepted dir roles ↔ request.Accepted dir roles := by
  cases request with
  | post ctx req =>
    simp only [RoleRequest.withoutSchool, RoleRequest.Accepted,
      createUser_withoutSchool (htexts _ rfl)]
  | put req u =>
    simp only [RoleRequest.withoutSchool, RoleRequest.Accepted,
      completeUpdate_withoutSchool (htexts _ rfl)]
  | patch req u =>
    simp only [RoleRequest.withoutSchool, RoleRequest.Accepted, partialUpdate_withoutSchool htexts]

/-- A request that gives role strings, and leaves those that do not count as school role
strings. -/
theorem customRoles_given_iff {request : RoleRequest} {roles texts : List String}
    (hgiven : request.texts = some texts) (htexts : AllWellFormed texts)
    (hroles : ∀ d, CustomRole roles d ↔ CustomRole texts d ∧ ¬ CountsAsSchool d) :
    CustomRolesSurvive dir request roles ↔ ExamRolesKnown texts := by
  rw [← examRolesKnown_iff hroles]
  constructor
  · intro hsurvive
    exact hsurvive.given texts hgiven
  · intro hsame
    refine ⟨?_, ?_, ?_⟩
    · intro texts' htexts' d
      cases hgiven.symm.trans htexts'
      exact hsame d
    · apply accepted_withoutSchool
      intro texts' htexts'
      cases hgiven.symm.trans htexts'
      exact htexts
    · intro hnone
      cases hgiven.symm.trans hnone

/-- Custom role strings survive an accepted request if and only if the exam roles that it gives
are known and, for a `PATCH` without role strings, none has the school that is left as context. -/
theorem customRoles_survive_iff {request : RoleRequest} {roles : List String}
    (hstored : AllWellFormed request.stored)
    (htexts : ∀ texts ∈ request.texts, AllWellFormed texts)
    (h : request.Accepted dir roles) :
    CustomRolesSurvive dir request roles ↔ request.Keeps := by
  cases request with
  | post ctx req =>
    obtain ⟨new, hnew, rfl⟩ := h
    exact customRoles_given_iff rfl (htexts _ rfl) (customRole_createUser (htexts _ rfl) hnew)
  | put req u =>
    obtain ⟨after, hafter, rfl⟩ := h
    exact customRoles_given_iff rfl (htexts _ rfl)
      (customRole_completeUpdate hstored (htexts _ rfl) hafter)
  | patch req u =>
    obtain ⟨after, hafter, rfl⟩ := h
    have hmoved := @movedCustom_steps _ dir (.patch req) u hstored
    obtain ⟨hset, hcounts⟩ := customRole_partialUpdate hstored htexts hafter
    cases hroles : req.ucsschoolRoles with
    | some texts =>
      have hwf : AllWellFormed texts := htexts texts hroles
      have hcurrent : AllWellFormed (Action.saved (req.steps dir u) u).roles := hmoved.wellFormed
      have hrequest : (RoleRequest.patch req u).texts = some texts := hroles
      have hsetRoles : (req.setAll (Action.saved (req.steps dir u) u)).roles =
          keptRoles texts (Action.saved (req.steps dir u) u).roles := by
        simp only [PatchRequest.setAll, hroles]
        rfl
      have hgiven : ∀ d, CustomRole after.roles d ↔ CustomRole texts d ∧ ¬ CountsAsSchool d := by
        intro d
        have hkept : CustomRole after.roles d ↔ _ := hset d
        rw [hsetRoles, customRole_keptRoles hwf hcurrent] at hkept
        constructor
        · intro hd
          exact (hkept.mp hd).resolve_right (fun hcount => hcounts d hd hcount.2)
        · intro hd
          exact hkept.mpr (Or.inl hd)
      rw [customRoles_given_iff hrequest hwf hgiven]
      simp [RoleRequest.Keeps, hroles]
    | none =>
      have hkept : ∀ d, CustomRole after.roles d ↔
          CustomRole u.roles d ∧ (Moves u (req.newSchool u) → d.context ≠ u.school.name) := by
        intro d
        rw [hset d]
        have hsetRoles : (req.setAll (Action.saved (req.steps dir u) u)).roles =
            (Action.saved (req.steps dir u) u).roles := by
          simp only [PatchRequest.setAll, hroles]
          rfl
        rw [hsetRoles]
        exact hmoved.custom d
      constructor
      · intro hsurvive
        constructor
        · intro texts htexts'
          cases hroles.symm.trans htexts'
        · intro _ hmoves d hd
          exact ((hkept d).mp ((hsurvive.kept hroles d).mpr hd)).2 hmoves
      · rintro ⟨-, hleft⟩
        refine ⟨?_, accepted_withoutSchool htexts, fun _ d => ?_⟩
        · intro texts htexts'
          cases hroles.symm.trans htexts'
        · rw [hkept d]
          exact and_iff_left_of_imp fun hd hmoves => hleft hroles hmoves d hd

end Requests

section Concrete

attribute [local instance] asciiRuntime

theorem wellFormed_of_parts {text : String} {d : RoleDict} (h : text = d.text ∧
    (d.role ≠ "" ∧ d.contextType ≠ "" ∧ d.context ≠ "") ∧
    (':' ∉ d.role.toList ∧ ':' ∉ d.contextType.toList ∧ ':' ∉ d.context.toList) ∧
    '\n' ∉ text.toList) : WellFormed text d :=
  ⟨h.1, h.2.1, h.2.2.1, h.2.2.2⟩

theorem wellFormed_student : WellFormed "student:school:A" ⟨"student", "school", "A"⟩ :=
  wellFormed_of_parts (by decide)

theorem wellFormed_mentor : WellFormed "mentor:project:A" ⟨"mentor", "project", "A"⟩ :=
  wellFormed_of_parts (by decide)

/-- A student with a custom role string. -/
def mentor : UdmUser := { anna with roles := ["student:school:A", "mentor:project:A"] }

theorem allWellFormed_mentor : AllWellFormed mentor.roles := by
  intro text htext
  rcases List.mem_cons.mp htext with rfl | htext
  · exact ⟨_, wellFormed_student⟩
  · exact ⟨_, List.mem_singleton.mp htext ▸ wellFormed_mentor⟩

/-- A `PATCH` with nothing but role strings. -/
def patchRoles (texts : List String) : PatchRequest :=
  { name := none, school := none, schools := none, roles := none, schoolClasses := none,
    workgroups := none, ucsschoolRoles := some texts, attributes := [], references := true,
    schools_ne := noSchools_ne }

/-- A `PATCH` with nothing but the school `B`. -/
def patchSchool : PatchRequest :=
  { name := none, school := some ouNamedB, schools := none, roles := none, schoolClasses := none,
    workgroups := none, ucsschoolRoles := none, attributes := [], references := true,
    schools_ne := noSchools_ne }

theorem accepted_mentor : (RoleRequest.patch (patchRoles ["mentor:project:A"]) anna).Accepted
    bertDirectory ["mentor:project:A", "student:school:A"] := by
  refine ⟨(Action.run (partialUpdate bertDirectory (patchRoles ["mentor:project:A"]) anna) anna).2,
    ?_, ?_⟩
  · apply Prod.ext
    · decide
    · rfl
  · decide

theorem survive_mentor : CustomRolesSurvive bertDirectory
    (.patch (patchRoles ["mentor:project:A"]) anna) ["mentor:project:A", "student:school:A"] := by
  refine (customRoles_survive_iff ?_ ?_ accepted_mentor).mpr ⟨?_, ?_⟩
  · intro text htext
    exact ⟨_, List.mem_singleton.mp htext ▸ wellFormed_student⟩
  · rintro texts ⟨⟩ text htext
    exact ⟨_, List.mem_singleton.mp htext ▸ wellFormed_mentor⟩
  · rintro texts ⟨⟩
    have hknown : ∀ d ∈ rolesAsDicts ["mentor:project:A"], d.contextType ≠ "exam" := by
      decide
    exact fun d hd hexam => absurd hexam (hknown d hd)
  · intro hnone
    cases hnone

/-- A student that is moved from the school `A` loses the role string `mentor:project:A`. -/
theorem mentor_lost : ∃ dir request roles, AllWellFormed request.stored ∧ request.texts = none ∧
    RoleRequest.Accepted dir roles request ∧ ¬ CustomRolesSurvive dir request roles := by
  refine ⟨bertDirectory, .patch patchSchool mentor, ["student:school:B"], allWellFormed_mentor, rfl,
    ⟨(Action.run (partialUpdate bertDirectory patchSchool mentor) mentor).2, ?_, ?_⟩, ?_⟩
  · apply Prod.ext
    · decide
    · rfl
  · decide
  · intro hsurvive
    have hstored : CustomRole mentor.roles ⟨"mentor", "project", "A"⟩ := by
      constructor
      · decide
      · decide
    have hafter := (hsurvive.kept rfl _).mpr hstored
    have hnone : (⟨"mentor", "project", "A"⟩ : RoleDict) ∉ rolesAsDicts ["student:school:B"] := by
      decide
    exact hnone hafter.1

end Concrete

end Kelvin
