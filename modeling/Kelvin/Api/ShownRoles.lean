import Kelvin.Lib.RoleParsers

/-!
# The roles of the v1 user resource

The lib stores role strings that `RolesSyntax` accepts. The v1 user resource reads them with
`get_role_info`, and knows the roles of users only.

* `isSchoolRole`, `readLibRole`: `_is_school_role_string` and `from_lib_role`, with what they raise.
* `userRoles`: the roles of the resource.
* `splitThree_of_rolesRegex`: a text with two colons is read by both in the same way.
* `showsSchoolRoles_iff`: the lists whose school roles are shown.
-/

namespace Kelvin

/-- What the computation of the roles raises. -/
inductive RolesExc where
  | invalidUcsschoolRoleString (message : String)
  | httpException (status : Nat) (detail : String)
deriving DecidableEq

section Reading

variable [Runtime]

/-- The messages of `get_role_info`. -/
def RoleStringError.message (text : String) : RoleStringError → String
  | .invalidUcsschoolRoleString => "Invalid UCS@school role string: " ++ Runtime.repr text ++ "."
  | .unknownRole =>
    "The role string " ++ Runtime.repr text ++ " includes the unknown role " ++
      Runtime.repr (String.ofList (text.toList.takeWhile (· ≠ ':'))) ++ "."

/-- `_is_school_role_string`. -/
def isSchoolRole (text : String) : Except RolesExc Bool :=
  match getRoleInfo text with
  | .ok (_, contextType, _) => .ok (contextType = "school")
  | .error .unknownRole => .ok true
  | .error e => .error (.invalidUcsschoolRoleString (e.message text))

/-- The user role that the name of a role stands for. -/
def userRole (role : String) : Option SchoolUserRole :=
  if role ∈ ["exam_user", "student"] then some .student
  else if role = "teacher" then some .teacher
  else if role = "legal_guardian" then some .legalGuardian
  else if role = "staff" then some .staff
  else if role = "school_admin" then some .schoolAdmin
  else none

/-- `from_lib_role`. -/
def readLibRole (text : String) : Except RolesExc SchoolUserRole :=
  match getRoleInfo text with
  | .error e => .error (.httpException 500 (e.message text))
  | .ok (role, _, _) =>
    match userRole role with
    | some r => .ok r
    | none =>
      .error (.httpException 500 ("Unknown UCS@school role " ++ Runtime.repr text ++ "."))

/-- The comprehension, in the order of the role strings. -/
def collectRoles : List String → Except RolesExc (List SchoolUserRole)
  | [] => .ok []
  | text :: texts => do
    if ← isSchoolRole text then
      let role ← readLibRole text
      let roles ← collectRoles texts
      .ok (role :: roles)
    else collectRoles texts

/-- The roles of the resource, each once and in the order of their names. -/
def userRoles (texts : List String) : Except RolesExc (List SchoolUserRole) := do
  let roles ← collectRoles texts
  .ok (roles.dedup.insertionSort (fun r r' => r.name ≤ r'.name))

/-- Nothing is raised, and the roles are those of the strings that the syntax reads with the context
type `school`. -/
def ShowsSchoolRoles (texts : List String) : Prop :=
  ∃ roles, userRoles texts = .ok roles ∧ roles.Nodup ∧ ∀ r, r ∈ roles ↔
    ∃ text ∈ texts, ∃ d, rolesRegex text = some d ∧ d.contextType = "school" ∧
      userRole d.role = some r

end Reading

/-- A role string with two colons. In a school its role is one of users, and in an exam it is a known
one. -/
structure Showable (text : String) : Prop where
  colons : text.toList.count ':' = 2
  school : ∀ d, rolesRegex text = some d → d.contextType = "school" → d.role ∈
    ["student", "exam_user", "teacher", "legal_guardian", "staff", "school_admin"]
  exam : ∀ d, rolesRegex text = some d → d.contextType = "exam" → d.role ∈ allRoles

/-! ## The two readings of a role string -/

theorem userRole_isSome {role : String} : (userRole role).isSome = true ↔ role ∈
    ["student", "exam_user", "teacher", "legal_guardian", "staff", "school_admin"] := by
  unfold userRole
  simp only [List.mem_cons, List.not_mem_nil, or_false]
  constructor
  · intro h
    split at h
    · next hrole => exact hrole.elim (fun h => .inr (.inl h)) .inl
    · split at h
      · next hrole => exact .inr (.inr (.inl hrole))
      · split at h
        · next hrole => exact .inr (.inr (.inr (.inl hrole)))
        · split at h
          · next hrole => exact .inr (.inr (.inr (.inr (.inl hrole))))
          · split at h
            · next hrole => exact .inr (.inr (.inr (.inr (.inr hrole))))
            · cases h
  · rintro (rfl | rfl | rfl | rfl | rfl | rfl) <;> rfl

theorem mem_allRoles_of_user {role : String} (h : (userRole role).isSome = true) :
    role ∈ allRoles := by
  have hmem := userRole_isSome.mp h
  have hall : ∀ role ∈ ["student", "exam_user", "teacher", "legal_guardian", "staff",
      "school_admin"], role ∈ allRoles := by
    decide
  exact hall role hmem

/-- The text that the expression reads, and a line feed after it. -/
theorem exists_lineEnd {text : String} {d : RoleDict} (h : rolesRegex text = some d) :
    ∃ tail, ':' ∉ tail ∧ text.toList = d.text.toList ++ tail := by
  unfold rolesRegex at h
  split at h
  · cases h
  · have hbody : d.text.toList = regexBody text := by
      rw [matchReversed_eq_some h, List.reverse_reverse]
    rw [hbody]
    unfold regexBody
    split
    · next hlast => exact ⟨['\n'], by decide, (List.dropLast_append_getLast? _ hlast).symm⟩
    · exact ⟨[], List.not_mem_nil, (List.append_nil _).symm⟩

/-- A text with two colons that the syntax reads splits into the same parts. -/
theorem splitThree_of_rolesRegex {text : String} {d : RoleDict} (h : rolesRegex text = some d)
    (hcolons : text.toList.count ':' = 2) :
    ∃ context, splitThree text = some (d.role, d.contextType, context) := by
  obtain ⟨tail, htail, htext⟩ := exists_lineEnd h
  have hsign : (":" : String).toList.count ':' = 1 := by decide
  have hcount := hcolons
  rw [htext, List.count_append, List.count_eq_zero_of_not_mem htail] at hcount
  simp only [RoleDict.text, roleText, String.toList_append, List.count_append, hsign] at hcount
  have hparts : ':' ∉ d.role.toList ∧ ':' ∉ d.contextType.toList ∧ ':' ∉ d.context.toList := by
    simp only [← List.count_eq_zero]
    omega
  refine ⟨d.context ++ String.ofList tail, splitThree_eq_some.mpr ⟨?_, hparts.1, hparts.2.1, ?_⟩⟩
  · rw [← String.toList_inj, htext]
    simp [RoleDict.text, roleText]
  · rw [String.toList_append, String.toList_ofList, List.mem_append, not_or]
    exact ⟨hparts.2.2, htail⟩

/-! ## One role string -/

section Text

variable [Runtime] {text : String}

/-- `_is_school_role_string` does not raise, and nor does `from_lib_role` for a school role. -/
def Reads (text : String) : Prop :=
  ∃ isSchool, isSchoolRole text = .ok isSchool ∧ (isSchool = true → ∃ r, readLibRole text = .ok r)

theorem readLibRole_eq_ok {role contextType context : String} {r : SchoolUserRole}
    (hsplit : splitThree text = some (role, contextType, context)) :
    readLibRole text = .ok r ↔ RoleKnown role contextType ∧ userRole role = some r := by
  unfold readLibRole
  by_cases hknown : RoleKnown role contextType
  · rw [getRoleInfo_eq_ok.mpr ⟨hsplit, hknown⟩]
    dsimp only
    cases userRole role with
    | none => simp [hknown]
    | some r' => simp [hknown]
  · obtain ⟨e, he⟩ := getRoleInfo_eq_error hsplit hknown
    rw [he]
    simp [hknown]

theorem isSchoolRole_eq {role contextType context : String}
    (hsplit : splitThree text = some (role, contextType, context)) :
    isSchoolRole text =
      .ok (decide (contextType = "school" ∨ ¬ RoleKnown role contextType)) := by
  unfold isSchoolRole
  by_cases hknown : RoleKnown role contextType
  · rw [getRoleInfo_eq_ok.mpr ⟨hsplit, hknown⟩]
    simp [hknown]
  · have hunknown : getRoleInfo text = .error .unknownRole := by
      unfold RoleKnown allContextTypes at hknown
      unfold getRoleInfo
      rw [hsplit]
      exact if_pos (Classical.not_imp.mp hknown)
    rw [hunknown]
    simp [hknown]

theorem reads_of_none (h : splitThree text = none) : ¬ Reads text := by
  have hinvalid : getRoleInfo text = .error .invalidUcsschoolRoleString := by
    rw [getRoleInfo, h]
  rintro ⟨isSchool, hschool, -⟩
  rw [isSchoolRole, hinvalid] at hschool
  cases hschool

theorem reads_iff_of_splitThree {role contextType context : String}
    (hsplit : splitThree text = some (role, contextType, context)) :
    Reads text ↔ (contextType = "school" → (userRole role).isSome = true) ∧
      RoleKnown role contextType := by
  unfold Reads
  simp only [isSchoolRole_eq hsplit, readLibRole_eq_ok hsplit, Except.ok.injEq, exists_eq_left',
    decide_eq_true_eq, Option.isSome_iff_exists]
  constructor
  · intro h
    have hknown : RoleKnown role contextType := by
      by_contra hnot
      obtain ⟨r, hknown, -⟩ := h (.inr hnot)
      exact hnot hknown
    exact ⟨fun hschool => (h (.inl hschool)).imp (fun r hr => hr.2), hknown⟩
  · rintro ⟨huser, hknown⟩ (hschool | hnot)
    · exact (huser hschool).imp (fun r hr => ⟨hknown, hr⟩)
    · exact absurd hknown hnot

omit [Runtime] in
/-- A text with two colons that the syntax accepts is read by its expression. -/
theorem exists_regex (hparse : (RolesSyntax.parse text).isOk = true)
    (hcolons : text.toList.count ':' = 2) : ∃ d, rolesRegex text = some d := by
  have hne : text ≠ "" := by
    rintro rfl
    cases hcolons
  cases hregex : rolesRegex text with
  | none =>
    rw [RolesSyntax.parse, if_neg hne, hregex] at hparse
    cases hparse
  | some d => exact ⟨d, rfl⟩

/-- The resource reads a role string that the syntax accepts if and only if it can be shown. -/
theorem reads_iff (hparse : (RolesSyntax.parse text).isOk = true) : Reads text ↔ Showable text := by
  by_cases hcolons : text.toList.count ':' = 2
  · obtain ⟨d, hregex⟩ := exists_regex hparse hcolons
    obtain ⟨context, hsplit⟩ := splitThree_of_rolesRegex hregex hcolons
    rw [reads_iff_of_splitThree hsplit, userRole_isSome]
    constructor
    · rintro ⟨huser, hknown⟩
      refine ⟨hcolons, fun e he hschool => ?_, fun e he hexam => ?_⟩
      · obtain rfl := Option.some.inj (hregex.symm.trans he)
        exact huser hschool
      · obtain rfl := Option.some.inj (hregex.symm.trans he)
        refine hknown ?_
        rw [hexam]
        decide
    · intro hshow
      refine ⟨hshow.school d hregex, fun htype => ?_⟩
      unfold allContextTypes at htype
      simp only [List.mem_cons, List.not_mem_nil, or_false] at htype
      rcases htype with hschool | hexam
      · exact mem_allRoles_of_user (userRole_isSome.mpr (hshow.school d hregex hschool))
      · exact hshow.exam d hregex hexam
  · have hnone : splitThree text = none := by
      by_contra hsome
      exact hcolons (splitThree_ne_none_iff.mp hsome)
    exact iff_of_false (reads_of_none hnone) (fun hshow => hcolons hshow.colons)

/-- The role that is shown for a role string. -/
theorem shown_iff (hparse : (RolesSyntax.parse text).isOk = true) (hshow : Showable text)
    {r : SchoolUserRole} : (isSchoolRole text = .ok true ∧ readLibRole text = .ok r) ↔
      ∃ d, rolesRegex text = some d ∧ d.contextType = "school" ∧ userRole d.role = some r := by
  obtain ⟨d, hregex⟩ := exists_regex hparse hshow.colons
  obtain ⟨context, hsplit⟩ := splitThree_of_rolesRegex hregex hshow.colons
  obtain ⟨-, hknown⟩ := (reads_iff_of_splitThree hsplit).mp ((reads_iff hparse).mpr hshow)
  simp only [isSchoolRole_eq hsplit, readLibRole_eq_ok hsplit, hregex, Except.ok.injEq,
    decide_eq_true_eq, hknown, not_true_eq_false, or_false, true_and, Option.some.injEq,
    exists_eq_left']

end Text

/-! ## The list -/

section List

variable [Runtime] {texts : List String}

theorem collectRoles_eq_ok {roles : List SchoolUserRole} (h : collectRoles texts = .ok roles) :
    (∀ text ∈ texts, Reads text) ∧ ∀ r, r ∈ roles ↔
      ∃ text ∈ texts, isSchoolRole text = .ok true ∧ readLibRole text = .ok r := by
  induction texts generalizing roles with
  | nil =>
    cases h
    exact ⟨fun text htext => (nomatch htext), fun r => by simp⟩
  | cons text texts ih =>
    rw [collectRoles] at h
    obtain ⟨isSchool, hschool, h⟩ := bind_eq_ok.mp h
    cases isSchool with
    | false =>
      obtain ⟨hreads, hmem⟩ := ih h
      refine ⟨List.forall_mem_cons.mpr ⟨⟨false, hschool, fun h => (nomatch h)⟩, hreads⟩, fun r => ?_⟩
      rw [hmem, List.exists_mem_cons_iff, hschool]
      simp
    | true =>
      obtain ⟨role, hrole, h⟩ := bind_eq_ok.mp h
      obtain ⟨rest, hrest, h⟩ := bind_eq_ok.mp h
      obtain rfl := Except.ok.inj h
      obtain ⟨hreads, hmem⟩ := ih hrest
      refine ⟨List.forall_mem_cons.mpr ⟨⟨true, hschool, fun _ => ⟨role, hrole⟩⟩, hreads⟩, fun r => ?_⟩
      rw [List.mem_cons, hmem, List.exists_mem_cons_iff, hschool, hrole]
      simp [eq_comm]

theorem exists_collectRoles (h : ∀ text ∈ texts, Reads text) :
    ∃ roles, collectRoles texts = .ok roles := by
  induction texts with
  | nil => exact ⟨[], rfl⟩
  | cons text texts ih =>
    obtain ⟨⟨isSchool, hschool, hrole⟩, htexts⟩ := List.forall_mem_cons.mp h
    obtain ⟨roles, hroles⟩ := ih htexts
    rw [collectRoles, hschool]
    cases isSchool with
    | false => exact ⟨roles, hroles⟩
    | true =>
      obtain ⟨r, hr⟩ := hrole rfl
      refine ⟨r :: roles, ?_⟩
      rw [hr, hroles]
      rfl

/-- The roles of a list of role strings that the syntax accepts are shown if and only if each of them
can be shown. -/
theorem showsSchoolRoles_iff (hparse : ∀ text ∈ texts, (RolesSyntax.parse text).isOk = true) :
    ShowsSchoolRoles texts ↔ ∀ text ∈ texts, Showable text := by
  constructor
  · rintro ⟨roles, hroles, -⟩ text htext
    obtain ⟨collected, hcollected, -⟩ := bind_eq_ok.mp hroles
    exact (reads_iff (hparse text htext)).mp ((collectRoles_eq_ok hcollected).1 text htext)
  · intro hshow
    obtain ⟨collected, hcollected⟩ := exists_collectRoles
      (fun text htext => (reads_iff (hparse text htext)).mpr (hshow text htext))
    refine ⟨_, bind_eq_ok.mpr ⟨collected, hcollected, rfl⟩, ?_, fun r => ?_⟩
    · exact (List.perm_insertionSort _ _).nodup_iff.mpr (List.nodup_dedup _)
    · rw [List.mem_insertionSort, List.mem_dedup, (collectRoles_eq_ok hcollected).2]
      constructor
      · rintro ⟨text, htext, hread⟩
        exact ⟨text, htext, (shown_iff (hparse text htext) (hshow text htext)).mp hread⟩
      · rintro ⟨text, htext, hread⟩
        exact ⟨text, htext, (shown_iff (hparse text htext) (hshow text htext)).mpr hread⟩

end List

section Concrete

attribute [local instance] asciiRuntime

theorem showsSchoolRoles_examUser :
    ShowsSchoolRoles ["exam_user:school:A", "student:exam:math", "guest:library:A"] ↔
      ∀ text ∈ ["exam_user:school:A", "student:exam:math", "guest:library:A"], Showable text :=
  showsSchoolRoles_iff (by decide)

/-- A role that is known only in its exam is taken for one of a school. -/
theorem examRole_raises : (∀ text ∈ ["guest:exam:math"], (RolesSyntax.parse text).isOk = true) ∧
    ¬ ShowsSchoolRoles ["guest:exam:math"] := by
  refine ⟨by decide, ?_⟩
  rintro ⟨roles, hroles, -⟩
  cases hroles

end Concrete

end Kelvin
