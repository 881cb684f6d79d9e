import Kelvin.Api.UserUpdate

/-!
# Custom role strings in the parts of a request

The role strings of other context types than `school` are the custom ones. A request passes its
list through several routines: it is filtered, merged with the present one, rewritten by a move
or a conversion, and brought in step with the schools.

* `CustomRole`: the custom role strings of a list.
* `customRole_requestRoles`, `customRole_keptRoles`: what a request passes on.
* `customRole_updateUcsschoolRoles`, `customRole_createRoles`, `customRole_convertedRoles`: these
  keep custom role strings.
* `customRole_doMoveRoles`: a move drops those of the old school.
-/

namespace Kelvin

/-! ## Custom role strings -/

/-- A role string of another context type than `school` is in the list. -/
def CustomRole (roles : List String) (d : RoleDict) : Prop :=
  d ∈ rolesAsDicts roles ∧ d.contextType ≠ "school"

/-- The strings are well-formed role strings. -/
def AllWellFormed (roles : List String) : Prop := ∀ text ∈ roles, ∃ d, WellFormed text d

theorem mem_rolesAsDicts_iff {roles : List String} (hroles : AllWellFormed roles) {d : RoleDict} :
    d ∈ rolesAsDicts roles ↔ ∃ text ∈ roles, WellFormed text d := by
  rw [rolesAsDicts, List.mem_filterMap]
  constructor
  · rintro ⟨text, htext, hread⟩
    obtain ⟨e, he⟩ := hroles text htext
    rw [he.rolesRegex_eq, Option.some.injEq] at hread
    exact ⟨text, htext, hread ▸ he⟩
  · rintro ⟨text, htext, hd⟩
    exact ⟨text, htext, hd.rolesRegex_eq⟩

/-- A role string of the lib in a school is well formed. -/
theorem wellFormed_roleText {role : String} (school : Ou) (hne : role ≠ "")
    (hcolon : ':' ∉ role.toList) (hline : '\n' ∉ role.toList) :
    WellFormed (roleText role "school" school.name) ⟨role, "school", school.name⟩ := by
  have hschool : "school" ≠ "" ∧ ':' ∉ "school".toList := by decide
  have hcolon' : ':' ∉ school.name.toList := Ou.not_mem (by decide) (by decide) (by decide)
  have hline' : '\n' ∉ school.name.toList := Ou.not_mem (by decide) (by decide) (by decide)
  refine ⟨rfl, ⟨hne, hschool.1, school.name_ne_empty⟩, ⟨hcolon, hschool.2, hcolon'⟩, ?_⟩
  simp [roleText, hline, hline']

/-- The string is a well-formed school role string. -/
def SchoolText (text : String) : Prop := ∃ d, WellFormed text d ∧ d.contextType = "school"

theorem schoolText_asLibRole (role : SchoolUserRole) (school : Ou) :
    SchoolText (role.asLibRole school) := by
  have hname : role.name ≠ "" ∧ ':' ∉ role.name.toList ∧ '\n' ∉ role.name.toList := by
    cases role <;> decide
  exact ⟨_, wellFormed_roleText school hname.1 hname.2.1 hname.2.2, rfl⟩

theorem schoolText_default {cls : UserClass} {school : Ou} {role : String}
    (h : role ∈ cls.defaultRoles) : SchoolText (roleText role "school" school.name) := by
  have hrole : role ≠ "" ∧ ':' ∉ role.toList ∧ '\n' ∉ role.toList := by
    revert role
    cases cls <;> decide
  exact ⟨_, wellFormed_roleText school hrole.1 hrole.2.1 hrole.2.2, rfl⟩

theorem not_customRole_of_schoolTexts {roles : List String} (h : ∀ text ∈ roles, SchoolText text)
    (d : RoleDict) : ¬ CustomRole roles d := by
  rintro ⟨hd, htype⟩
  obtain ⟨text, htext, hread⟩ := List.mem_filterMap.mp hd
  obtain ⟨e, he, hschool⟩ := h text htext
  rw [he.rolesRegex_eq, Option.some.injEq] at hread
  exact htype (hread ▸ hschool)

theorem customRole_append {xs ys : List String} {d : RoleDict} :
    CustomRole (xs ++ ys) d ↔ CustomRole xs d ∨ CustomRole ys d := by
  simp only [CustomRole, rolesAsDicts, List.filterMap_append, List.mem_append, or_and_right]

/-! ## What the parts of a request do with them -/

theorem mem_addText {p : Prop} [Decidable p] {texts : List String} {text new : String} :
    text ∈ (if p ∧ new ∉ texts then texts ++ [new] else texts) ↔
      text ∈ texts ∨ text = new ∧ p := by
  by_cases hp : p
  · by_cases hnew : new ∈ texts
    · rw [if_neg (fun h => h.2 hnew)]
      exact (or_iff_left_of_imp (fun h => h.1 ▸ hnew)).symm
    · rw [if_pos ⟨hp, hnew⟩, List.mem_append, List.mem_singleton, and_iff_left hp]
  · rw [if_neg (fun h => hp h.1)]
    exact (or_iff_left (fun h => hp h.2)).symm

theorem mem_requestRoles {roles : List SchoolUserRole} {schools : List Ou} {texts : List String}
    {text : String} : text ∈ requestRoles roles schools texts ↔
      (text ∈ roles.flatMap (fun role => schools.map (fun school => role.asLibRole school))) ∨
        text ∈ texts ∧ isSchoolRoleString text = some false := by
  unfold requestRoles
  generalize roles.flatMap (fun role => schools.map (fun school => role.asLibRole school)) = own
  induction texts generalizing own with
  | nil => simp
  | cons first texts ih =>
    rw [List.foldl_cons, ih, mem_addText, List.mem_cons]
    constructor
    · rintro ((h | ⟨rfl, hschool⟩) | ⟨h, hschool⟩)
      · exact Or.inl h
      · exact Or.inr ⟨Or.inl rfl, hschool⟩
      · exact Or.inr ⟨Or.inr h, hschool⟩
    · rintro (h | ⟨rfl | h, hschool⟩)
      · exact Or.inl (Or.inl h)
      · exact Or.inl (Or.inr ⟨rfl, hschool⟩)
      · exact Or.inr ⟨h, hschool⟩

theorem allWellFormed_requestRoles {roles : List SchoolUserRole} {schools : List Ou}
    {texts : List String} (htexts : AllWellFormed texts) :
    AllWellFormed (requestRoles roles schools texts) := by
  intro text h
  rcases mem_requestRoles.mp h with h | ⟨h, -⟩
  · obtain ⟨role, -, h⟩ := List.mem_flatMap.mp h
    obtain ⟨school, -, rfl⟩ := List.mem_map.mp h
    obtain ⟨d, hd, -⟩ := schoolText_asLibRole role school
    exact ⟨d, hd⟩
  · exact htexts text h

/-- A request passes on its custom role strings except for those that count as school role
strings. -/
theorem customRole_requestRoles {roles : List SchoolUserRole} {schools : List Ou}
    {texts : List String} (htexts : AllWellFormed texts) {d : RoleDict} :
    CustomRole (requestRoles roles schools texts) d ↔ CustomRole texts d ∧ ¬ CountsAsSchool d := by
  rw [CustomRole, CustomRole, mem_rolesAsDicts_iff (allWellFormed_requestRoles htexts),
    mem_rolesAsDicts_iff htexts]
  constructor
  · rintro ⟨⟨text, htext, hd⟩, htype⟩
    rcases mem_requestRoles.mp htext with h | ⟨h, hschool⟩
    · obtain ⟨role, -, h⟩ := List.mem_flatMap.mp h
      obtain ⟨school, -, rfl⟩ := List.mem_map.mp h
      obtain ⟨e, he, heq⟩ := schoolText_asLibRole role school
      exact absurd (hd.unique he ▸ heq) htype
    · rw [hd.isSchoolRoleString_eq, Option.some.injEq, decide_eq_false_iff_not] at hschool
      exact ⟨⟨⟨text, h, hd⟩, htype⟩, hschool⟩
  · rintro ⟨⟨⟨text, htext, hd⟩, htype⟩, hcounts⟩
    refine ⟨⟨text, mem_requestRoles.mpr (Or.inr ⟨htext, ?_⟩), hd⟩, htype⟩
    rw [hd.isSchoolRoleString_eq, Option.some.injEq, decide_eq_false_iff_not]
    exact hcounts

/-- A `PATCH` passes on its custom role strings except for those that count as school role
strings, and the present ones that do. -/
theorem customRole_keptRoles {texts current : List String} (htexts : AllWellFormed texts)
    (hcurrent : AllWellFormed current) {d : RoleDict} :
    CustomRole (keptRoles texts current) d ↔
      (CustomRole texts d ∧ ¬ CountsAsSchool d) ∨ (CustomRole current d ∧ CountsAsSchool d) := by
  have hfilter : ∀ (roles : List String) (b : Bool), AllWellFormed roles →
      (CustomRole (roles.filter (fun text => isSchoolRoleString text = some b)) d ↔
        CustomRole roles d ∧ decide (CountsAsSchool d) = b) := by
    intro roles b hroles
    have hsub : AllWellFormed (roles.filter (fun text => isSchoolRoleString text = some b)) :=
      fun text h => hroles text (List.mem_of_mem_filter h)
    rw [CustomRole, CustomRole, mem_rolesAsDicts_iff hsub, mem_rolesAsDicts_iff hroles]
    simp only [List.mem_filter, decide_eq_true_eq]
    constructor
    · rintro ⟨⟨text, ⟨htext, hschool⟩, hd⟩, htype⟩
      rw [hd.isSchoolRoleString_eq, Option.some.injEq] at hschool
      exact ⟨⟨⟨text, htext, hd⟩, htype⟩, hschool⟩
    · rintro ⟨⟨⟨text, htext, hd⟩, htype⟩, hcounts⟩
      refine ⟨⟨text, ⟨htext, ?_⟩, hd⟩, htype⟩
      rw [hd.isSchoolRoleString_eq, hcounts]
  rw [keptRoles, customRole_append, hfilter texts false htexts, hfilter current true hcurrent,
    decide_eq_false_iff_not, decide_eq_true_eq]

theorem customRole_updateUcsschoolRoles {cls : UserClass} {roles : List String}
    {schools : List Ou} {d : RoleDict} :
    CustomRole (updateUcsschoolRoles cls roles schools) d ↔ CustomRole roles d := by
  refine and_congr_left fun htype => ?_
  rw [mem_updateUcsschoolRoles, and_iff_left (fun h => htype h.1)]
  refine or_iff_left ?_
  rintro ⟨s, -, -, hd⟩
  exact htype (mem_defaultDicts hd).1

theorem customRole_createRoles {cls : UserClass} {roles : List String} {schools : List Ou}
    {d : RoleDict} : CustomRole (createRoles cls roles schools) d ↔ CustomRole roles d := by
  refine and_congr_left fun htype => ?_
  rw [mem_createRoles]
  refine or_iff_left ?_
  rintro ⟨-, s, -, hd⟩
  exact htype (mem_defaultDicts hd).1

/-- A move drops the custom role strings whose context is the old school. -/
theorem customRole_doMoveRoles {cls : UserClass} {roles : List String} {oldSchool newSchool : Ou}
    {d : RoleDict} : CustomRole (doMoveRoles cls roles oldSchool newSchool) d ↔
      CustomRole roles d ∧ d.context ≠ oldSchool.name := by
  rw [CustomRole, CustomRole, mem_rolesAsDicts_doMoveRoles]
  constructor
  · rintro ⟨hd | ⟨hd, htype, hctx⟩, htype'⟩
    · exact absurd (mem_defaultDicts hd).1 htype'
    · exact ⟨⟨hd, htype⟩, hctx⟩
  · rintro ⟨⟨hd, htype⟩, hctx⟩
    exact ⟨Or.inr ⟨hd, htype, hctx⟩, htype⟩

theorem customRole_makeUcsschoolRoles {cls : UserClass} {roles : List String} {schools : List Ou}
    {d : RoleDict} : CustomRole (makeUcsschoolRoles cls roles schools) d ↔ CustomRole roles d := by
  unfold makeUcsschoolRoles
  split
  · next hnil =>
    subst hnil
    apply iff_of_false
    · apply not_customRole_of_schoolTexts
      intro text htext
      obtain ⟨role, hrole, htext⟩ := List.mem_flatMap.mp htext
      obtain ⟨s, -, rfl⟩ := List.mem_map.mp htext
      exact schoolText_default hrole
    · exact fun h => List.not_mem_nil h.1
  · rfl

theorem allWellFormed_doMoveRoles {cls : UserClass} {roles : List String}
    {oldSchool newSchool : Ou} (hroles : AllWellFormed roles) :
    AllWellFormed (doMoveRoles cls roles oldSchool newSchool) := by
  intro text htext
  rw [doMoveRoles_eq] at htext
  obtain ⟨d, hd, rfl⟩ := List.mem_map.mp htext
  rcases List.mem_append.mp hd with hd | hd
  · obtain ⟨role, hrole, rfl⟩ := List.mem_map.mp hd
    obtain ⟨e, he, -⟩ := schoolText_default hrole
    exact ⟨e, he⟩
  · obtain ⟨text, -, he⟩ := (mem_rolesAsDicts_iff hroles).mp (List.mem_of_mem_filter hd)
    exact ⟨d, he.text_eq ▸ he⟩

/-- The lib's prefix of a school role string is found at school role strings only. -/
theorem schoolText_of_startsWith {text role : String} {d : RoleDict} (hd : WellFormed text d)
    (hrole : ':' ∉ role.toList) (h : startsWith text (role ++ ":school:") = true) :
    d.contextType = "school" := by
  obtain ⟨rest, hrest⟩ := startsWith_iff.mp h
  have htext : d.role.toList ++ ':' :: (d.contextType.toList ++ ':' :: d.context.toList) =
      role.toList ++ ':' :: ("school".toList ++ ':' :: rest) := by
    rw [hd.text_eq] at hrest
    simpa [RoleDict.text, roleText] using hrest.symm
  have hschool : ':' ∉ "school".toList := by decide
  have htail := (Text.append_sep_inj hd.colon.1 hrole htext).2
  have htype := (Text.append_sep_inj hd.colon.2.1 hschool htail).1
  exact String.toList_inj.mp htype

theorem customRole_congr {xs ys : List String} (h : ∀ text, text ∈ xs ↔ text ∈ ys)
    (d : RoleDict) : CustomRole xs d ↔ CustomRole ys d := by
  simp only [CustomRole, rolesAsDicts, List.mem_filterMap, h]

/-- A conversion keeps the custom role strings: it removes school role strings only. -/
theorem customRole_convertedRoles {target : UserClass} {roles : List String} {schools : List Ou}
    (hroles : AllWellFormed roles) {d : RoleDict} :
    CustomRole (convertedRoles target roles schools) d ↔ CustomRole roles d := by
  have hrm : ∀ role ∈ target.rolesRm, ':' ∉ role.toList := by
    cases target <;> decide
  have hadd : ∀ role ∈ target.rolesAdd, role ≠ "" ∧ ':' ∉ role.toList ∧ '\n' ∉ role.toList := by
    cases target <;> decide
  unfold convertedRoles
  extract_lets kept added
  have hadded : ¬ CustomRole added d := by
    apply not_customRole_of_schoolTexts
    intro text htext
    obtain ⟨role, hrole, htext⟩ := List.mem_flatMap.mp htext
    obtain ⟨s, -, rfl⟩ := List.mem_map.mp htext
    obtain ⟨hne, hcolon, hline⟩ := hadd role hrole
    exact ⟨_, wellFormed_roleText s hne hcolon hline, rfl⟩
  have hkept : CustomRole kept d ↔ CustomRole roles d := by
    have hsub : AllWellFormed kept := fun text h => hroles text (List.mem_of_mem_filter h)
    refine and_congr_left fun htype => ?_
    rw [mem_rolesAsDicts_iff hsub, mem_rolesAsDicts_iff hroles]
    constructor
    · rintro ⟨text, htext, hd⟩
      exact ⟨text, List.mem_of_mem_filter htext, hd⟩
    · rintro ⟨text, htext, hd⟩
      refine ⟨text, List.mem_filter.mpr ⟨htext, ?_⟩, hd⟩
      rw [decide_eq_true_eq, List.any_eq_true]
      rintro ⟨role, hrole, hstarts⟩
      exact htype (schoolText_of_startsWith hd (hrm role hrole) hstarts)
  have hmem : ∀ text, text ∈ sortedTexts (kept ++ added).dedup ↔ text ∈ kept ++ added := by
    intro text
    rw [sortedTexts, List.mem_insertionSort, List.mem_dedup]
  rw [customRole_congr hmem, customRole_append, hkept]
  exact or_iff_left hadded

theorem allWellFormed_convertedRoles {target : UserClass} {roles : List String}
    {schools : List Ou} (hroles : AllWellFormed roles) :
    AllWellFormed (convertedRoles target roles schools) := by
  have hadd : ∀ role ∈ target.rolesAdd, role ≠ "" ∧ ':' ∉ role.toList ∧ '\n' ∉ role.toList := by
    cases target <;> decide
  intro text htext
  rw [convertedRoles, sortedTexts, List.mem_insertionSort, List.mem_dedup, List.mem_append] at htext
  rcases htext with htext | htext
  · exact hroles text (List.mem_of_mem_filter htext)
  · obtain ⟨role, hrole, htext⟩ := List.mem_flatMap.mp htext
    obtain ⟨s, -, rfl⟩ := List.mem_map.mp htext
    obtain ⟨hne, hcolon, hline⟩ := hadd role hrole
    exact ⟨_, wellFormed_roleText s hne hcolon hline⟩

end Kelvin
