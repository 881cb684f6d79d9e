import Kelvin.Lib.RoleOperations
import Kelvin.Api.CustomRoles

/-!
# The parsers of role strings

Three packages read role strings: the lib in `get_role_info`, UDM in `RolesSyntax`, and the
connector. The lib and the connector split at the colons, UDM matches a regular expression.
Only the lib and UDM know the roles.

* `createUcsschoolRoleString`: the writer of the lib.
* `RolesSyntax.parse`: the syntax of the attribute.
* `roleParsers_agree`: the strings on which the parsers agree, and the round trip of the lib.

Strings with more than two colons and strings with line feeds are left out of the last result
for `RolesSyntax`, and so are unknown roles in an exam.
-/

namespace Kelvin

/-- `all_context_types`. -/
def allContextTypes : List String := ["school", "exam"]

/-- `"{}".format` of an optional text. -/
def optionalText : Option String → String
  | some text => text
  | none => "None"

/-- `create_ucsschool_role_string`. -/
def createUcsschoolRoleString (role context : String) (contextType school : Option String) :
    Except RoleStringError String :=
  if optionalText contextType ∈ allContextTypes then
    if role ∉ allRoles then .error .unknownRole
    else
      let context := if school.getD "" ≠ "" then school.getD "" else context
      .ok (roleText role (optionalText contextType) context)
  else .ok (roleText role (optionalText contextType) context)

/-- `RolesSyntax.parse`. A text that it accepts is returned as it is. -/
def RolesSyntax.parse (text : String) : Except String String :=
  if text = "" then .ok text
  else
    match rolesRegex text with
    | none => .error "Role has bad format"
    | some reg =>
      if reg.contextType = "school" ∧ reg.role ∉ allRoles then .error "Unknown role"
      else .ok text

/-- The syntax passes a text if and only if `parse` does not raise. -/
theorem rolesSyntax_eq_isOk (text : String) : rolesSyntax text = (RolesSyntax.parse text).isOk := by
  unfold rolesSyntax RolesSyntax.parse
  by_cases hempty : text = ""
  · simp [hempty, Except.isOk, Except.toBool]
  · cases h : rolesRegex text with
    | none => simp [hempty, Except.isOk, Except.toBool]
    | some reg =>
      by_cases hschool : reg.contextType = "school"
      · by_cases hrole : reg.role ∈ allRoles
        · simp [hempty, hschool, hrole, Except.isOk, Except.toBool]
        · simp [hempty, hschool, hrole, Except.isOk, Except.toBool]
      · simp [hempty, hschool, Except.isOk, Except.toBool]

/-- A text splits into three parts if and only if it has two colons. -/
theorem splitThree_ne_none_iff {text : String} :
    splitThree text ≠ none ↔ text.toList.count ':' = 2 := by
  have hlength := Text.length_splitOn ':' text.toList
  unfold splitThree
  split
  · next a b c hsplit =>
    rw [hsplit] at hlength
    simp only [List.length_cons, List.length_nil] at hlength
    simp only [ne_eq, reduceCtorEq, not_false_iff, true_iff]
    omega
  · next hsplit =>
    simp only [ne_eq, not_true_eq_false, false_iff]
    intro hcount
    rw [hcount] at hlength
    obtain ⟨a, b, c, habc⟩ := List.length_eq_three.mp hlength
    exact hsplit a b c habc

/-! ## The lib and the connector -/

/-- The lib knows the role, or leaves the context type alone. -/
def RoleKnown (role contextType : String) : Prop :=
  contextType ∈ allContextTypes → role ∈ allRoles

instance (role contextType : String) : Decidable (RoleKnown role contextType) :=
  inferInstanceAs (Decidable (contextType ∈ allContextTypes → role ∈ allRoles))

theorem ucsschoolRoleValue_str [Runtime] {text role contextType context : String} :
    ucsschoolRoleValue (.str text) = some ⟨role, contextType, context⟩ ↔
      splitThree text = some (role, contextType, context) := by
  simp only [ucsschoolRoleValue, Option.map_eq_some_iff, Prod.exists, UcsschoolRole.mk.injEq]
  constructor
  · rintro ⟨a, b, c, hsplit, rfl, rfl, rfl⟩
    exact hsplit
  · intro hsplit
    exact ⟨_, _, _, hsplit, rfl, rfl, rfl⟩

theorem getRoleInfo_eq_ok {text role contextType context : String} :
    getRoleInfo text = .ok (role, contextType, context) ↔
      splitThree text = some (role, contextType, context) ∧ RoleKnown role contextType := by
  unfold getRoleInfo RoleKnown allContextTypes
  split
  · next hsplit => simp [hsplit]
  · next a b c hsplit =>
    split
    · next hunknown =>
      simp only [reduceCtorEq, hsplit, Option.some.injEq, Prod.mk.injEq, false_iff, not_and]
      rintro ⟨rfl, rfl, rfl⟩ hknown
      exact hunknown.2 (hknown hunknown.1)
    · next hknown =>
      simp only [Except.ok.injEq, hsplit, Option.some.injEq, Prod.mk.injEq]
      constructor
      · rintro ⟨rfl, rfl, rfl⟩
        exact ⟨⟨rfl, rfl, rfl⟩, fun htype => not_not.mp (fun hrole => hknown ⟨htype, hrole⟩)⟩
      · exact And.left

theorem getRoleInfo_eq_error {text role contextType context : String}
    (hsplit : splitThree text = some (role, contextType, context))
    (hknown : ¬ RoleKnown role contextType) : ∃ e, getRoleInfo text = .error e := by
  cases h : getRoleInfo text with
  | error e => exact ⟨e, rfl⟩
  | ok info =>
    obtain ⟨role', contextType', context'⟩ := info
    obtain ⟨hsplit', hknown'⟩ := getRoleInfo_eq_ok.mp h
    rw [hsplit] at hsplit'
    cases hsplit'
    exact absurd hknown' hknown

/-- The lib writes again what it has read. -/
theorem createUcsschoolRoleString_of_getRoleInfo {text role contextType context : String}
    (h : getRoleInfo text = .ok (role, contextType, context)) :
    createUcsschoolRoleString role context (some contextType) (some "") = .ok text := by
  obtain ⟨hsplit, hknown⟩ := getRoleInfo_eq_ok.mp h
  obtain ⟨rfl, -⟩ := splitThree_eq_some.mp hsplit
  unfold createUcsschoolRoleString
  simp only [optionalText, Option.getD_some, ne_eq, not_true_eq_false, if_false]
  split
  · next htype => rw [if_neg (not_not.mpr (hknown htype))]
  · rfl

/-! ## The regular expression -/

theorem parts_ne_of_matchReversed {rev : List Char} {d : RoleDict}
    (h : matchReversed rev = some d) : d.role ≠ "" ∧ d.contextType ≠ "" ∧ d.context ≠ "" := by
  unfold matchReversed at h
  split at h
  · next context rest hcontext =>
    split at h
    · next contextType role hcontextType =>
      obtain ⟨-, hcontext⟩ := Text.eq_append_of_takePart hcontext
      obtain ⟨-, hcontextType⟩ := Text.eq_append_of_takePart hcontextType
      split at h
      · cases h
      · next hrole =>
        cases h
        simp only [ne_eq, String.ofList_eq_empty_iff, List.reverse_eq_nil_iff]
        exact ⟨hrole, hcontextType, hcontext⟩
    · cases h
  · cases h

/-- What the regular expression reads is the text, and no part of it is empty. -/
theorem rolesRegex_eq_some {text : String} {d : RoleDict} (hline : '\n' ∉ text.toList)
    (h : rolesRegex text = some d) :
    text = d.text ∧ d.role ≠ "" ∧ d.contextType ≠ "" ∧ d.context ≠ "" := by
  rw [rolesRegex, regexBody_eq_self hline, if_neg hline] at h
  have htext := matchReversed_eq_some h
  rw [List.reverse_reverse] at htext
  exact ⟨String.toList_injective htext.symm, parts_ne_of_matchReversed h⟩

theorem two_le_count_of_rolesRegex {text : String} {d : RoleDict} (h : rolesRegex text = some d) :
    2 ≤ text.toList.count ':' := by
  have hbody : d.text.toList = regexBody text := by
    unfold rolesRegex at h
    split at h
    · cases h
    · rw [matchReversed_eq_some h, List.reverse_reverse]
  have hsublist : (regexBody text).Sublist text.toList := by
    unfold regexBody
    split
    · exact List.dropLast_sublist _
    · exact List.Sublist.refl _
  have hle := hsublist.count_le ':'
  have htwo : 2 ≤ d.text.toList.count ':' := by
    simp only [RoleDict.text, roleText, String.toList_append, List.count_append]
    have hcolon : (":" : String).toList.count ':' = 1 := by decide
    omega
  rw [hbody] at htwo
  exact htwo.trans hle

/-- Of a text that splits into three parts, the expression reads these, unless one is empty. -/
theorem rolesRegex_of_splitThree {text role contextType context : String}
    (hline : '\n' ∉ text.toList) (hsplit : splitThree text = some (role, contextType, context)) :
    rolesRegex text = if role ≠ "" ∧ contextType ≠ "" ∧ context ≠ ""
      then some ⟨role, contextType, context⟩ else none := by
  obtain ⟨rfl, hrole, hcontextType, hcontext⟩ := splitThree_eq_some.mp hsplit
  split
  · next hne => exact rolesRegex_roleText hne ⟨hcontextType, hcontext⟩ hline
  · next hempty =>
    cases h : rolesRegex (roleText role contextType context) with
    | none => rfl
    | some d =>
      obtain ⟨htext, hne⟩ := rolesRegex_eq_some hline h
      have htwo := splitThree_ne_none_iff.mp (hsplit ▸ Option.some_ne_none _)
      have hd : splitThree d.text = some (d.role, d.contextType, d.context) := by
        refine splitThree_eq_some.mpr ⟨rfl, ?_⟩
        rw [htext] at htwo
        simp only [RoleDict.text, roleText, String.toList_append, List.count_append] at htwo
        have hcolon : (":" : String).toList.count ':' = 1 := by decide
        simp only [← List.count_eq_zero]
        omega
      rw [← htext, hsplit] at hd
      cases hd
      exact absurd hne hempty

/-! ## Agreement -/

section Agreement

variable [Runtime]

def ParsersReject (text : String) : Prop :=
  (∃ e, RolesSyntax.parse text = .error e) ∧ (∃ e, getRoleInfo text = .error e) ∧
    ucsschoolRoleValue (.str text) = none

def ParsersAccept (text role contextType context : String) : Prop :=
  RolesSyntax.parse text = .ok text ∧ rolesRegex text = some ⟨role, contextType, context⟩ ∧
    getRoleInfo text = .ok (role, contextType, context) ∧
    ucsschoolRoleValue (.str text) = some ⟨role, contextType, context⟩

theorem parsersReject_of_count_lt {text : String} (hne : text ≠ "")
    (hcount : text.toList.count ':' < 2) : ParsersReject text := by
  have hsplit : splitThree text = none := by
    by_contra hsome
    have := splitThree_ne_none_iff.mp hsome
    omega
  have hregex : rolesRegex text = none := by
    cases h : rolesRegex text with
    | none => rfl
    | some d =>
      have := two_le_count_of_rolesRegex h
      omega
  refine ⟨⟨"Role has bad format", ?_⟩, ⟨.invalidUcsschoolRoleString, ?_⟩, ?_⟩
  · simp only [RolesSyntax.parse, if_neg hne, hregex]
  · simp only [getRoleInfo, hsplit]
  · simp only [ucsschoolRoleValue, hsplit, Option.map_none]

omit [Runtime] in
theorem parse_eq_ok {text : String} {d : RoleDict} (h : rolesRegex text = some d)
    (hknown : d.contextType = "school" → d.role ∈ allRoles) : RolesSyntax.parse text = .ok text := by
  unfold RolesSyntax.parse
  split
  · rfl
  · simp only [h]
    rw [if_neg]
    rintro ⟨hschool, hrole⟩
    exact hrole (hknown hschool)

theorem parsersAccept_of_known {text role contextType context : String}
    (hline : '\n' ∉ text.toList) (hsplit : splitThree text = some (role, contextType, context))
    (hne : role ≠ "" ∧ contextType ≠ "" ∧ context ≠ "") (hknown : RoleKnown role contextType) :
    ParsersAccept text role contextType context := by
  have hregex := rolesRegex_of_splitThree hline hsplit
  rw [if_pos hne] at hregex
  refine ⟨parse_eq_ok hregex ?_, hregex, getRoleInfo_eq_ok.mpr ⟨hsplit, hknown⟩,
    ucsschoolRoleValue_str.mpr hsplit⟩
  intro hschool
  exact hknown (by simp only at hschool; simp [hschool, allContextTypes])

omit [Runtime] in
/-- An empty part, and an unknown role in a school, are rejected by the syntax. -/
theorem parse_eq_error {text role contextType context : String} (hline : '\n' ∉ text.toList)
    (hsplit : splitThree text = some (role, contextType, context))
    (h : role = "" ∨ contextType = "" ∨ context = "" ∨ contextType = "school" ∧ role ∉ allRoles) :
    ∃ e, RolesSyntax.parse text = .error e := by
  have htext : text ≠ "" := by
    rintro rfl
    cases hsplit
  have hregex := rolesRegex_of_splitThree hline hsplit
  unfold RolesSyntax.parse
  rw [if_neg htext, hregex]
  by_cases hne : role ≠ "" ∧ contextType ≠ "" ∧ context ≠ ""
  · have hunknown : contextType = "school" ∧ role ∉ allRoles := by
      rcases h with h | h | h | h
      · exact absurd h hne.1
      · exact absurd h hne.2.1
      · exact absurd h hne.2.2
      · exact h
    simp only [if_pos hne, if_pos hunknown]
    exact ⟨_, rfl⟩
  · simp only [if_neg hne]
    exact ⟨_, rfl⟩

/-- What the three parsers make of a text, and what the lib makes of what it has read. -/
theorem roleParsers_agree (text : String) :
    (ucsschoolRoleValue (.str text) ≠ none ↔ text.toList.count ':' = 2) ∧
    (∀ role contextType context, getRoleInfo text = .ok (role, contextType, context) ↔
      ucsschoolRoleValue (.str text) = some ⟨role, contextType, context⟩ ∧
        RoleKnown role contextType) ∧
    (text = "" → RolesSyntax.parse text = .ok text) ∧
    (text ≠ "" → text.toList.count ':' < 2 → ParsersReject text) ∧
    ('\n' ∉ text.toList → ∀ role contextType context,
      ucsschoolRoleValue (.str text) = some ⟨role, contextType, context⟩ →
        (role ≠ "" → contextType ≠ "" → context ≠ "" → RoleKnown role contextType →
          ParsersAccept text role contextType context) ∧
        (role = "" ∨ contextType = "" ∨ context = "" ∨ contextType = "school" ∧ role ∉ allRoles →
          ∃ e, RolesSyntax.parse text = .error e)) ∧
    (∀ role contextType context, getRoleInfo text = .ok (role, contextType, context) →
      createUcsschoolRoleString role context (some contextType) (some "") = .ok text) := by
  refine ⟨?_, ?_, ?_, parsersReject_of_count_lt, ?_, ?_⟩
  · rw [← splitThree_ne_none_iff]
    simp [ucsschoolRoleValue]
  · intro role contextType context
    rw [getRoleInfo_eq_ok, ucsschoolRoleValue_str]
  · intro hempty
    rw [RolesSyntax.parse, if_pos hempty]
  · intro hline role contextType context hvalue
    have hsplit := ucsschoolRoleValue_str.mp hvalue
    refine ⟨?_, parse_eq_error hline hsplit⟩
    intro hrole hcontextType hcontext hknown
    exact parsersAccept_of_known hline hsplit ⟨hrole, hcontextType, hcontext⟩ hknown
  · intro role contextType context
    exact createUcsschoolRoleString_of_getRoleInfo

end Agreement

section Example

attribute [local instance] asciiRuntime

/-- An unknown role in a school is accepted by the connector only. -/
theorem roleParsers_disagree :
    ¬ ∀ text, ParsersReject text ∨ ∃ role contextType context,
      ParsersAccept text role contextType context := by
  intro h
  rcases h "principal:school:a" with ⟨-, -, hvalue⟩ | ⟨role, contextType, context, -, -, hinfo, -⟩
  · have hsome : ucsschoolRoleValue (.str "principal:school:a") =
        some ⟨"principal", "school", "a"⟩ := by decide
    rw [hsome] at hvalue
    cases hvalue
  · have hunknown : getRoleInfo "principal:school:a" = .error .unknownRole := by
      decide
    rw [hunknown] at hinfo
    cases hinfo

theorem roleParsers_agree_teacher :
    ParsersAccept "teacher:school:a" "teacher" "school" "a" ∧
      createUcsschoolRoleString "teacher" "a" (some "school") (some "") = .ok "teacher:school:a" := by
  have hvalue : ucsschoolRoleValue (.str "teacher:school:a") = some ⟨"teacher", "school", "a"⟩ := by
    decide
  obtain ⟨-, -, -, -, hthree, hwritten⟩ := roleParsers_agree "teacher:school:a"
  have haccept : ParsersAccept "teacher:school:a" "teacher" "school" "a" :=
    (hthree (by decide) _ _ _ hvalue).1 (by decide) (by decide) (by decide) (by decide)
  exact ⟨haccept, hwritten _ _ _ haccept.2.2.1⟩

end Example

end Kelvin
