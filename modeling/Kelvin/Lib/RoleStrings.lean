import Kelvin.Connector.Validation
import Kelvin.Data.Text

/-!
# Role strings

A role string names a role, a context type and a context, with colons between them. The
connector splits the strings of an event at every colon and skips those that do not have
exactly three parts. The lib reads them with a regular expression, which lets the first part
have colons, and skips those that it does not match.

* `roleText`: the string of three parts.
* `splitThree_eq_some`: the split, as an equation for the string.
* `parseRoles`, `mem_parseRoles`: the role entries of an event's list of strings.
* `rolesRegex`, `rolesAsDicts`: the regular expression, and `roles_as_dicts` of the lib.
* `rolesAsDicts_texts`: what was read from role strings is read again from its texts.
-/

namespace Kelvin

/-- `"{role}:{context_type}:{context}"`. -/
def roleText (role contextType context : String) : String :=
  role ++ ":" ++ contextType ++ ":" ++ context

theorem toList_roleText (role contextType context : String) :
    (roleText role contextType context).toList =
      [':'].intercalate [role.toList, contextType.toList, context.toList] := by
  simp [roleText, List.intercalate]

/-- A text splits into three parts if and only if it is made of them and they have no colon. -/
theorem splitThree_eq_some {text a b c : String} :
    splitThree text = some (a, b, c) ↔
      text = roleText a b c ∧ ':' ∉ a.toList ∧ ':' ∉ b.toList ∧ ':' ∉ c.toList := by
  constructor
  · intro h
    unfold splitThree at h
    split at h
    · next a' b' c' hsplit =>
      simp only [Option.some.injEq, Prod.mk.injEq] at h
      obtain ⟨rfl, rfl, rfl⟩ := h
      have hparts : ∀ part ∈ text.toList.splitOn ':', ':' ∉ part :=
        fun part hpart => Text.not_mem_of_mem_splitOn hpart
      rw [hsplit] at hparts
      refine ⟨?_, ?_, ?_, ?_⟩
      · rw [← String.toList_inj, toList_roleText]
        simp only [String.toList_ofList]
        rw [← hsplit, List.intercalate_splitOn]
      · simpa using hparts a' (by simp)
      · simpa using hparts b' (by simp)
      · simpa using hparts c' (by simp)
    · cases h
  · rintro ⟨rfl, ha, hb, hc⟩
    have hsplit : (roleText a b c).toList.splitOn ':' = [a.toList, b.toList, c.toList] := by
      rw [toList_roleText]
      apply List.splitOn_intercalate
      · simp [ha, hb, hc]
      · simp
    simp only [splitThree, hsplit, String.ofList_toList]

/-- The role entries of a list of strings. -/
def parseRoles (texts : List String) : List UcsschoolRole :=
  texts.filterMap (fun text => (splitThree text).map (fun p => ⟨p.1, p.2.1, p.2.2⟩))

theorem ucsschoolRolesValue_strs [Runtime] (texts : List String) :
    ucsschoolRolesValue (Json.strs texts) = some (parseRoles texts) := by
  unfold ucsschoolRolesValue
  simp only [Json.strs, iterate, Option.bind_some]
  induction texts with
  | nil => rfl
  | cons text texts ih =>
    cases h : splitThree text with
    | none =>
      simp only [List.map_cons, List.filter_cons, h, parseRoles, List.filterMap_cons]
      exact ih
    | some p =>
      simp only [List.map_cons, List.filter_cons, h, parseRoles, List.filterMap_cons,
        Option.isSome_some, if_true, Option.map_some]
      rw [List.mapM_cons, ih]
      simp [ucsschoolRoleValue, h, parseRoles]

theorem mem_parseRoles {texts : List String} {role contextType context : String} :
    ⟨role, contextType, context⟩ ∈ parseRoles texts ↔
      roleText role contextType context ∈ texts ∧
        ':' ∉ role.toList ∧ ':' ∉ contextType.toList ∧ ':' ∉ context.toList := by
  simp only [parseRoles, List.mem_filterMap, Option.map_eq_some_iff, Prod.exists,
    UcsschoolRole.mk.injEq]
  constructor
  · rintro ⟨text, htext, a, b, c, hsplit, rfl, rfl, rfl⟩
    obtain ⟨rfl, hparts⟩ := splitThree_eq_some.mp hsplit
    exact ⟨htext, hparts⟩
  · rintro ⟨htext, hparts⟩
    exact ⟨_, htext, role, contextType, context, splitThree_eq_some.mpr ⟨rfl, hparts⟩, rfl, rfl, rfl⟩

/-! ## The regular expression of the lib -/

/-- The groups of a match of `RolesSyntax.regex`. -/
structure RoleDict where
  role : String
  contextType : String
  context : String
deriving DecidableEq

/-- `"{role}:{context_type}:{context}".format(**role)`. -/
def RoleDict.text (d : RoleDict) : String := roleText d.role d.contextType d.context

/-- The parts of a text that is given from its end. The role takes as much as it can. -/
def matchReversed (rev : List Char) : Option RoleDict :=
  match Text.takePart ':' rev with
  | some (context, ':' :: rest) =>
    match Text.takePart ':' rest with
    | some (contextType, ':' :: role) =>
      if role = [] then none
      else some ⟨String.ofList role.reverse, String.ofList contextType.reverse,
        String.ofList context.reverse⟩
    | _ => none
  | _ => none

/-- The text without a line feed at its end, before which `$` matches too. -/
def regexBody (text : String) : List Char :=
  if text.toList.getLast? = some '\n' then text.toList.dropLast else text.toList

/-- `RolesSyntax.regex.match`. No group of it has a line feed. -/
def rolesRegex (text : String) : Option RoleDict :=
  if '\n' ∈ regexBody text then none else matchReversed (regexBody text).reverse

/-- `roles_as_dicts`. -/
def rolesAsDicts (roles : List String) : List RoleDict := roles.filterMap rolesRegex

theorem matchReversed_eq_some {rev : List Char} {d : RoleDict} (h : matchReversed rev = some d) :
    d.text.toList = rev.reverse := by
  unfold matchReversed at h
  split at h
  · next context rest hcontext =>
    split at h
    · next contextType role hcontextType =>
      obtain ⟨rfl, -⟩ := Text.eq_append_of_takePart hcontext
      obtain ⟨rfl, -⟩ := Text.eq_append_of_takePart hcontextType
      split at h
      · cases h
      · cases h
        simp [RoleDict.text, roleText]
    · cases h
  · cases h

theorem matchReversed_append {role contextType context : List Char} (hrole : role ≠ [])
    (hcontextType : contextType ≠ []) (hcontext : context ≠ []) (hcolon : ':' ∉ contextType)
    (hcolon' : ':' ∉ context) :
    matchReversed (context ++ ':' :: (contextType ++ ':' :: role)) =
      some ⟨String.ofList role.reverse, String.ofList contextType.reverse,
        String.ofList context.reverse⟩ := by
  have houter := Text.takePart_append (contextType ++ ':' :: role) hcontext hcolon'
  have hinner := Text.takePart_append role hcontextType hcolon
  simp only [matchReversed, houter, hinner, hrole, if_false]

theorem regexBody_eq_self {text : String} (h : '\n' ∉ text.toList) :
    regexBody text = text.toList := by
  unfold regexBody
  rw [if_neg]
  intro hlast
  exact h (List.mem_of_getLast? hlast)

/-- What the regular expression reads, it reads again from the text of what it read. -/
theorem rolesRegex_text {text : String} {d : RoleDict} (h : rolesRegex text = some d) :
    rolesRegex d.text = some d := by
  unfold rolesRegex at h
  split at h
  · cases h
  · next hbody =>
    have htext : d.text.toList = regexBody text := by
      rw [matchReversed_eq_some h, List.reverse_reverse]
    have hself : regexBody d.text = regexBody text := by
      rw [regexBody_eq_self (htext ▸ hbody), htext]
    rw [rolesRegex, hself, if_neg hbody, h]

/-- A text of three parts is read as these parts, if the last two have no colon. -/
theorem rolesRegex_roleText {role contextType context : String}
    (hne : role ≠ "" ∧ contextType ≠ "" ∧ context ≠ "")
    (hcolon : ':' ∉ contextType.toList ∧ ':' ∉ context.toList)
    (hline : '\n' ∉ (roleText role contextType context).toList) :
    rolesRegex (roleText role contextType context) = some ⟨role, contextType, context⟩ := by
  have hrev : (roleText role contextType context).toList.reverse =
      context.toList.reverse ++ ':' :: (contextType.toList.reverse ++ ':' :: role.toList.reverse) := by
    simp [roleText]
  rw [rolesRegex, regexBody_eq_self hline, if_neg hline, hrev, matchReversed_append]
  · simp
  · simpa using hne.1
  · simpa using hne.2.1
  · simpa using hne.2.2
  · simpa using hcolon.1
  · simpa using hcolon.2

/-- What was read from role strings is read again from its texts. -/
theorem rolesAsDicts_texts {dicts : List RoleDict}
    (h : ∀ d ∈ dicts, rolesRegex d.text = some d) :
    rolesAsDicts (dicts.map RoleDict.text) = dicts := by
  induction dicts with
  | nil => rfl
  | cons d dicts ih =>
    have hd := h d List.mem_cons_self
    have hdicts := ih (fun d' hd' => h d' (List.mem_cons_of_mem d hd'))
    rw [rolesAsDicts] at hdicts
    rw [rolesAsDicts, List.map_cons, List.filterMap_cons, hd, hdicts]

theorem rolesRegex_of_mem {roles : List String} {d : RoleDict} (h : d ∈ rolesAsDicts roles) :
    rolesRegex d.text = some d := by
  obtain ⟨text, -, htext⟩ := List.mem_filterMap.mp h
  exact rolesRegex_text htext

end Kelvin
