import Kelvin.Lib.NameAttributes
import Kelvin.Lib.StoredUser

/-!
# The containers and groups of a school

`SchoolSearchBase` of `schoolldap.py`, with the default containers and prefixes, and the DNs that the
models build for the groups of a user.

* `UserClass.position`, `UserGroup.dn`: the DNs that the models build.
* `SearchBase.roleGroup`, `SearchBase.classes`: the DNs of the search base.
* `GroupRegex`, `positionRegex`: the regular expressions that recognise them.
* `roleGroup_matches`: which expressions match the group of a role.
* `not_matches_value`: none of them matches a class or a workgroup.
-/

namespace Kelvin

/-! ## Case -/

/-- How a regular expression without letter case compares characters. -/
class CaseFolding where
  /-- A character of the expression and one of the text. -/
  same : Char → Char → Bool
  /-- A character of a group and one of the text. -/
  sameAgain : Char → Char → Bool
  same_refl : ∀ c, same c c = true
  sameAgain_refl : ∀ c, sameAgain c c = true
  same_ascii : ∀ c d : Char, c.toNat < 128 → d.toNat < 128 → same c d = true → c.toLower = d.toLower
  /-- A comma or an equals sign is only itself. -/
  same_separator : ∀ c ∈ [',', '='], ∀ d, same c d = true → d = c

/-- The escaping of DN values, in which an equals sign follows a backslash. -/
class DnSyntax extends DnEscaping where
  escaped_equals : ∀ text before after, (escapeDnChars text).toList = before ++ '=' :: after →
    before.getLast? = some '\\'

/-! ## DNs -/

/-- `ldap/base`. Its characters stand for themselves in a regular expression. -/
structure LdapBase where
  text : String
  plain : ∀ c ∈ text.toList,
    c ∉ ['\\', '.', '^', '$', '*', '+', '?', '{', '}', '[', ']', '|', '(', ')']

/-- The containers of the users, such as `_containerStudents`. -/
def RoleGroup.container : RoleGroup → String
  | .students => "schueler"
  | .teachers => "lehrer"
  | .legalGuardians => "sorgeberechtigte"
  | .staff => "mitarbeiter"
  | .schoolAdmins => "admins"

/-- The beginnings of the names of the groups, such as `group_prefix_students`. -/
def RoleGroup.groupStart : RoleGroup → String
  | .students => "schueler-"
  | .teachers => "lehrer-"
  | .legalGuardians => "sorgeberechtigte-"
  | .staff => "mitarbeiter-"
  | .schoolAdmins => "admins-"

namespace SearchBase

variable [DnEscaping] (base : LdapBase)

/-- `schoolDN`. -/
def schoolDn (school : String) : String :=
  "ou=" ++ DnEscaping.escapeDnChars school ++ "," ++ base.text

def classes (school : String) : String :=
  "cn=klassen,cn=schueler,cn=groups," ++ schoolDn base school

def workgroups (school : String) : String := "cn=schueler,cn=groups," ++ schoolDn base school

/-- The container of a class of users, `students` and its companions. -/
def users (name school : String) : String := "cn=" ++ name ++ ",cn=users," ++ schoolDn base school

/-- The group of a role, `students_group` and its companions. -/
def roleGroup [Runtime] (role : RoleGroup) (school : String) : String :=
  match role with
  | .schoolAdmins =>
    "cn=" ++ role.groupStart ++ Runtime.lower school ++ ",cn=ouadmins,cn=groups," ++ base.text
  | .legalGuardians =>
    "cn=" ++ DnEscaping.escapeDnChars role.groupStart ++
      DnEscaping.escapeDnChars (Runtime.lower school) ++ ",cn=groups," ++ schoolDn base school
  | role =>
    "cn=" ++ role.groupStart ++ Runtime.lower school ++ ",cn=groups," ++ schoolDn base school

end SearchBase

section Models

open SearchBase

variable [DnEscaping] [Runtime] (base : LdapBase)

/-- The container of a user class, `get_container`. -/
def UserClass.position (cls : UserClass) (school : String) : String :=
  match cls with
  | .student => users base "schueler" school
  | .teacher => users base "lehrer" school
  | .legalGuardian => users base (DnEscaping.escapeDnChars "sorgeberechtigte") school
  | .schoolAdmin => users base "admins" school
  | .staff => users base "mitarbeiter" school
  | .teachersAndStaff => users base "lehrer und mitarbeiter" school
  | .examStudent => "cn=examusers," ++ schoolDn base school

/-- The DN of a model, with the name escaped. -/
def objectDn (name container : String) : String :=
  "cn=" ++ DnEscaping.escapeDnChars name ++ "," ++ container

/-- `get_group_dn`. -/
def getGroupDn (name school : String) : String :=
  objectDn name ("cn=groups," ++ schoolDn base school)

/-- The DN of a group of a user. -/
def UserGroup.dn : UserGroup → String
  | .domainUsers school => getGroupDn base ("Domain Users " ++ school) school
  | .roleGroup .schoolAdmins school =>
    "cn=" ++ RoleGroup.schoolAdmins.groupStart ++ Runtime.lower school ++
      ",cn=ouadmins,cn=groups," ++ base.text
  | .roleGroup role school => getGroupDn base (role.groupStart ++ school) school
  | .schoolClass school name => objectDn name (classes base school)
  | .workgroup school name => objectDn name (workgroups base school)
  | .other _ dn => dn

end Models

/-! ## Regular expressions -/

/-- The group expressions of the search base. -/
inductive GroupRegex where
  | isTeachersGroup
  | isLegalGuardiansGroup
  | isStaffGroup
  | isStudentGroup
  | isAdminsGroup
  | staffGroup
  | studentsGroup
deriving DecidableEq

/-- The role whose groups an expression is for. -/
def GroupRegex.role : GroupRegex → RoleGroup
  | isTeachersGroup => .teachers
  | isLegalGuardiansGroup => .legalGuardians
  | isStaffGroup | staffGroup => .staff
  | isStudentGroup | studentsGroup => .students
  | isAdminsGroup => .schoolAdmins

section Regexes

variable [CaseFolding] (base : LdapBase)

/-- A text of an expression, in any letter case. -/
def ignoreCase (text : String) : Regex := .lit CaseFolding.same text.toList

/-- `[^,]`. -/
def notComma (c : Char) : Bool := c ≠ ','

/-- `[^,]+`. -/
def valueRegex : Regex := .seq (.one notComma) (.many notComma)

/-- `cn={name}-(?P<ou>{ou}),cn=groups,ou=(?P=ou),{base}`. -/
def schoolGroupRegex (name : String) (ou : Regex) : Regex :=
  .seq (ignoreCase ("cn=" ++ name ++ "-")) (.capture ou (fun group =>
    .seq (ignoreCase ",cn=groups,ou=") (.seq (.lit CaseFolding.sameAgain group)
      (ignoreCase ("," ++ base.text)))))

/-- `group_container_regex_template`. -/
def groupContainerRegex (name : String) : Regex := schoolGroupRegex base name valueRegex

/-- `user_container_regex_template`. -/
def userContainerRegex (name : String) : Regex :=
  .seq (ignoreCase ("cn=" ++ name ++ ",cn=users,ou=")) (.seq valueRegex
    (ignoreCase ("," ++ base.text)))

def GroupRegex.regex : GroupRegex → Regex
  | isTeachersGroup => groupContainerRegex base RoleGroup.teachers.container
  | isLegalGuardiansGroup => groupContainerRegex base RoleGroup.legalGuardians.container
  | isStaffGroup => groupContainerRegex base RoleGroup.staff.container
  | isStudentGroup => groupContainerRegex base RoleGroup.students.container
  | isAdminsGroup =>
    .seq (ignoreCase ("cn=" ++ RoleGroup.schoolAdmins.container ++ "-")) (.seq valueRegex
      (ignoreCase (",cn=ouadmins,cn=groups," ++ base.text)))
  | staffGroup => schoolGroupRegex base RoleGroup.staff.container (.opt (.one notComma))
  | studentsGroup => schoolGroupRegex base RoleGroup.students.container (.opt (.one notComma))

/-- The expression for the position of a user class. -/
def positionRegex : UserClass → Regex
  | .student => userContainerRegex base "schueler"
  | .teacher => userContainerRegex base "lehrer"
  | .legalGuardian => userContainerRegex base "sorgeberechtigte"
  | .schoolAdmin => userContainerRegex base "admins"
  | .staff => userContainerRegex base "mitarbeiter"
  | .teachersAndStaff => userContainerRegex base "lehrer und mitarbeiter"
  | .examStudent =>
    .seq (ignoreCase "cn=examusers,ou=") (.seq valueRegex (ignoreCase ("," ++ base.text)))

end Regexes

/-! ## What the expressions match -/

section Values

variable {text rest : List Char}

theorem mem_valueRegex {group : List Char} (hne : group ≠ []) (hcomma : ',' ∉ group) :
    rest ∈ valueRegex.rests (group ++ rest) := by
  obtain ⟨c, group, rfl⟩ := List.exists_cons_of_ne_nil hne
  have hall : ∀ d ∈ c :: group, notComma d = true := by
    intro d hd
    have hne : d ≠ ',' := fun heq => hcomma (heq ▸ hd)
    simpa [notComma] using hne
  obtain ⟨hc, hgroup⟩ := List.forall_mem_cons.mp hall
  simp only [valueRegex, Regex.mem_rests_seq, Regex.mem_rests_one, Regex.mem_rests_many]
  exact ⟨group ++ rest, ⟨c, hc, rfl⟩, group, rfl, hgroup⟩

/-- An expression for a value passes no comma. -/
def PassesNoComma (ou : Regex) : Prop :=
  ∀ text rest, rest ∈ ou.rests text → ∃ group, text = group ++ rest ∧ ',' ∉ group

theorem valueRegex_passesNoComma : PassesNoComma valueRegex := by
  intro text rest h
  simp only [valueRegex, Regex.mem_rests_seq, Regex.mem_rests_one, Regex.mem_rests_many] at h
  obtain ⟨_, ⟨c, hc, rfl⟩, group, rfl, hgroup⟩ := h
  refine ⟨c :: group, rfl, fun hmem => ?_⟩
  rcases List.mem_cons.mp hmem with rfl | hmem
  · cases hc
  · cases hgroup _ hmem

theorem optNotComma_passesNoComma : PassesNoComma (.opt (.one notComma)) := by
  intro text rest h
  simp only [Regex.mem_rests_opt, Regex.mem_rests_one] at h
  rcases h with ⟨c, hc, rfl⟩ | rfl
  · refine ⟨[c], rfl, fun hmem => ?_⟩
    obtain rfl := List.mem_singleton.mp hmem
    cases hc
  · exact ⟨[], rfl, List.not_mem_nil⟩

theorem PassesNoComma.append {r : Regex} (hr : PassesNoComma r) {q : Regex} (hq : PassesNoComma q)
    {middle : List Char} (hmiddle : middle ∈ r.rests text) (hrest : rest ∈ q.rests middle) :
    ∃ group, text = group ++ rest ∧ ',' ∉ group := by
  obtain ⟨front, rfl, hfront⟩ := hr _ _ hmiddle
  obtain ⟨back, rfl, hback⟩ := hq _ _ hrest
  refine ⟨front ++ back, (List.append_assoc _ _ _).symm, fun hcomma => ?_⟩
  rcases List.mem_append.mp hcomma with h | h
  · exact hfront h
  · exact hback h

/-- The part of an expression for the name of a school. -/
def GroupRegex.value : GroupRegex → Regex
  | staffGroup | studentsGroup => .opt (.one notComma)
  | _ => valueRegex

theorem GroupRegex.value_passesNoComma (r : GroupRegex) : PassesNoComma r.value := by
  cases r with
  | staffGroup => exact optNotComma_passesNoComma
  | studentsGroup => exact optNotComma_passesNoComma
  | _ => exact valueRegex_passesNoComma

end Values

section Matching

variable [CaseFolding] {base : LdapBase} {text rest : List Char}

theorem mem_ignoreCase_self (word : String) :
    rest ∈ (ignoreCase word).rests (word.toList ++ rest) := by
  rw [ignoreCase, Regex.mem_rests_lit]
  exact ⟨word.toList, rfl, List.forall₂_same.mpr (fun c _ => CaseFolding.same_refl c)⟩

theorem mem_again_self (group : List Char) :
    rest ∈ (Regex.lit CaseFolding.sameAgain group).rests (group ++ rest) := by
  rw [Regex.mem_rests_lit]
  exact ⟨group, rfl, List.forall₂_same.mpr (fun c _ => CaseFolding.sameAgain_refl c)⟩

/-- What a text of an expression leaves follows as many characters. -/
theorem mem_ignoreCase_append {word : String} {front : List Char}
    (hlength : front.length = word.toList.length) {more : List Char}
    (h : rest ∈ (ignoreCase word).rests (front ++ more)) : rest = more := by
  obtain ⟨before, heq, hbefore⟩ := Regex.mem_rests_lit.mp h
  have hlen : before.length = front.length := hbefore.length_eq.symm.trans hlength.symm
  exact (List.append_inj heq hlen.symm).2.symm

/-- Two ASCII texts differ in a character, whatever its case. -/
def differ (word text : List Char) : Bool :=
  (word.zip text).any (fun p => p.1.toLower ≠ p.2.toLower)

theorem not_mem_ignoreCase {word : String} {front more : List Char}
    (hword : word.toList.all (fun c => c.toNat < 128) = true)
    (hfront : front.all (fun c => c.toNat < 128) = true) (hdiffer : differ word.toList front = true) :
    rest ∉ (ignoreCase word).rests (front ++ more) := by
  intro h
  obtain ⟨before, heq, hbefore⟩ := Regex.mem_rests_lit.mp h
  generalize word.toList = cs at hword hdiffer hbefore
  clear h
  induction hbefore generalizing front with
  | nil => cases hdiffer
  | @cons c d cs before hsame hbefore ih =>
    cases front with
    | nil => cases hdiffer
    | cons e front =>
      obtain ⟨rfl, htail⟩ := List.cons.inj heq
      simp only [List.all_cons, Bool.and_eq_true, decide_eq_true_eq] at hword hfront
      rw [differ, List.zip_cons_cons, List.any_cons, Bool.or_eq_true] at hdiffer
      rcases hdiffer with hne | hdiffer
      · exact of_decide_eq_true hne (CaseFolding.same_ascii c e hword.1 hfront.1 hsame)
      · exact ih hfront.2 htail hword.2 hdiffer

/-- The group of a school, where `name` stands before the name of the school. -/
def schoolGroupText (base : LdapBase) (name : String) (school : List Char) : List Char :=
  ("cn=" ++ name ++ "-").toList ++ (school ++ (",cn=groups,ou=".toList ++ (school ++
    ("," ++ base.text).toList)))

/-- The expression matches the group of a school whose name the part for it passes. -/
theorem schoolGroupRegex_self {name : String} {ou : Regex} {school : List Char}
    (hou : ∀ rest, rest ∈ ou.rests (school ++ rest)) :
    (schoolGroupRegex base name ou).Matches (schoolGroupText base name school) := by
  rw [Regex.matches_iff]
  refine ⟨[], ?_⟩
  rw [schoolGroupRegex, Regex.mem_rests_seq]
  refine ⟨_, mem_ignoreCase_self _, Regex.mem_rests_capture.mpr ⟨school, _, rfl, hou _, ?_⟩⟩
  rw [Regex.mem_rests_seq]
  refine ⟨_, mem_ignoreCase_self _, Regex.mem_rests_seq.mpr ⟨_, mem_again_self school, ?_⟩⟩
  have hend := @mem_ignoreCase_self _ [] ("," ++ base.text)
  rwa [List.append_nil] at hend

/-- A match of the expression passes no comma before the containers. -/
theorem containers_of_schoolGroupRegex {name : String} {ou : Regex} (hou : PassesNoComma ou)
    {front more : List Char} (hlength : front.length = ("cn=" ++ name ++ "-").toList.length)
    (h : (schoolGroupRegex base name ou).Matches (front ++ more)) :
    ∃ group after, more = group ++ after ∧ ',' ∉ group ∧ after ∈ ou.rests more ∧
      ∃ rest, rest ∈ (ignoreCase ",cn=groups,ou=").rests after := by
  obtain ⟨rest, hrest⟩ := Regex.matches_iff.mp h
  rw [schoolGroupRegex, Regex.mem_rests_seq] at hrest
  obtain ⟨middle, hmiddle, hrest⟩ := hrest
  obtain rfl := mem_ignoreCase_append hlength hmiddle
  obtain ⟨group, after, rfl, hafter, hrest⟩ := Regex.mem_rests_capture.mp hrest
  obtain ⟨rest', hrest', -⟩ := Regex.mem_rests_seq.mp hrest
  obtain ⟨group', heq, hcomma⟩ := hou _ _ hafter
  obtain rfl := List.append_cancel_right heq
  exact ⟨group, after, rfl, hcomma, hafter, rest', hrest'⟩

/-- A value of a DN in the place of a name: an equals sign follows a backslash. -/
def EscapedValue (value : List Char) : Prop :=
  ∀ before after, value = before ++ '=' :: after → before.getLast? = some '\\'

/-- After a value the next part of a DN decides: an expression that passes no comma before its
containers does not match inside of the value. -/
theorem no_containers {value tail front after : List Char} {x y : Char} (hvalue : EscapedValue value)
    (hxy : CaseFolding.same x y = false)
    (heq : ['c', 'n', '='] ++ value ++ (',' :: 'c' :: 'n' :: '=' :: y :: tail) = front ++ after)
    (hfront : ',' ∉ front) (hafter : ∃ rest, rest ∈ (Regex.lit CaseFolding.same
      [',', 'c', 'n', '=', x]).rests after) : False := by
  obtain ⟨rest, hrest⟩ := hafter
  obtain ⟨before, rfl, hbefore⟩ := Regex.mem_rests_lit.mp hrest
  rcases hbefore with _ | ⟨h₀, hbefore⟩
  rcases hbefore with _ | ⟨h₁, hbefore⟩
  rcases hbefore with _ | ⟨h₂, hbefore⟩
  rcases hbefore with _ | ⟨h₃, hbefore⟩
  rcases hbefore with _ | ⟨h₄, hbefore⟩
  rcases hbefore
  rename_i c₀ c₁ c₂ c₃ c₄
  obtain rfl := CaseFolding.same_separator ',' (by decide) c₀ h₀
  obtain rfl := CaseFolding.same_separator '=' (by decide) c₃ h₃
  have hn : ∀ d : Char, d.toNat < 128 → d.toLower ≠ 'n' → c₂ ≠ d := by
    rintro d hd hlower rfl
    exact hlower (CaseFolding.same_ascii 'n' c₂ (by decide) hd h₂).symm
  have hc : c₁ ≠ ',' := by
    rintro rfl
    exact absurd (CaseFolding.same_ascii 'c' ',' (by decide) (by decide) h₁) (by decide)
  have hy : c₄ ≠ y := by
    rintro rfl
    rw [hxy] at h₄
    cases h₄
  rcases List.append_eq_append_iff.mp heq with ⟨more, rfl, hmore⟩ | ⟨more, hhead, hmore⟩
  · cases more with
    | nil =>
      simp only [List.nil_append, List.cons_append, List.cons.injEq] at hmore
      exact hy hmore.2.2.2.2.1.symm
    | cons d more =>
      obtain ⟨rfl, -⟩ := List.cons.inj hmore
      exact hfront (List.mem_append_right _ List.mem_cons_self)
  · rcases more with _ | ⟨d₀, _ | ⟨d₁, _ | ⟨d₂, _ | ⟨d₃, more⟩⟩⟩⟩
    · simp only [List.nil_append, List.cons_append, List.cons.injEq] at hmore
      exact hy hmore.2.2.2.2.1
    · simp only [List.nil_append, List.cons_append, List.cons.injEq] at hmore
      exact hc hmore.2.1
    · simp only [List.nil_append, List.cons_append, List.cons.injEq] at hmore
      exact hn ',' (by decide) (by decide) hmore.2.2.1
    · simp only [List.nil_append, List.cons_append, List.cons.injEq] at hmore
      exact absurd hmore.2.2.2.1 (by decide)
    · simp only [List.nil_append, List.cons_append, List.cons.injEq] at hmore
      obtain ⟨rfl, rfl, rfl, rfl, -⟩ := hmore
      rcases front with _ | ⟨f₀, _ | ⟨f₁, _ | ⟨f₂, front⟩⟩⟩
      · simp at hhead
      · simp at hhead
      · simp at hhead
      · simp only [List.cons_append, List.nil_append, List.cons.injEq] at hhead
        obtain ⟨-, -, -, rfl⟩ := hhead
        have hlast := hvalue (front ++ [',', c₁, c₂]) more (by simp)
        rw [List.getLast?_append_cons] at hlast
        simp only [List.getLast?_cons_cons, List.getLast?_singleton, Option.some.injEq] at hlast
        exact hn '\\' (by decide) (by decide) hlast

theorem ignoreCase_passesNoComma {word : String}
    (hword : word.toList.all (fun c => c.toNat < 128 && c.toLower != ',') = true) :
    PassesNoComma (ignoreCase word) := by
  intro text rest h
  obtain ⟨before, rfl, hbefore⟩ := Regex.mem_rests_lit.mp h
  refine ⟨before, rfl, fun hcomma => ?_⟩
  clear h
  generalize word.toList = cs at hword hbefore
  induction hbefore with
  | nil => cases hcomma
  | @cons c d cs before hsame hbefore ih =>
    simp only [List.all_cons, Bool.and_eq_true, decide_eq_true_eq, bne_iff_ne, ne_eq] at hword
    rcases List.mem_cons.mp hcomma with rfl | hcomma
    · have hlower := CaseFolding.same_ascii c ',' hword.1.1 (by decide) hsame
      exact hword.1.2 (hlower.trans (by decide))
    · exact ih hcomma hword.2

theorem GroupRegex.start_passesNoComma (r : GroupRegex) :
    PassesNoComma (ignoreCase ("cn=" ++ r.role.container ++ "-")) := by
  apply ignoreCase_passesNoComma
  cases r <;> decide

theorem GroupRegex.regex_eq {r : GroupRegex} (hr : r ≠ .isAdminsGroup) :
    r.regex base = schoolGroupRegex base r.role.container r.value := by
  cases r with
  | isAdminsGroup => exact absurd rfl hr
  | _ => rfl

/-- Every expression for groups passes no comma before the containers. -/
theorem exists_containers {r : GroupRegex} (h : (r.regex base).Matches text) :
    ∃ front after, text = front ++ after ∧ ',' ∉ front ∧ ∃ x ∈ ['g', 'o'], ∃ rest,
      rest ∈ (Regex.lit CaseFolding.same [',', 'c', 'n', '=', x]).rests after := by
  obtain ⟨rest, hrest⟩ := Regex.matches_iff.mp h
  by_cases hr : r = .isAdminsGroup
  · subst hr
    rw [GroupRegex.regex, Regex.mem_rests_seq] at hrest
    obtain ⟨middle, hmiddle, hrest⟩ := hrest
    obtain ⟨after, hafter, hrest⟩ := Regex.mem_rests_seq.mp hrest
    obtain ⟨front, heq, hfront⟩ := GroupRegex.isAdminsGroup.start_passesNoComma.append
      valueRegex_passesNoComma hmiddle hafter
    rw [ignoreCase, String.toList_append] at hrest
    exact ⟨front, after, heq, hfront, 'o', by decide, Regex.exists_rests_take 5 hrest⟩
  · rw [GroupRegex.regex_eq hr, schoolGroupRegex, Regex.mem_rests_seq] at hrest
    obtain ⟨middle, hmiddle, hrest⟩ := hrest
    obtain ⟨group, after, -, hafter, hrest⟩ := Regex.mem_rests_capture.mp hrest
    obtain ⟨front, heq, hfront⟩ := r.start_passesNoComma.append r.value_passesNoComma hmiddle hafter
    obtain ⟨_, hcontainers, -⟩ := Regex.mem_rests_seq.mp hrest
    exact ⟨front, after, heq, hfront, 'g', by decide, Regex.exists_rests_take 5 hcontainers⟩

/-- No expression for groups matches where another container follows the name. -/
theorem not_matches_value {value tail : List Char} {y : Char} (hvalue : EscapedValue value)
    (hy : y ∈ ['k', 's']) (r : GroupRegex) :
    ¬ (r.regex base).Matches (['c', 'n', '='] ++ value ++ (',' :: 'c' :: 'n' :: '=' :: y :: tail)) := by
  intro h
  obtain ⟨front, after, heq, hfront, x, hx, hafter⟩ := exists_containers h
  have hxy : CaseFolding.same x y = false := by
    have hlower : ∀ x ∈ ['g', 'o'], ∀ y ∈ ['k', 's'],
        x.toNat < 128 ∧ y.toNat < 128 ∧ x.toLower ≠ y.toLower := by
      simp only [← List.forall_iff_forall_mem]
      decide
    obtain ⟨hxascii, hyascii, hne⟩ := hlower x hx y hy
    by_contra hsame
    rw [Bool.not_eq_false] at hsame
    exact hne (CaseFolding.same_ascii x y hxascii hyascii hsame)
  exact no_containers hvalue hxy heq hfront hafter

end Matching

/-! ## The groups of a user -/

section Names

/-- No character of the name of a school is special in a DN. -/
theorem Ou.plain (school : Ou) : ∀ c ∈ school.name.toList,
    c ∉ ['\\', ',', '+', '"', '<', '>', ';', '=', '\x00', '#', ' '] := by
  have hspecial : ∀ c ∈ ['\\', ',', '+', '"', '<', '>', ';', '=', '\x00', '#', ' '],
      asciiAlnum c = false ∧ c ≠ '-' ∧ c ≠ '_' :=
    List.forall_iff_forall_mem.mp (by decide)
  intro c hc hmem
  obtain ⟨halnum, hdash, hscore⟩ := hspecial c hmem
  exact school.not_mem halnum hdash hscore hc

theorem Ou.toList_ne_nil (school : Ou) : school.name.toList ≠ [] := by
  obtain ⟨c, hc, -⟩ := school.head
  intro heq
  rw [heq] at hc
  cases hc

/-- Nothing is escaped in the name of a school and what stands before it. -/
theorem Ou.escape_append [DnEscaping] (school : Ou) {start : String}
    (hstart : start.toList.all
      (fun c => c ∉ ['\\', ',', '+', '"', '<', '>', ';', '=', '\x00']) = true)
    (hhead : start.toList.head? ∉ [some '#', some ' ']) :
    DnEscaping.escapeDnChars (start ++ school.name) = start ++ school.name := by
  have hschool : ∀ c ∈ school.name.toList,
      c ∉ ['\\', ',', '+', '"', '<', '>', ';', '=', '\x00'] ∧ c ≠ '#' ∧ c ≠ ' ' := by
    intro c hc
    have hplain := school.plain c hc
    simp only [List.mem_cons, List.not_mem_nil, or_false, not_or] at hplain ⊢
    tauto
  rw [DnEscaping.escape_eq_self, String.toList_append]
  refine ⟨?_, ?_, ?_⟩
  · intro c hc
    rcases List.mem_append.mp hc with hc | hc
    · exact of_decide_eq_true (List.all_eq_true.mp hstart c hc)
    · exact (hschool c hc).1
  · cases heq : start.toList with
    | nil =>
      obtain ⟨c, hc, -⟩ := school.head
      have hne := (hschool c (List.mem_of_mem_head? hc)).2
      rw [List.nil_append, hc]
      simpa using hne
    | cons c cs =>
      rw [heq] at hhead
      exact hhead
  · rw [List.getLast?_append_of_ne_nil _ school.toList_ne_nil]
    intro hlast
    exact (hschool ' ' (List.mem_of_getLast? hlast)).2.2 rfl

theorem Ou.escape_name [DnEscaping] (school : Ou) :
    DnEscaping.escapeDnChars school.name = school.name := by
  have h := @Ou.escape_append _ school "" (by decide) (by decide)
  rwa [String.empty_append] at h

theorem asciiAlnum_lt {c : Char} (h : asciiAlnum c = true) : c.toNat < 128 := by
  have hle : ∀ d : Char, c ≤ d → c.toNat ≤ d.toNat := fun d hd => hd
  simp only [asciiAlnum, Bool.or_eq_true, Bool.and_eq_true, decide_eq_true_eq] at h
  rcases h with (⟨-, h⟩ | ⟨-, h⟩) | ⟨-, h⟩
  · exact lt_of_le_of_lt (hle 'z' h) (by decide)
  · exact lt_of_le_of_lt (hle 'Z' h) (by decide)
  · exact lt_of_le_of_lt (hle '9' h) (by decide)

/-- What holds of all ASCII characters holds of each. -/
theorem ascii_forall {p : Char → Prop} (h : ∀ n < 128, p (Char.ofNat n)) {c : Char}
    (hc : c.toNat < 128) : p c := by
  have hself := h c.toNat hc
  rwa [Char.ofNat_toNat] at hself

theorem asciiAlnum_toLower {c : Char} (h : asciiAlnum c = true) : asciiAlnum c.toLower = true := by
  have hall : ∀ n < 128, asciiAlnum (Char.ofNat n) = true →
      asciiAlnum (Char.ofNat n).toLower = true := by
    decide
  exact @ascii_forall (fun c => asciiAlnum c = true → asciiAlnum c.toLower = true) hall c
    (asciiAlnum_lt h) h

theorem toLower_toLower {c : Char} (h : c.toNat < 128) : c.toLower.toLower = c.toLower := by
  have hall : ∀ n < 128, (Char.ofNat n).toLower.toLower = (Char.ofNat n).toLower := by
    decide
  exact @ascii_forall (fun c => c.toLower.toLower = c.toLower) hall c h

theorem Ou.lowered_chars (school : Ou) : ∀ c ∈ school.name.toList.map Char.toLower,
    asciiAlnum c = true ∨ c = '-' ∨ c = '_' := by
  intro c hc
  obtain ⟨d, hd, rfl⟩ := List.mem_map.mp hc
  rcases school.chars d hd with h | rfl | rfl
  · exact .inl (asciiAlnum_toLower h)
  · exact .inr (.inl (by decide))
  · exact .inr (.inr (by decide))

theorem Ou.lowered_head (school : Ou) : ∃ c, (school.name.toList.map Char.toLower).head? = some c ∧
    asciiAlnum c = true := by
  obtain ⟨c, hc, halnum⟩ := school.head
  exact ⟨c.toLower, by rw [List.head?_map, hc, Option.map_some], asciiAlnum_toLower halnum⟩

/-- The name of a school in lower case. -/
def Ou.lowered (school : Ou) : Ou where
  name := String.ofList (school.name.toList.map Char.toLower)
  chars := String.toList_ofList ▸ school.lowered_chars
  head := String.toList_ofList ▸ school.lowered_head

theorem Ou.ascii (school : Ou) : ∀ c ∈ school.name.toList, c.toNat < 128 := by
  intro c hc
  rcases school.chars c hc with h | rfl | rfl
  · exact asciiAlnum_lt h
  · decide
  · decide

theorem Ou.lower_name [CaseRuntime] (school : Ou) :
    Runtime.lower school.name = school.lowered.name :=
  CaseRuntime.lower_ascii school.name school.ascii

theorem RoleGroup.groupStart_eq (role : RoleGroup) : role.groupStart = role.container ++ "-" := by
  cases role <;> rfl

theorem RoleGroup.escape_groupStart [DnEscaping] (role : RoleGroup) (school : Ou) :
    DnEscaping.escapeDnChars (role.groupStart ++ school.name) = role.groupStart ++ school.name := by
  apply Ou.escape_append
  · cases role <;> decide
  · cases role <;> decide

end Names

/-- The beginnings of the groups of two roles differ. -/
theorem RoleGroup.differ_of_ne {a b : RoleGroup} (h : a ≠ b) :
    differ ("cn=" ++ a.container ++ "-").toList ("cn=" ++ b.container ++ "-").toList = true := by
  cases a <;> cases b <;> first | exact absurd rfl h | decide

theorem RoleGroup.container_ascii (role : RoleGroup) :
    ("cn=" ++ role.container ++ "-").toList.all (fun c => c.toNat < 128) = true := by
  cases role <;> decide

/-- The expressions with `?` for the name of a school pass one character. -/
def GroupRegex.single : GroupRegex → Bool
  | staffGroup | studentsGroup => true
  | _ => false

section Recognised

variable [CaseFolding] {base : LdapBase} {school : Ou} {r : GroupRegex}

theorem GroupRegex.exists_start (r : GroupRegex) : ∃ next, r.regex base =
    .seq (ignoreCase ("cn=" ++ r.role.container ++ "-")) next := by
  cases r <;> exact ⟨_, rfl⟩

/-- An expression does not match the group of another role. -/
theorem not_matches_other {role : RoleGroup} (hrole : r.role ≠ role) (more : List Char) :
    ¬ (r.regex base).Matches (("cn=" ++ role.container ++ "-").toList ++ more) := by
  intro h
  obtain ⟨rest, hrest⟩ := Regex.matches_iff.mp h
  obtain ⟨next, hnext⟩ := @GroupRegex.exists_start _ base r
  rw [hnext, Regex.mem_rests_seq] at hrest
  obtain ⟨middle, hmiddle, -⟩ := hrest
  exact not_mem_ignoreCase r.role.container_ascii role.container_ascii
    (RoleGroup.differ_of_ne hrole) hmiddle

omit [CaseFolding] in
theorem GroupRegex.mem_value (hsingle : r.single = true → school.name.toList.length = 1)
    (rest : List Char) : rest ∈ r.value.rests (school.name.toList ++ rest) := by
  have hcomma : ',' ∉ school.name.toList := fun h => school.plain ',' h (by decide)
  have hone : school.name.toList.length = 1 →
      rest ∈ (Regex.opt (.one notComma)).rests (school.name.toList ++ rest) := by
    intro hlength
    obtain ⟨c, hc⟩ := List.length_eq_one_iff.mp hlength
    rw [hc] at hcomma ⊢
    have hne : c ≠ ',' := fun h => hcomma (List.mem_singleton.mpr h.symm)
    exact Regex.mem_rests_opt.mpr (.inl (Regex.mem_rests_one.mpr ⟨c, decide_eq_true hne, rfl⟩))
  cases r with
  | staffGroup => exact hone (hsingle rfl)
  | studentsGroup => exact hone (hsingle rfl)
  | _ => exact mem_valueRegex school.toList_ne_nil hcomma

/-- The group that an expression with `?` matches is that of a school of one character. -/
theorem length_of_single (hsingle : r.single = true)
    (h : (r.regex base).Matches (schoolGroupText base r.role.container school.name.toList)) :
    school.name.toList.length = 1 := by
  have hadmins : r ≠ .isAdminsGroup := by
    rintro rfl
    cases hsingle
  have hvalue : r.value = .opt (.one notComma) := by
    cases r <;> first | rfl | cases hsingle
  rw [GroupRegex.regex_eq hadmins] at h
  obtain ⟨group, after, heq, -, hafter, rest, hrest⟩ :=
    containers_of_schoolGroupRegex r.value_passesNoComma rfl h
  have hcomma : ',' ∉ school.name.toList := fun h => school.plain ',' h (by decide)
  obtain ⟨c, school', hschool⟩ := List.exists_cons_of_ne_nil school.toList_ne_nil
  have hafter' : ∃ more, after = ',' :: more := by
    obtain ⟨before, rfl, hbefore⟩ := Regex.mem_rests_lit.mp hrest
    cases hbefore with
    | cons hsame _ => exact ⟨_, by rw [CaseFolding.same_separator ',' (by decide) _ hsame]; rfl⟩
  obtain ⟨more, rfl⟩ := hafter'
  rw [hschool] at hcomma hafter ⊢
  rw [hvalue, Regex.mem_rests_opt, Regex.mem_rests_one] at hafter
  rcases hafter with ⟨d, -, hd⟩ | hall
  · cases school' with
    | nil => rfl
    | cons e school' =>
      obtain ⟨rfl, -⟩ := List.cons.inj (List.cons.inj hd).2
      exact absurd (List.mem_cons_of_mem _ List.mem_cons_self) hcomma
  · obtain ⟨rfl, -⟩ := List.cons.inj hall
    exact absurd List.mem_cons_self hcomma

end Recognised

section Groups

variable [CaseRuntime] [DnSyntax] {base : LdapBase} {school : Ou}

/-- The DN of the group of a role that a school has for itself. -/
theorem toList_roleGroup {role : RoleGroup} (hrole : role ≠ .schoolAdmins) :
    (UserGroup.dn base (.roleGroup role school.name)).toList =
      schoolGroupText base role.container school.name.toList := by
  have hdn : UserGroup.dn base (.roleGroup role school.name) =
      getGroupDn base (role.groupStart ++ school.name) school.name := by
    cases role with
    | schoolAdmins => exact absurd rfl hrole
    | _ => rfl
  rw [hdn, getGroupDn, objectDn, SearchBase.schoolDn, role.escape_groupStart, school.escape_name,
    role.groupStart_eq]
  simp [schoolGroupText]

/-- The DN of the group of the admins. -/
theorem toList_adminsGroup : (UserGroup.dn base (.roleGroup .schoolAdmins school.name)).toList =
    ("cn=" ++ RoleGroup.schoolAdmins.container ++ "-").toList ++ (school.lowered.name.toList ++
      (",cn=ouadmins,cn=groups," ++ base.text).toList) := by
  rw [UserGroup.dn, school.lower_name, RoleGroup.groupStart_eq]
  simp

variable [CaseFolding] {r : GroupRegex}

theorem adminsGroup_matches : (GroupRegex.isAdminsGroup.regex base).Matches
    (UserGroup.dn base (.roleGroup .schoolAdmins school.name)).toList := by
  have hcomma : ',' ∉ school.lowered.name.toList := fun h => school.lowered.plain ',' h (by decide)
  rw [toList_adminsGroup, Regex.matches_iff]
  refine ⟨[], Regex.mem_rests_seq.mpr ⟨_, mem_ignoreCase_self _, ?_⟩⟩
  refine Regex.mem_rests_seq.mpr ⟨_, mem_valueRegex school.lowered.toList_ne_nil hcomma, ?_⟩
  have hend := @mem_ignoreCase_self _ [] (",cn=ouadmins,cn=groups," ++ base.text)
  rwa [List.append_nil] at hend

/-- The expressions recognise the groups of their role, and of those with `?` one for a school of
one character. -/
theorem roleGroup_matches {role : RoleGroup} :
    (r.regex base).Matches (UserGroup.dn base (.roleGroup role school.name)).toList ↔
      r.role = role ∧ (r.single = true → school.name.toList.length = 1) := by
  by_cases hrole : r.role = role
  · subst hrole
    rw [eq_self, true_and]
    by_cases hadmins : r = .isAdminsGroup
    · subst hadmins
      exact iff_of_true adminsGroup_matches (fun h => by cases h)
    · have hrole : r.role ≠ .schoolAdmins := by
        cases r with
        | isAdminsGroup => exact absurd rfl hadmins
        | _ => decide
      rw [toList_roleGroup hrole]
      constructor
      · exact fun h hsingle => length_of_single hsingle h
      · intro hsingle
        rw [GroupRegex.regex_eq hadmins]
        exact schoolGroupRegex_self (GroupRegex.mem_value hsingle)
  · apply iff_of_false
    · by_cases hadmins : role = .schoolAdmins
      · subst hadmins
        rw [toList_adminsGroup]
        exact not_matches_other hrole _
      · rw [toList_roleGroup hadmins]
        exact not_matches_other hrole _
    · exact fun h => hrole h.1

/-! ## Other groups and the positions -/

theorem domainUsers_not_matches :
    ¬ (r.regex base).Matches (UserGroup.dn base (.domainUsers school.name)).toList := by
  have hescape : DnEscaping.escapeDnChars ("Domain Users " ++ school.name) =
      "Domain Users " ++ school.name := school.escape_append (by decide) (by decide)
  have htext : (UserGroup.dn base (.domainUsers school.name)).toList =
      "cn=Domain Users ".toList ++ (school.name.toList ++ ("," ++
        ("cn=groups," ++ SearchBase.schoolDn base school.name)).toList) := by
    rw [UserGroup.dn, getGroupDn, objectDn, hescape]
    simp
  intro h
  obtain ⟨rest, hrest⟩ := Regex.matches_iff.mp h
  obtain ⟨next, hnext⟩ := @GroupRegex.exists_start _ base r
  rw [hnext, htext, Regex.mem_rests_seq] at hrest
  obtain ⟨middle, hmiddle, -⟩ := hrest
  have hdiffer : differ ("cn=" ++ r.role.container ++ "-").toList "cn=Domain Users ".toList = true := by
    cases r <;> decide
  exact not_mem_ignoreCase r.role.container_ascii (by decide) hdiffer hmiddle

omit [CaseRuntime] [CaseFolding] in
theorem escapedValue_escape (name : String) : EscapedValue (DnEscaping.escapeDnChars name).toList :=
  fun before after heq => DnSyntax.escaped_equals name before after heq

theorem schoolClass_not_matches (school name : String) :
    ¬ (r.regex base).Matches (UserGroup.dn base (.schoolClass school name)).toList := by
  have htext : (UserGroup.dn base (.schoolClass school name)).toList =
      ['c', 'n', '='] ++ (DnEscaping.escapeDnChars name).toList ++ (',' :: 'c' :: 'n' :: '=' :: 'k' ::
        ("lassen,cn=schueler,cn=groups," ++ SearchBase.schoolDn base school).toList) := by
    change ("cn=" ++ _ ++ "," ++ ("cn=klassen,cn=schueler,cn=groups," ++ _)).toList = _
    simp
  rw [htext]
  exact not_matches_value (escapedValue_escape name) List.mem_cons_self r

theorem workgroup_not_matches (school name : String) :
    ¬ (r.regex base).Matches (UserGroup.dn base (.workgroup school name)).toList := by
  have htext : (UserGroup.dn base (.workgroup school name)).toList =
      ['c', 'n', '='] ++ (DnEscaping.escapeDnChars name).toList ++ (',' :: 'c' :: 'n' :: '=' :: 's' ::
        ("chueler,cn=groups," ++ SearchBase.schoolDn base school).toList) := by
    change ("cn=" ++ _ ++ "," ++ ("cn=schueler,cn=groups," ++ _)).toList = _
    simp
  rw [htext]
  exact not_matches_value (escapedValue_escape name) (List.mem_cons_of_mem _ List.mem_cons_self) r

omit [CaseRuntime] in
/-- A container of users is recognised by the expression for it. -/
theorem userContainerRegex_self (name : String) (school : Ou) :
    (userContainerRegex base name).Matches (SearchBase.users base name school.name).toList := by
  have hcomma : ',' ∉ school.name.toList := fun h => school.plain ',' h (by decide)
  have htext : (SearchBase.users base name school.name).toList =
      ("cn=" ++ name ++ ",cn=users,ou=").toList ++ (school.name.toList ++
        ("," ++ base.text).toList) := by
    rw [SearchBase.users, SearchBase.schoolDn, school.escape_name]
    simp
  rw [htext, Regex.matches_iff]
  refine ⟨[], Regex.mem_rests_seq.mpr ⟨_, mem_ignoreCase_self _, ?_⟩⟩
  refine Regex.mem_rests_seq.mpr ⟨_, mem_valueRegex school.toList_ne_nil hcomma, ?_⟩
  have hend := @mem_ignoreCase_self _ [] ("," ++ base.text)
  rwa [List.append_nil] at hend

omit [CaseRuntime] in
/-- The position of every class but the exam students is recognised. -/
theorem position_matches {cls : UserClass} (hcls : cls ≠ .examStudent) (school : Ou) :
    (positionRegex base cls).Matches (cls.position base school.name).toList := by
  have hguardians : DnEscaping.escapeDnChars "sorgeberechtigte" = "sorgeberechtigte" := by
    rw [DnEscaping.escape_eq_self, ← List.forall_iff_forall_mem]
    decide
  cases cls with
  | examStudent => exact absurd rfl hcls
  | legalGuardian =>
    rw [UserClass.position, hguardians]
    exact userContainerRegex_self _ school
  | _ => exact userContainerRegex_self _ school

end Groups

/-! ## Parameters, written out -/

/-- A letter in lower case is no sign. -/
theorem eq_of_toLower_eq {c d : Char} (hd : d.toNat ≤ 96) (h : c.toLower = d) : c = d := by
  unfold Char.toLower at h
  split at h
  · next hupper =>
    have hval := congrArg (fun c => c.val.toNat) h
    simp only [UInt32.le_iff_toNat_le, UInt32.toNat_add, ge_iff_le] at hupper hval
    simp at hupper hval
    omega
  · exact h

theorem asciiFolding_separator : ∀ c ∈ [',', '='], ∀ d : Char,
    (c.toLower == d.toLower) = true → d = c := by
  have hsign : ∀ c ∈ [',', '='], c.toLower = c ∧ c.toNat ≤ 96 :=
    List.forall_iff_forall_mem.mp (by decide)
  intro c hc d h
  obtain ⟨hlower, hle⟩ := hsign c hc
  exact eq_of_toLower_eq hle ((beq_iff_eq.mp h).symm.trans hlower)

/-- Characters compared in lower case. -/
@[reducible] def asciiFolding : CaseFolding where
  same c d := c.toLower == d.toLower
  sameAgain c d := c.toLower == d.toLower
  same_refl _ := beq_self_eq_true _
  sameAgain_refl _ := beq_self_eq_true _
  same_ascii _ _ _ _ h := beq_iff_eq.mp h
  same_separator := asciiFolding_separator

theorem EscapedValue.nil : EscapedValue [] := fun before after h => by cases before <;> cases h

/-- Another character before a value does not make an equals sign stand alone. -/
theorem EscapedValue.cons {c : Char} {value : List Char} (h : EscapedValue value) (hc : c ≠ '=') :
    EscapedValue (c :: value) := by
  intro before after heq
  cases before with
  | nil => exact absurd (List.cons.inj heq).1 hc
  | cons d before =>
    obtain ⟨-, heq⟩ := List.cons.inj heq
    have hlast := h before after heq
    cases before with
    | nil => cases hlast
    | cons e before => exact hlast

theorem EscapedValue.cons_equals {value : List Char} (h : EscapedValue value) :
    EscapedValue ('\\' :: '=' :: value) := by
  intro before after heq
  rcases before with _ | ⟨c, _ | ⟨d, before⟩⟩
  · cases (List.cons.inj heq).1
  · obtain ⟨rfl, -⟩ := List.cons.inj heq
    rfl
  · have hlast := h before after (List.cons.inj (List.cons.inj heq).2).2
    cases before with
    | nil => cases hlast
    | cons e before => exact hlast

theorem EscapedValue.append {value tail : List Char} (h : EscapedValue value) (htail : '=' ∉ tail) :
    EscapedValue (value ++ tail) := by
  intro before after heq
  rcases List.append_eq_append_iff.mp heq with ⟨more, rfl, hmore⟩ | ⟨more, hvalue, hmore⟩
  · exact absurd (hmore ▸ List.mem_append_right _ List.mem_cons_self) htail
  · cases more with
    | nil =>
      rw [List.nil_append] at hmore
      exact absurd (hmore ▸ List.mem_cons_self) htail
    | cons c more =>
      obtain ⟨rfl, -⟩ := List.cons.inj hmore
      exact h before more hvalue

theorem EscapedValue.dropLast {value : List Char} (h : EscapedValue value) :
    EscapedValue value.dropLast := by
  intro before after heq
  cases hlast : value.getLast? with
  | none =>
    rw [List.getLast?_eq_none_iff] at hlast
    subst hlast
    exact h before after heq
  | some c =>
    apply h before (after ++ [c])
    rw [← List.dropLast_append_getLast? c hlast, heq, List.append_assoc, List.cons_append]

theorem escapedValue_flatMap (text : List Char) : EscapedValue (text.flatMap escapedChar) := by
  induction text with
  | nil => exact .nil
  | cons c text ih =>
    rw [List.flatMap_cons]
    by_cases hequals : c = '='
    · subst hequals
      exact ih.cons_equals
    · have hchar : ∀ d ∈ escapedChar c, d ≠ '=' := by
        unfold escapedChar
        split
        · exact List.forall_iff_forall_mem.mp (by decide)
        · split
          · simpa using hequals
          · simpa using hequals
      generalize escapedChar c = cs at hchar
      induction cs with
      | nil => exact ih
      | cons d cs ihcs =>
        obtain ⟨hd, hcs⟩ := List.forall_mem_cons.mp hchar
        exact (ihcs hcs).cons hd

theorem pythonEscape_equals (text : String) (before after : List Char)
    (h : (pythonEscape text).toList = before ++ '=' :: after) : before.getLast? = some '\\' := by
  have hends : EscapedValue (escapedEnd (text.toList.flatMap escapedChar)) := by
    unfold escapedEnd
    split
    · exact (escapedValue_flatMap _).dropLast.append (by decide)
    · exact escapedValue_flatMap _
  have hstarts : EscapedValue (escapedStart (escapedEnd (text.toList.flatMap escapedChar))) := by
    unfold escapedStart
    split
    · exact hends.cons (by decide)
    · exact hends
  rw [pythonEscape, String.toList_ofList] at h
  exact hstarts before after h

@[reducible] def pythonDnSyntax : DnSyntax where
  toDnEscaping := pythonEscaping
  escaped_equals := pythonEscape_equals

theorem schoolBase_plain : ∀ c ∈ "dc=school".toList,
    c ∉ ['\\', '.', '^', '$', '*', '+', '?', '\x7b', '\x7d', '[', ']', '|', '(', ')'] :=
  List.forall_iff_forall_mem.mp (by decide)

def schoolBase : LdapBase where
  text := "dc=school"
  plain := schoolBase_plain

end Kelvin
