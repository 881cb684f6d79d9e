import Mathlib.Algebra.Order.BigOperators.Group.Finset
import Kelvin.Lib.Conversion
import Kelvin.Lib.SearchBase

/-!
# The groups that a conversion adds

`UserTypeConverter._groups` builds the DNs of the additional classes and workgroups itself. A
modification takes the DNs of `get_school_class_objs` and `get_workgroup_objs`, which put the school
before a name only if it is not there, and escape the name.

* `additionalDns`, `objectDns`: the DNs of the two, for a dictionary of names.
* `groupsAfter`: the groups of a user after a conversion.
* `eq_of_image_eq`: two functions with the same values, of which one is nowhere smaller.
* `addsObjects_iff`: the DNs are the same if and only if no name starts with its school and none has
  to be escaped.
-/

namespace Kelvin

/-- The escaping of DN values, which can be undone, and leaves the hyphens. -/
class DnNames extends DnSyntax where
  escaped_inj : Function.Injective escapeDnChars
  escaped_length : ∀ text, text.toList.length ≤ (escapeDnChars text).toList.length
  escaped_same : ∀ text, (escapeDnChars text).toList.length = text.toList.length →
    escapeDnChars text = text
  escaped_hyphens : ∀ text, (escapeDnChars text).toList.count '-' = text.toList.count '-'

/-! ## DNs -/

/-- The school and the name of each group of a dictionary. -/
def namedGroups (names : Table String (List String)) : List (String × String) :=
  names.rows.flatMap (fun entry => entry.2.map (fun name => (entry.1, name)))

theorem mem_namedGroups {names : Table String (List String)} {g : String × String} :
    g ∈ namedGroups names ↔ ∃ entry ∈ names.rows, ∃ name ∈ entry.2, g = (entry.1, name) := by
  simp only [namedGroups, List.mem_flatMap, List.mem_map, eq_comm]

/-- `get_school_class_objs` and `get_workgroup_objs` give the full names. -/
theorem groupObjs_eq (names : Table String (List String)) :
    groupObjs names = (namedGroups names).map (fun g => (g.1, fullName g.1 g.2)) := by
  simp only [groupObjs, namedGroups, List.map_flatMap, List.map_map]
  rfl

/-- `get_school_class_objs`, which a member of the staff overrides. -/
def schoolClassObjs (cls : UserClass) (names : Table String (List String)) : List (String × String) :=
  if cls = .staff then [] else groupObjs names

/-- `f"cn={school}-{name},{cn}"`. -/
def additionalDn (container : String → String) (g : String × String) : String :=
  "cn=" ++ g.1 ++ "-" ++ g.2 ++ "," ++ container g.1

/-- The DNs that `_groups` builds of a dictionary. -/
def additionalDns (container : String → String) (names : Table String (List String)) : List String :=
  (namedGroups names).map (additionalDn container)

/-- A user before a conversion. -/
structure GroupedUser where
  cls : UserClass
  schools : List Ou
  schoolClasses : Table String (List String)
  groups : List String

section Groups

variable [Runtime] [DnEscaping] (base : LdapBase)

/-- The DNs of the objects with these schools and names. -/
def objectDns (container : String → String) (objs : List (String × String)) : List String :=
  objs.map (fun g => objectDn g.2 (container g.1))

/-- `get_students_groups` and its companions. -/
def roleGroupDns (roles : List RoleGroup) (schools : List Ou) : List String :=
  roles.flatMap (fun role => schools.map (fun s => UserGroup.dn base (.roleGroup role s.name)))

/-- The class DNs that `_groups` adds. -/
def addedClasses (target : UserClass) (classes : Table String (List String)) : List String :=
  if target = .staff then [] else additionalDns (SearchBase.classes base) classes

/-- `groups`, without those that are removed. -/
def keptGroups (target : UserClass) (u : GroupedUser) : List String :=
  let removed := roleGroupDns base target.groupsRm u.schools ++
    (if target = .staff then
      objectDns (SearchBase.classes base) (schoolClassObjs u.cls u.schoolClasses)
    else [])
  u.groups.filter (fun g => Runtime.lower g ∉ removed.map Runtime.lower)

/-- `_groups`. -/
def groupsAfter (target : UserClass) (u : GroupedUser)
    (classes workgroups : Table String (List String)) : List String :=
  let kept := keptGroups base target u
  let added := roleGroupDns base target.roleGroups u.schools ++ addedClasses base target classes ++
    additionalDns (SearchBase.workgroups base) workgroups
  sortedTexts (kept ++ added.filter (fun g => Runtime.lower g ∉ kept.map Runtime.lower)).dedup

omit [Runtime] in
/-- The class and workgroup DNs that `_groups` adds are those of the objects. -/
structure AddsObjects (target : UserClass) (classes workgroups : Table String (List String)) :
    Prop where
  classes : ∀ dn, dn ∈ addedClasses base target classes ↔
    dn ∈ objectDns (SearchBase.classes base) (schoolClassObjs target classes)
  workgroups : ∀ dn, dn ∈ additionalDns (SearchBase.workgroups base) workgroups ↔
    dn ∈ objectDns (SearchBase.workgroups base) (groupObjs workgroups)

end Groups

/-- No name starts with its school and a hyphen, and with them before it, no name is escaped. -/
def NamesPlain [DnEscaping] (names : Table String (List String)) : Prop :=
  ∀ entry ∈ names.rows, ∀ name ∈ entry.2, ¬ startsWith name (schoolPrefix entry.1) = true ∧
    DnEscaping.escapeDnChars (schoolPrefix entry.1 ++ name) = schoolPrefix entry.1 ++ name

/-! ## Functions with the same values -/

section Images

variable {α β : Type*} [DecidableEq β] {s : Finset α} {f g : α → β}

/-- Two functions have the same values, and the first has each of them once. Then the second has
each of them once, and a measure in which it is nowhere larger does not tell them apart. -/
theorem eq_of_image_eq (hf : Set.InjOn f s) (himage : s.image f = s.image g) (measure : β → ℕ)
    (hle : ∀ a ∈ s, measure (g a) ≤ measure (f a)) :
    Set.InjOn g s ∧ ∀ a ∈ s, measure (g a) = measure (f a) := by
  have hg : Set.InjOn g s := by
    rw [← Finset.card_image_iff, ← himage]
    exact Finset.card_image_of_injOn hf
  refine ⟨hg, ?_⟩
  have hsum : ∑ a ∈ s, measure (g a) = ∑ a ∈ s, measure (f a) := by
    rw [← Finset.sum_image hg, ← himage, Finset.sum_image hf]
  exact (Finset.sum_eq_sum_iff_of_le hle).mp hsum

end Images

/-! ## The DNs of a container -/

/-- No part of an escaped value follows an equals sign that is not escaped. -/
theorem EscapedValue.nothing_between {before before' value value' more : List Char}
    (hvalue : EscapedValue value) (hbefore : before ++ ['u'] = (before' ++ ['u']) ++ more)
    (hmore : '=' :: value = more ++ '=' :: value') : more = [] := by
  cases more with
  | nil => rfl
  | cons c more =>
    obtain ⟨rfl, rfl⟩ := List.cons.inj hmore
    have hback := hvalue more value' rfl
    have hu := congrArg List.getLast? hbefore
    rw [List.getLast?_concat, List.getLast?_append, List.getLast?_cons, hback] at hu
    cases hu

/-- The last equals sign without a backslash is that before the value at the end. -/
theorem EscapedValue.unique {before before' value value' : List Char} (hvalue : EscapedValue value)
    (hvalue' : EscapedValue value')
    (h : before ++ 'u' :: '=' :: value = before' ++ 'u' :: '=' :: value') :
    before = before' ∧ value = value' := by
  have hsplit : (before ++ ['u']) ++ '=' :: value = (before' ++ ['u']) ++ '=' :: value' := by
    simpa using h
  rcases List.append_eq_append_iff.mp hsplit with ⟨more, hx, hmore⟩ | ⟨more, hx, hmore⟩
  · obtain rfl := hvalue.nothing_between hx hmore
    rw [List.append_nil] at hx
    exact ⟨(List.append_cancel_right hx).symm, (List.cons.inj hmore).2⟩
  · obtain rfl := hvalue'.nothing_between hx hmore
    rw [List.append_nil] at hx
    exact ⟨List.append_cancel_right hx, (List.cons.inj hmore).2.symm⟩

section Container

/-- A container ends with the DN of the school, from which the school can be read. -/
def EndsWithSchool [DnEscaping] (base : LdapBase) (container : String → String) : Prop :=
  ∃ start, ∀ school, container school = start ++ SearchBase.schoolDn base school

/-- The school is put before a name without it. -/
theorem fullName_of_not {school name : String} (h : ¬ startsWith name (schoolPrefix school) = true) :
    fullName school name = schoolPrefix school ++ name := if_neg h

variable {container : String → String}

theorem count_additionalDn (g : String × String) : (additionalDn container g).toList.count '-' =
    (schoolPrefix g.1 ++ g.2).toList.count '-' + (container g.1).toList.count '-' := by
  have hsign : ("," : String).toList.count '-' = 0 ∧ ("cn=" : String).toList.count '-' = 0 := by decide
  simp only [additionalDn, schoolPrefix, String.toList_append, List.count_append, hsign]
  omega

/-- A full name has no more hyphens than the school and the name, and fewer if the school is
there already. -/
theorem count_fullName (school name : String) :
    (fullName school name).toList.count '-' ≤ (schoolPrefix school ++ name).toList.count '-' ∧
      ((fullName school name).toList.count '-' = (schoolPrefix school ++ name).toList.count '-' →
        ¬ startsWith name (schoolPrefix school) = true) := by
  by_cases h : startsWith name (schoolPrefix school) = true
  · have hhyphen : (schoolPrefix school).toList.count '-' = school.toList.count '-' + 1 := by
      simp [schoolPrefix]
    rw [fullName_of_startsWith h, String.toList_append, List.count_append]
    omega
  · rw [fullName_of_not h]
    exact ⟨le_refl _, fun _ => h⟩

theorem length_additionalDn (g : String × String) : (additionalDn container g).toList.length =
    (schoolPrefix g.1 ++ g.2).toList.length + (container g.1).toList.length + 4 := by
  have hlength : ("cn=" : String).toList.length = 3 ∧ ("," : String).toList.length = 1 := by decide
  simp only [additionalDn, schoolPrefix, String.toList_append, List.length_append, hlength]
  omega
variable [DnNames] {base : LdapBase} (hcontainer : EndsWithSchool base container)

include hcontainer in
/-- Each school and name have a DN of their own, also when the name is not escaped. -/
theorem additionalDn_injective : Function.Injective (additionalDn container) := by
  obtain ⟨start, hstart⟩ := hcontainer
  have htext : ∀ g, (additionalDn container g).toList =
      ("cn=" ++ (g.1 ++ ("-" ++ (g.2 ++ ("," ++ (start ++ "o")))))).toList ++
        'u' :: '=' :: (DnEscaping.escapeDnChars g.1).toList ++ ("," ++ base.text).toList := by
    intro g
    rw [additionalDn, hstart]
    change ("cn=" ++ _ ++ _ ++ _ ++ _ ++ (start ++ ("ou=" ++ _ ++ "," ++ base.text))).toList = _
    simp
  rintro ⟨school, name⟩ ⟨school', name'⟩ h
  have hlist := congrArg String.toList h
  rw [htext, htext] at hlist
  obtain ⟨hbefore, hvalue⟩ := (escapedValue_escape _).unique (escapedValue_escape _)
    (List.append_cancel_right hlist)
  obtain rfl := DnNames.escaped_inj (String.toList_inj.mp hvalue)
  have hname := String.toList_inj.mp hbefore
  simp only [String.append_right_inj, String.append_left_inj] at hname
  rw [hname]

theorem count_objectDn (name : String) (school : String) :
    (objectDn name (container school)).toList.count '-' =
      name.toList.count '-' + (container school).toList.count '-' := by
  have hsign : ("," : String).toList.count '-' = 0 ∧ ("cn=" : String).toList.count '-' = 0 := by decide
  simp only [objectDn, String.toList_append, List.count_append, DnNames.escaped_hyphens, hsign]
  omega

theorem length_objectDn (name : String) (school : String) :
    (objectDn name (container school)).toList.length =
      (DnEscaping.escapeDnChars name).toList.length + (container school).toList.length + 4 := by
  have hlength : ("cn=" : String).toList.length = 3 ∧ ("," : String).toList.length = 1 := by decide
  simp only [objectDn, String.toList_append, List.length_append, hlength]
  omega

/-- A plain name has the same DN twice. -/
theorem objectDn_of_plain {school name : String}
    (hstart : ¬ startsWith name (schoolPrefix school) = true)
    (hescape : DnEscaping.escapeDnChars (schoolPrefix school ++ name) = schoolPrefix school ++ name) :
    objectDn (fullName school name) (container school) = additionalDn container (school, name) := by
  rw [fullName_of_not hstart, objectDn, hescape, additionalDn, schoolPrefix]
  simp only [String.append_assoc]

theorem objectDns_groupObjs (names : Table String (List String)) :
    objectDns container (groupObjs names) =
      (namedGroups names).map (fun g => objectDn (fullName g.1 g.2) (container g.1)) := by
  rw [objectDns, groupObjs_eq, List.map_map]
  rfl

include hcontainer in
/-- The DNs that are built by hand are those of the objects if and only if all names are plain. -/
theorem additionalDns_iff {names : Table String (List String)} :
    (∀ dn, dn ∈ additionalDns container names ↔ dn ∈ objectDns container (groupObjs names)) ↔
      NamesPlain names := by
  rw [objectDns_groupObjs, additionalDns]
  constructor
  · intro h
    have himage : (namedGroups names).toFinset.image (additionalDn container) =
        (namedGroups names).toFinset.image
          (fun g => objectDn (fullName g.1 g.2) (container g.1)) := by
      ext dn
      simpa only [Finset.mem_image, List.mem_toFinset, List.mem_map] using h dn
    -- the hyphens show that no name starts with its school, and then the length that none is escaped
    obtain ⟨hinj, hcount⟩ := eq_of_image_eq (additionalDn_injective hcontainer).injOn himage
      (fun dn => dn.toList.count '-') (fun g _ => by
        rw [count_objectDn, count_additionalDn]
        exact Nat.add_le_add_right (count_fullName g.1 g.2).1 _)
    have hstart : ∀ g ∈ namedGroups names, ¬ startsWith g.2 (schoolPrefix g.1) = true := by
      intro g hg
      have hsame := hcount g (List.mem_toFinset.mpr hg)
      rw [count_objectDn, count_additionalDn] at hsame
      exact (count_fullName g.1 g.2).2 (Nat.add_right_cancel hsame)
    obtain ⟨-, hlength⟩ := eq_of_image_eq hinj himage.symm (fun dn => dn.toList.length) (by
      intro g hg
      rw [length_objectDn, length_additionalDn, fullName_of_not (hstart g (List.mem_toFinset.mp hg))]
      have hle := DnNames.escaped_length (schoolPrefix g.1 ++ g.2)
      omega)
    rintro ⟨school, names'⟩ hentry name hname
    have hg : (school, name) ∈ namedGroups names :=
      mem_namedGroups.mpr ⟨_, hentry, name, hname, rfl⟩
    refine ⟨hstart _ hg, ?_⟩
    have hsame := hlength _ (List.mem_toFinset.mpr hg)
    rw [length_objectDn, length_additionalDn, fullName_of_not (hstart _ hg)] at hsame
    dsimp only at hsame ⊢
    exact DnNames.escaped_same _ (by omega)
  · intro hplain dn
    have hsame : (namedGroups names).map (fun g => objectDn (fullName g.1 g.2) (container g.1)) =
        (namedGroups names).map (additionalDn container) := by
      apply List.map_congr_left
      intro g hg
      obtain ⟨entry, hentry, name, hname, rfl⟩ := mem_namedGroups.mp hg
      obtain ⟨hstart, hescape⟩ := hplain entry hentry name hname
      exact objectDn_of_plain hstart hescape
    rw [hsame]

end Container

/-- If the DNs are those of the objects, a conversion adds the objects of all classes and workgroups
in which the user is not, as a modification does. -/
theorem mem_groupsAfter [Runtime] [DnEscaping] {base : LdapBase} {target : UserClass}
    {u : GroupedUser} {classes workgroups : Table String (List String)}
    (h : AddsObjects base target classes workgroups) (dn : String) :
    dn ∈ groupsAfter base target u classes workgroups ↔ dn ∈ keptGroups base target u ∨
      (dn ∈ roleGroupDns base target.roleGroups u.schools ∨
        dn ∈ objectDns (SearchBase.classes base) (schoolClassObjs target classes) ∨
        dn ∈ objectDns (SearchBase.workgroups base) (groupObjs workgroups)) ∧
      Runtime.lower dn ∉ (keptGroups base target u).map Runtime.lower := by
  rw [groupsAfter, sortedTexts, List.mem_insertionSort, List.mem_dedup, List.mem_append,
    List.mem_filter, List.mem_append, List.mem_append, h.classes, h.workgroups, or_assoc,
    decide_eq_true_eq]

/-- The DNs of the added classes and workgroups are those of the objects if and only if no class,
except for the staff, and no workgroup starts with its school or has to be escaped. -/
theorem addsObjects_iff [DnNames] (base : LdapBase) (target : UserClass)
    (classes workgroups : Table String (List String)) :
    AddsObjects base target classes workgroups ↔
      (target ≠ .staff → NamesPlain classes) ∧ NamesPlain workgroups := by
  have hclassDns : EndsWithSchool base (SearchBase.classes base) := ⟨_, fun _ => rfl⟩
  have hworkgroupDns : EndsWithSchool base (SearchBase.workgroups base) := ⟨_, fun _ => rfl⟩
  have hclasses : (∀ dn, dn ∈ addedClasses base target classes ↔
      dn ∈ objectDns (SearchBase.classes base) (schoolClassObjs target classes)) ↔
        (target ≠ .staff → NamesPlain classes) := by
    unfold addedClasses schoolClassObjs
    by_cases hstaff : target = .staff
    · simp [hstaff, objectDns]
    · rw [if_neg hstaff, if_neg hstaff, additionalDns_iff hclassDns]
      simp [hstaff]
  rw [← hclasses, ← additionalDns_iff hworkgroupDns]
  exact ⟨fun h => ⟨h.classes, h.workgroups⟩, fun h => ⟨h.1, h.2⟩⟩

/-! ## Python -/

/-- The value of a DN, as the library reads it. -/
def readValue : List Char → List Char
  | '\\' :: '0' :: '0' :: rest => '\x00' :: readValue rest
  | '\\' :: c :: rest => c :: readValue rest
  | c :: rest => c :: readValue rest
  | [] => []

theorem readValue_cons {c : Char} (h : c ≠ '\\') (rest : List Char) :
    readValue (c :: rest) = c :: readValue rest := by
  rw [readValue]
  · rintro rest rfl
    exact absurd rfl h
  · rintro d rest rfl
    exact absurd rfl h

theorem readValue_escaped {c : Char} (h : c ≠ '0') (rest : List Char) :
    readValue ('\\' :: c :: rest) = c :: readValue rest := by
  rw [readValue]
  rintro rest' rfl
  exact absurd rfl h

theorem readValue_escapedChar (c : Char) (rest : List Char) :
    readValue (escapedChar c ++ rest) = c :: readValue rest := by
  have hspecial : ∀ d ∈ ['\\', ',', '+', '"', '<', '>', ';', '='], d ≠ '0' :=
    List.forall_iff_forall_mem.mp (by decide)
  unfold escapedChar
  split
  · next hnul =>
    subst hnul
    rfl
  · split
    · next hmem => exact readValue_escaped (hspecial c hmem) rest
    · next hmem =>
      refine readValue_cons (fun heq => hmem ?_) rest
      rw [heq]
      exact List.mem_cons_self

theorem readValue_flatMap (text rest : List Char) :
    readValue (text.flatMap escapedChar ++ rest) = text ++ readValue rest := by
  induction text with
  | nil => rfl
  | cons c text ih => rw [List.flatMap_cons, List.append_assoc, readValue_escapedChar, ih,
      List.cons_append]

/-- A space at the end of an escaped text is one of the text. -/
theorem exists_of_last_space {text : List Char}
    (h : (text.flatMap escapedChar).getLast? = some ' ') : ∃ front, text = front ++ [' '] := by
  have hlast : ∀ c : Char, (escapedChar c).getLast? = some ' ' → c = ' ' := by
    intro c hc
    unfold escapedChar at hc
    split at hc
    · cases hc
    · split at hc
      · exact Option.some.inj hc
      · exact Option.some.inj hc
  rcases List.eq_nil_or_concat text with rfl | ⟨front, c, rfl⟩
  · cases h
  · have hne : escapedChar c ≠ [] := List.length_pos_iff.mp (length_escapedChar c)
    rw [List.concat_eq_append, List.flatMap_append, List.flatMap_cons, List.flatMap_nil,
      List.append_nil, List.getLast?_append_of_ne_nil _ hne] at h
    exact ⟨front, by rw [hlast c h, List.concat_eq_append]⟩

theorem escapedEnd_flatMap (text : List Char) :
    escapedEnd (text.flatMap escapedChar) = text.flatMap escapedChar ∨
      ∃ front, text = front ++ [' '] ∧
        escapedEnd (text.flatMap escapedChar) = front.flatMap escapedChar ++ ['\\', ' '] := by
  unfold escapedEnd
  split
  · next hlast =>
    obtain ⟨front, rfl⟩ := exists_of_last_space hlast
    refine .inr ⟨front, rfl, ?_⟩
    have hspace : [' '].flatMap escapedChar = [' '] := by decide
    rw [List.flatMap_append, hspace, List.dropLast_concat]
  · exact .inl rfl

theorem readValue_escapedEnd (text : List Char) :
    readValue (escapedEnd (text.flatMap escapedChar)) = text := by
  rcases escapedEnd_flatMap text with heq | ⟨front, rfl, heq⟩
  · rw [heq, ← List.append_nil (text.flatMap escapedChar), readValue_flatMap]
    exact List.append_nil text
  · rw [heq, readValue_flatMap]
    rfl

theorem readValue_escapedStart (value : List Char) :
    readValue (escapedStart value) = readValue value := by
  unfold escapedStart
  split
  · next h =>
    cases value with
    | nil => simp at h
    | cons c rest =>
      have hc : c ≠ '0' ∧ c ≠ '\\' := by
        rcases h with h | h
        · cases h
          decide
        · cases h
          decide
      rw [readValue_escaped hc.1, readValue_cons hc.2]
  · rfl

/-- An escaped text is read back. -/
theorem pythonEscape_injective : Function.Injective pythonEscape := by
  intro text text' h
  have hread : ∀ text, readValue (pythonEscape text).toList = text.toList := by
    intro text
    rw [pythonEscape, String.toList_ofList, readValue_escapedStart, readValue_escapedEnd]
  rw [← String.toList_inj, ← hread text, h, hread text']

theorem pythonEscape_hyphens (text : String) :
    (pythonEscape text).toList.count '-' = text.toList.count '-' := by
  have hchar : ∀ c : Char, (escapedChar c).count '-' = [c].count '-' := by
    intro c
    unfold escapedChar
    split
    · next h =>
      subst h
      rfl
    · split
      · exact List.count_cons_of_ne (by decide)
      · rfl
  have hchars : ∀ text : List Char, (text.flatMap escapedChar).count '-' = text.count '-' := by
    intro text
    induction text with
    | nil => rfl
    | cons c text ih =>
      rw [List.flatMap_cons, List.count_append, ih, hchar, ← List.count_append,
        List.singleton_append]
  have hends : (escapedEnd (text.toList.flatMap escapedChar)).count '-' = text.toList.count '-' := by
    rcases escapedEnd_flatMap text.toList with heq | ⟨front, htext, heq⟩
    · rw [heq, hchars]
    · rw [heq, htext, List.count_append, List.count_append, hchars]
      rfl
  rw [pythonEscape, String.toList_ofList, escapedStart]
  split
  · rw [List.count_cons_of_ne (by decide), hends]
  · exact hends

@[reducible] def pythonDnNames : DnNames where
  toDnSyntax := pythonDnSyntax
  escaped_inj := pythonEscape_injective
  escaped_length := length_pythonEscape
  escaped_same text h := (pythonEscape_eq_self text).mpr (plain_of_length h)
  escaped_hyphens := pythonEscape_hyphens

section Concrete

attribute [local instance] asciiRuntime pythonDnNames

/-- A class with the name of its school gets a second one. -/
theorem prefixed_not_objects :
    ¬ AddsObjects schoolBase .teacher (Table.empty.insert "A" ["A-1"]) .empty := by
  intro h
  have hadded := (h.classes "cn=A-A-1,cn=klassen,cn=schueler,cn=groups,ou=A,dc=school").mp
    (by decide)
  exact absurd hadded (by decide)

end Concrete

end Kelvin
