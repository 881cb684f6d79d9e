import Kelvin.Data.Regex
import Kelvin.Objects.Domain

/-!
# The names of schools and users

`SchoolName` and `is_valid_win_directory_name` of the lib (`attributes.py`), and the validators of the
objects package, which were ported from them.

* `SchoolName.validate`, `isValidWinDirectoryName`: the checks of the lib.
* `IsSchoolName`: the names that a school may have.
* `schoolName_valid_iff`, `schoolValidator_valid_iff`: both accept a line feed after such a name.
* `namesAgree_iff`: when the checks agree with each other and with the names.
* `pythonEscaping`: the escaping of DN values, written out.
-/

namespace Kelvin

/-- `escape_dn_chars` of the LDAP library. It leaves a text if no character has to be escaped. -/
class DnEscaping where
  escapeDnChars : String → String
  escape_eq_self : ∀ text, escapeDnChars text = text ↔
    (∀ c ∈ text.toList, c ∉ ['\\', ',', '+', '"', '<', '>', ';', '=', '\x00']) ∧
      text.toList.head? ∉ [some '#', some ' '] ∧ text.toList.getLast? ≠ some ' '

/-! ## The checks of the lib -/

/-- `CommonName.validate`, for a text and without a syntax. -/
def CommonName.validate [DnEscaping] (value : String) : Except Exc Unit :=
  check (value = DnEscaping.escapeDnChars value) "May not contain special characters"

/-- The characters inside of the name of a school. -/
def schoolNameChar (c : Char) : Bool := asciiAlnum c || c == '-' || c == '_'

/-- `^[a-zA-Z0-9](([a-zA-Z0-9-_]*)([a-zA-Z0-9]$))?$`. -/
def schoolNameRegex : Regex :=
  .seq (.one asciiAlnum)
    (.seq (.opt (.seq (.many schoolNameChar) (.seq (.one asciiAlnum) .lineEnd))) .lineEnd)

/-- `SchoolName.validate`. -/
def SchoolName.validate [DnEscaping] (value : String) : Except Exc Unit := do
  CommonName.validate value
  check (schoolNameRegex.Matches value.toList) "Invalid school name"

/-- `reserved_names`. -/
def reservedNames : List String :=
  ["CON", "PRN", "AUX", "NUL", "COM0", "COM1", "COM2", "COM3", "COM4", "COM5", "COM6", "COM7",
    "COM8", "COM9", "LPT0", "LPT1", "LPT2", "LPT3", "LPT4", "LPT5", "LPT6", "LPT7", "LPT8", "LPT9"]

/-- `is_valid_win_directory_name`. -/
def isValidWinDirectoryName [Runtime] (name : String) : Bool :=
  if name.toList.any winInvalidChar then false
  else if Runtime.upper (splitHead '.' name) ∈ reservedNames then false
  else if name.toList.getLast? = some ' ' ∨ name.toList.getLast? = some '.' then false
  else if 255 < name.toList.length then false
  else true

/-! ## The names of schools -/

/-- A name of ASCII letters, digits, hyphens and underscores, with a letter or digit at each end. -/
structure IsSchoolName (name : String) : Prop where
  chars : ∀ c ∈ name.toList, schoolNameChar c = true
  head : ∃ c, name.toList.head? = some c ∧ asciiAlnum c = true
  last : ∃ c, name.toList.getLast? = some c ∧ asciiAlnum c = true

theorem IsSchoolName.ne_empty {name : String} (h : IsSchoolName name) : name ≠ "" := by
  rintro rfl
  obtain ⟨c, hc, -⟩ := h.head
  cases hc

theorem schoolNameChar_of_alnum {c : Char} (h : asciiAlnum c = true) : schoolNameChar c = true := by
  rw [schoolNameChar, h]
  rfl

theorem isSchoolName_single {c : Char} (h : asciiAlnum c = true) : IsSchoolName (String.ofList [c]) := by
  refine ⟨?_, ⟨c, by simp, h⟩, ⟨c, by simp, h⟩⟩
  intro d hd
  rw [String.toList_ofList, List.mem_singleton] at hd
  exact hd ▸ schoolNameChar_of_alnum h

theorem isSchoolName_ends {c d : Char} {inner : List Char} (hc : asciiAlnum c = true)
    (hinner : ∀ e ∈ inner, schoolNameChar e = true) (hd : asciiAlnum d = true) :
    IsSchoolName (String.ofList (c :: inner ++ [d])) := by
  refine ⟨?_, ⟨c, by simp, hc⟩, ⟨d, by rw [String.toList_ofList, List.getLast?_concat], hd⟩⟩
  intro e he
  rw [String.toList_ofList, List.cons_append, List.mem_cons, List.mem_append,
    List.mem_singleton] at he
  rcases he with rfl | he | rfl
  · exact schoolNameChar_of_alnum hc
  · exact hinner e he
  · exact schoolNameChar_of_alnum hd

/-- A name is one character, or has two ends. -/
theorem IsSchoolName.cases {name : List Char} (h : IsSchoolName (String.ofList name)) :
    (∃ c, asciiAlnum c = true ∧ name = [c]) ∨
      ∃ c inner d, asciiAlnum c = true ∧ (∀ e ∈ inner, schoolNameChar e = true) ∧
        asciiAlnum d = true ∧ name = c :: inner ++ [d] := by
  obtain ⟨hchars, ⟨c, hhead, hc⟩, d, hlast, hd⟩ := h
  rw [String.toList_ofList] at hchars hhead hlast
  cases name with
  | nil => cases hhead
  | cons first rest =>
    obtain rfl := Option.some.inj hhead
    by_cases hrest : rest = []
    · subst hrest
      exact .inl ⟨first, hc, rfl⟩
    · have hlast' : rest.getLast hrest = d := by
        rw [List.getLast?_cons, List.getLast?_eq_some_getLast hrest] at hlast
        exact Option.some.inj hlast
      have heq : rest.dropLast ++ [d] = rest := by
        rw [← hlast', List.dropLast_append_getLast hrest]
      refine .inr ⟨first, rest.dropLast, d, hc, fun e he => ?_, hd, ?_⟩
      · exact hchars e (List.mem_cons_of_mem _ (List.mem_of_mem_dropLast he))
      · rw [List.cons_append, heq]

/-- The text is a name, or a name with a line feed at its end. -/
def NameLine (text : List Char) : Prop :=
  ∃ name, IsSchoolName (String.ofList name) ∧ (text = name ∨ text = name ++ ['\n'])

/-- The expression matches the names, with a line feed at their end or without. -/
theorem schoolNameRegex_matches {text : List Char} :
    schoolNameRegex.Matches text ↔ NameLine text := by
  rw [Regex.matches_iff]
  simp only [schoolNameRegex, Regex.mem_rests_seq, Regex.mem_rests_opt, Regex.mem_rests_one,
    Regex.mem_rests_many, Regex.mem_rests_lineEnd]
  constructor
  · rintro ⟨_, _, ⟨c, hc, rfl⟩, middle, hmiddle, rfl, hend⟩
    rcases hmiddle with ⟨_, ⟨inner, rfl, hinner⟩, _, ⟨d, hd, rfl⟩, rfl, -⟩ | rfl
    · refine ⟨c :: inner ++ [d], isSchoolName_ends hc hinner hd, ?_⟩
      rcases hend with rfl | rfl
      · exact .inl rfl
      · exact .inr (by simp)
    · refine ⟨[c], isSchoolName_single hc, ?_⟩
      rcases hend with rfl | rfl
      · exact .inl rfl
      · exact .inr rfl
  · rintro ⟨name, hname, htext⟩
    obtain ⟨tail, hend, rfl⟩ : ∃ tail, (tail = [] ∨ tail = ['\n']) ∧ text = name ++ tail := by
      rcases htext with rfl | rfl
      · exact ⟨[], .inl rfl, (List.append_nil _).symm⟩
      · exact ⟨['\n'], .inr rfl, rfl⟩
    rcases hname.cases with ⟨c, hc, rfl⟩ | ⟨c, inner, d, hc, hinner, hd, rfl⟩
    · exact ⟨tail, tail, ⟨c, hc, rfl⟩, tail, .inr rfl, rfl, hend⟩
    · refine ⟨tail, inner ++ d :: tail, ⟨c, hc, by simp⟩, tail, .inl ?_, rfl, hend⟩
      exact ⟨d :: tail, ⟨inner, rfl, hinner⟩, tail, ⟨d, hd, rfl⟩, rfl, hend⟩

theorem IsSchoolName.not_lineFeed {name : List Char} (h : IsSchoolName (String.ofList name)) :
    name.getLast? ≠ some '\n' := by
  obtain ⟨c, hlast, hc⟩ := h.last
  rw [String.toList_ofList] at hlast
  rw [hlast]
  rintro ⟨⟩
  cases hc

theorem nameLine_iff {text : List Char} : NameLine text ↔ IsSchoolName (String.ofList
    (if text.getLast? = some '\n' then text.dropLast else text)) := by
  constructor
  · rintro ⟨name, hname, rfl | rfl⟩
    · rwa [if_neg hname.not_lineFeed]
    · rwa [if_pos List.getLast?_concat, List.dropLast_concat]
  · intro h
    split at h
    · next hlast => exact ⟨_, h, .inr (List.dropLast_append_getLast? _ hlast).symm⟩
    · exact ⟨text, h, .inl rfl⟩

/-- The expression of the objects package has the same matches. -/
theorem schoolNameMatches_iff {text : String} :
    schoolNameMatches text = true ↔ NameLine text.toList := by
  rw [nameLine_iff]
  unfold schoolNameMatches
  dsimp only
  generalize (if text.toList.getLast? = some '\n' then text.toList.dropLast else text.toList) = name
  split
  · next a b hhead hlast =>
    simp only [Bool.and_eq_true, List.all_eq_true]
    constructor
    · rintro ⟨⟨ha, hb⟩, hchars⟩
      refine ⟨?_, ⟨a, ?_, ha⟩, ⟨b, ?_, hb⟩⟩
      · rwa [String.toList_ofList]
      · rwa [String.toList_ofList]
      · rwa [String.toList_ofList]
    · rintro ⟨hchars, ⟨c, hc, halnum⟩, d, hd, hdalnum⟩
      rw [String.toList_ofList] at hchars hc hd
      obtain rfl := Option.some.inj (hhead.symm.trans hc)
      obtain rfl := Option.some.inj (hlast.symm.trans hd)
      exact ⟨⟨halnum, hdalnum⟩, hchars⟩
  · next hnone =>
    simp only [Bool.false_eq_true, false_iff]
    rintro ⟨-, ⟨c, hc, -⟩, d, hd, -⟩
    rw [String.toList_ofList] at hc hd
    exact hnone c d hc hd

/-! ## The checks -/

/-- A name, with a line feed after it or without, has no characters to be escaped. -/
theorem escape_eq_self_of_nameLine [DnEscaping] {text : String} (h : NameLine text.toList) :
    DnEscaping.escapeDnChars text = text := by
  obtain ⟨name, hname, htext⟩ := h
  have hspecial : ∀ c ∈ ['\\', ',', '+', '"', '<', '>', ';', '=', '\x00'],
      schoolNameChar c = false ∧ c ≠ '\n' :=
    List.forall_iff_forall_mem.mp (by decide)
  obtain ⟨a, hhead, ha⟩ := hname.head
  obtain ⟨b, hlast, hb⟩ := hname.last
  have hchars := hname.chars
  rw [String.toList_ofList] at hhead hlast hchars
  have hne : name ≠ [] := by
    rintro rfl
    cases hhead
  refine (DnEscaping.escape_eq_self text).mpr ⟨fun c hc hmem => ?_, ?_, ?_⟩
  · have hchar : schoolNameChar c = true ∨ c = '\n' := by
      rcases htext with heq | heq
      · exact .inl (hchars c (heq ▸ hc))
      · rw [heq, List.mem_append, List.mem_singleton] at hc
        exact hc.imp_left (hchars c)
    rcases hchar with hchar | hchar
    · rw [(hspecial c hmem).1] at hchar
      cases hchar
    · exact (hspecial c hmem).2 hchar
  · have hfirst : text.toList.head? = some a := by
      rcases htext with heq | heq
      · rw [heq, hhead]
      · rw [heq, List.head?_append_of_ne_nil _ hne, hhead]
    rw [hfirst]
    intro hmem
    simp only [List.mem_cons, Option.some.injEq, List.not_mem_nil, or_false] at hmem
    rcases hmem with rfl | rfl
    · cases ha
    · cases ha
  · rcases htext with heq | heq
    · rw [heq, hlast]
      rintro ⟨⟩
      cases hb
    · rw [heq, List.getLast?_concat]
      decide

theorem schoolName_valid_iff [DnEscaping] {value : String} :
    SchoolName.validate value = .ok () ↔ NameLine value.toList := by
  unfold SchoolName.validate CommonName.validate
  simp only [check, require_bind_eq_ok, require_eq_ok, schoolNameRegex_matches]
  constructor
  · exact And.right
  · intro h
    exact ⟨(escape_eq_self_of_nameLine h).symm, h⟩

theorem schoolValidator_valid_iff [Runtime] {school : School} (hrecord : school.recordUid ≠ "")
    (hsource : school.sourceUid ≠ "") :
    SchoolValidator.validate school = .ok () ↔ NameLine school.name.toList := by
  unfold SchoolValidator.validate
  simp only [check, require_bind_eq_ok, require_eq_ok, schoolNameMatches_iff]
  constructor
  · rintro ⟨-, h, -⟩
    exact h
  · intro h
    refine ⟨?_, h, hrecord, hsource⟩
    intro hempty
    rw [hempty] at h
    obtain ⟨name, hname, heq | heq⟩ := h
    · exact hname.ne_empty (congrArg String.ofList heq.symm)
    · exact absurd heq.symm (List.append_ne_nil_of_right_ne_nil _ (List.cons_ne_nil _ _))

theorem isValidWinDirectoryName_iff [Runtime] {name : String} :
    isValidWinDirectoryName name = true ↔ name.toList.any winInvalidChar = false ∧
      Runtime.upper (splitHead '.' name) ∉ reservedNames ∧
      (name.toList.getLast? ≠ some ' ' ∧ name.toList.getLast? ≠ some '.') ∧
      name.toList.length ≤ 255 := by
  unfold isValidWinDirectoryName
  split
  · next h => simp [h]
  · next hchars =>
    split
    · next h => simp [h]
    · next hreserved =>
      split
      · next h =>
        simp only [Bool.false_eq_true, false_iff]
        rintro ⟨-, -, ⟨hspace, hperiod⟩, -⟩
        exact h.elim hspace hperiod
      · next hend =>
        split
        · next h =>
          simp only [Bool.false_eq_true, false_iff]
          rintro ⟨-, -, -, hle⟩
          omega
        · next hlength =>
          simp only [true_iff]
          exact ⟨Bool.eq_false_iff.mpr hchars, hreserved, not_or.mp hend, Nat.le_of_not_lt hlength⟩

theorem reservedNames_eq : reservedNames = winReservedNames := rfl

/-- The two checks of a user name agree, but for the empty name, which the lib does not look at. -/
theorem userValidator_valid_iff [Runtime] {user : User} (hfirstname : user.firstname ≠ "")
    (hlastname : user.lastname ≠ "") (hrecord : user.recordUid ≠ "") (hsource : user.sourceUid ≠ "") :
    UserValidator.validate user = .ok () ↔
      user.name ≠ "" ∧ isValidWinDirectoryName user.name = true := by
  unfold UserValidator.validate
  rw [isValidWinDirectoryName_iff, reservedNames_eq]
  simp only [check, require_bind_eq_ok, require_eq_ok, Bool.not_eq_true]
  constructor
  · rintro ⟨hname, hchars, hend, hlength, hreserved, -⟩
    exact ⟨hname, hchars, hreserved, hend, hlength⟩
  · rintro ⟨hname, hchars, hreserved, hend, hlength⟩
    exact ⟨hname, hchars, hend, hlength, hreserved, hfirstname, hlastname, hrecord, hsource⟩

/-! ## Agreement -/

/-- The validators of the objects package accept a name if and only if the lib does, and a school name
is accepted if and only if it is one. -/
structure NamesAgree [Runtime] [DnEscaping] (name : String) : Prop where
  schools : ∀ school : School, school.name = name → school.recordUid ≠ "" → school.sourceUid ≠ "" →
    (SchoolValidator.validate school = .ok () ↔ SchoolName.validate name = .ok ())
  exact : SchoolName.validate name = .ok () ↔ IsSchoolName name
  users : ∀ user : User, user.name = name → user.firstname ≠ "" → user.lastname ≠ "" →
    user.recordUid ≠ "" → user.sourceUid ≠ "" → (UserValidator.validate user = .ok () ↔
      name ≠ "" ∧ isValidWinDirectoryName name = true)

/-- The checks agree on a name if and only if it is not a school name with a line feed after it. -/
theorem namesAgree_iff [Runtime] [DnEscaping] (name : String) :
    NamesAgree name ↔ ∀ school, IsSchoolName school → name ≠ school ++ "\n" := by
  constructor
  · rintro h school hschool rfl
    have hline : NameLine (school ++ "\n").toList := by
      refine ⟨school.toList, ?_, .inr String.toList_append⟩
      rwa [String.ofList_toList]
    obtain ⟨c, hlast, hc⟩ := (h.exact.mp (schoolName_valid_iff.mpr hline)).last
    have hfeed : (school ++ "\n").toList.getLast? = some '\n' := by
      rw [String.toList_append]
      exact List.getLast?_concat
    obtain rfl := Option.some.inj (hfeed.symm.trans hlast)
    cases hc
  · intro h
    constructor
    · rintro school rfl hrecord hsource
      rw [schoolValidator_valid_iff hrecord hsource, schoolName_valid_iff]
    · rw [schoolName_valid_iff]
      constructor
      · rintro ⟨text, htext, heq | heq⟩
        · have hsame : String.ofList name.toList = name := String.ofList_toList
          rwa [← hsame, heq]
        · refine absurd ?_ (h _ htext)
          rw [← String.toList_inj, heq, String.toList_append, String.toList_ofList]
          rfl
      · intro hname
        refine ⟨name.toList, ?_, .inl rfl⟩
        rwa [String.ofList_toList]
    · rintro user rfl hfirstname hlastname hrecord hsource
      exact userValidator_valid_iff hfirstname hlastname hrecord hsource

/-! ## Escaping -/

/-- An escaped character. -/
def escapedChar (c : Char) : List Char :=
  if c = '\x00' then ['\\', '0', '0']
  else if c ∈ ['\\', ',', '+', '"', '<', '>', ';', '='] then ['\\', c]
  else [c]

/-- A space at the end is escaped. -/
def escapedEnd (text : List Char) : List Char :=
  if text.getLast? = some ' ' then text.dropLast ++ ['\\', ' '] else text

/-- A space or hash at the beginning is escaped. -/
def escapedStart (text : List Char) : List Char :=
  if text.head? = some '#' ∨ text.head? = some ' ' then '\\' :: text else text

theorem length_escapedChar (c : Char) : 1 ≤ (escapedChar c).length := by
  unfold escapedChar
  split
  · decide
  · split
    · simp
    · simp

theorem escapedChar_eq (c : Char) : (escapedChar c).length = 1 ↔
    c ∉ ['\\', ',', '+', '"', '<', '>', ';', '=', '\x00'] := by
  unfold escapedChar
  by_cases hnul : c = '\x00'
  · subst hnul
    decide
  · rw [if_neg hnul]
    split
    · next h => simp_all
    · next h => simp_all

theorem length_le_escaped (text : List Char) : text.length ≤ (text.flatMap escapedChar).length := by
  induction text with
  | nil => exact le_refl _
  | cons c text ih =>
    have hc := length_escapedChar c
    rw [List.flatMap_cons, List.length_append, List.length_cons]
    omega

theorem length_escaped_eq {text : List Char} : (text.flatMap escapedChar).length = text.length ↔
    ∀ c ∈ text, c ∉ ['\\', ',', '+', '"', '<', '>', ';', '=', '\x00'] := by
  induction text with
  | nil => simp
  | cons c text ih =>
    have hc := length_escapedChar c
    have hle := length_le_escaped text
    rw [List.flatMap_cons, List.length_append, List.length_cons, List.forall_mem_cons, ← ih,
      ← escapedChar_eq]
    omega

theorem escaped_eq_self {text : List Char}
    (h : ∀ c ∈ text, c ∉ ['\\', ',', '+', '"', '<', '>', ';', '=', '\x00']) :
    text.flatMap escapedChar = text := by
  induction text with
  | nil => rfl
  | cons c text ih =>
    obtain ⟨hc, hrest⟩ := List.forall_mem_cons.mp h
    have hself : escapedChar c = [c] := by
      simp only [List.mem_cons, List.not_mem_nil, or_false, not_or] at hc
      simp [escapedChar, hc]
    rw [List.flatMap_cons, hself, ih hrest, List.singleton_append]

theorem length_escapedEnd (text : List Char) : text.length ≤ (escapedEnd text).length ∧
    ((escapedEnd text).length = text.length ↔ text.getLast? ≠ some ' ') := by
  unfold escapedEnd
  split
  · next h =>
    have hne : text ≠ [] := by
      rintro rfl
      cases h
    have hpos := List.length_pos_iff.mpr hne
    simp only [List.length_append, List.length_dropLast, List.length_cons, List.length_nil]
    constructor
    · omega
    · constructor
      · intro heq
        omega
      · intro hspace
        exact absurd h hspace
  · next h => exact ⟨le_refl _, iff_of_true rfl h⟩

theorem length_escapedStart (text : List Char) : text.length ≤ (escapedStart text).length ∧
    ((escapedStart text).length = text.length ↔ text.head? ∉ [some '#', some ' ']) := by
  unfold escapedStart
  split
  · next h =>
    rw [List.length_cons]
    refine ⟨Nat.le_succ _, ?_⟩
    constructor
    · intro heq
      omega
    · intro hnot
      refine absurd ?_ hnot
      simpa using h
  · next h => exact ⟨le_refl _, iff_of_true rfl (by simpa using h)⟩

def pythonEscape (text : String) : String :=
  String.ofList (escapedStart (escapedEnd (text.toList.flatMap escapedChar)))

theorem length_pythonEscape (text : String) :
    text.toList.length ≤ (pythonEscape text).toList.length := by
  have hends := length_escapedEnd (text.toList.flatMap escapedChar)
  have hstarts := length_escapedStart (escapedEnd (text.toList.flatMap escapedChar))
  have hchars := length_le_escaped text.toList
  rw [pythonEscape, String.toList_ofList]
  omega

/-- Each character that is escaped makes the text longer. -/
theorem plain_of_length {text : String}
    (hlength : (pythonEscape text).toList.length = text.toList.length) :
    (∀ c ∈ text.toList, c ∉ ['\\', ',', '+', '"', '<', '>', ';', '=', '\x00']) ∧
      text.toList.head? ∉ [some '#', some ' '] ∧ text.toList.getLast? ≠ some ' ' := by
  have hends := length_escapedEnd (text.toList.flatMap escapedChar)
  have hstarts := length_escapedStart (escapedEnd (text.toList.flatMap escapedChar))
  have hchars := length_le_escaped text.toList
  rw [pythonEscape, String.toList_ofList] at hlength
  have hplain := length_escaped_eq.mp (by omega : (text.toList.flatMap escapedChar).length = _)
  rw [escaped_eq_self hplain] at hends hstarts hlength
  have hlast := hends.2.mp (by omega)
  rw [escapedEnd, if_neg hlast] at hstarts hlength
  exact ⟨hplain, hstarts.2.mp hlength, hlast⟩

theorem pythonEscape_eq_self (text : String) : pythonEscape text = text ↔
    (∀ c ∈ text.toList, c ∉ ['\\', ',', '+', '"', '<', '>', ';', '=', '\x00']) ∧
      text.toList.head? ∉ [some '#', some ' '] ∧ text.toList.getLast? ≠ some ' ' := by
  constructor
  · intro h
    exact plain_of_length (congrArg (fun text => text.toList.length) h)
  · rintro ⟨hplain, hhead, hlast⟩
    rw [pythonEscape, escaped_eq_self hplain, escapedEnd, if_neg hlast, escapedStart, if_neg,
      String.ofList_toList]
    simpa using hhead

/-- The escaping as the library documents it. -/
@[reducible] def pythonEscaping : DnEscaping where
  escapeDnChars := pythonEscape
  escape_eq_self := pythonEscape_eq_self

section Concrete

attribute [local instance] asciiRuntime pythonEscaping

/-- A school name with a line feed after it is accepted. -/
theorem lineFeed_accepted : ¬ NamesAgree "DEMO\n" := by
  intro h
  have hregex : schoolNameRegex.Matches "DEMO\n".toList := by decide
  have hvalid := schoolName_valid_iff.mpr (schoolNameRegex_matches.mp hregex)
  obtain ⟨c, hlast, hc⟩ := (h.exact.mp hvalid).last
  have hfeed : "DEMO\n".toList.getLast? = some '\n' := by decide
  obtain rfl := Option.some.inj (hfeed.symm.trans hlast)
  cases hc

end Concrete

end Kelvin
