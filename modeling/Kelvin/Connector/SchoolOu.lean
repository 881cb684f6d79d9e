import Kelvin.Connector.Sync
import Kelvin.Data.DistinguishedName

/-!
# The school of a distinguished name

The connector takes the school of a user from its distinguished name with a regular expression. The
expression looks at the comma-separated parts of the text, whether a comma is escaped or not, and
returns the text of a part behind `ou=`.

* `schoolOuPart`: the part in which the expression matches.
* `Rdn.ou?`, `firstOu?`: the values of the attribute type `ou`, by the grammar of names.
* `schoolOu_iff`: the names whose first `ou` is returned.
-/

namespace Kelvin

open Rfc4514

/-! ## Parts between commas -/

/-- The expression matches in the part. -/
def isOuPart (part : List Char) : Bool :=
  (part.take 3).map Char.toLower == ['o', 'u', '='] && part.drop 3 != []

/-- The number of the part in which `_RE_SCHOOL_OU` matches. -/
def schoolOuPart (dn : String) : Option Nat := (dn.toList.splitOn ',').findIdx? isOuPart

theorem schoolOuFromDn_eq (dn : String) : schoolOuFromDn dn =
    ((dn.toList.splitOn ',').find? isOuPart).map (fun part => String.ofList (part.drop 3)) := rfl

theorem toLower_eq_equals {c : Char} (h : c.toLower = '=') : c = '=' := by
  unfold Char.toLower at h
  split at h
  · next hupper =>
    have hval := congrArg (fun c => c.val.toNat) h
    simp only [UInt32.le_iff_toNat_le, UInt32.toNat_add, ge_iff_le] at hupper hval
    simp at hupper hval
    omega
  · exact h

/-- A part matches if it is written for the type `ou` and does not end there. -/
theorem isOuPart_append {type text : List Char} (htype : '=' ∉ type) :
    isOuPart (type ++ '=' :: text) = true ↔ type.map Char.toLower = ['o', 'u'] ∧ text ≠ [] := by
  rw [isOuPart, Bool.and_eq_true, beq_iff_eq, bne_iff_ne]
  match type, htype with
  | [], _ => cases text <;> simp
  | [a], _ => simp
  | [a, b], _ => simp
  | a :: b :: c :: type, htype =>
    have hne : c.toLower ≠ '=' := by
      intro h
      rw [toLower_eq_equals h] at htype
      exact htype (List.mem_cons_of_mem _ (List.mem_cons_of_mem _ List.mem_cons_self))
    simp [hne]

theorem drop_ouPart {type text : List Char} (htype : type.map Char.toLower = ['o', 'u']) :
    (type ++ '=' :: text).drop 3 = text := by
  have hlength := congrArg List.length htype
  rw [List.length_map] at hlength
  have hthree : 3 = type.length + 1 := by
    rw [hlength]
    rfl
  rw [hthree, ← List.drop_drop, List.drop_left]
  rfl

theorem splitOn_eq_cons (text : List Char) :
    ∃ parts, text.splitOn ',' = text.takeWhile (· ≠ ',') :: parts := by
  induction text with
  | nil => exact ⟨[], by simp⟩
  | cons c cs ih =>
    obtain ⟨parts, hparts⟩ := ih
    rw [List.splitOn_cons_eq_if_modifyHead]
    by_cases hc : c = ','
    · subst hc
      exact ⟨cs.splitOn ',', by simp⟩
    · refine ⟨parts, ?_⟩
      rw [if_neg (by simpa using hc), hparts, List.modifyHead_cons,
        List.takeWhile_cons_of_pos (by simpa using hc)]

/-! ## Values of the type `ou` -/

def isOu (a : AttributeTypeAndValue) : Bool := a.type.text.map Char.toLower == ['o', 'u']

/-- The value of the attribute type `ou` of a relative name. -/
def ou? (r : Rdn) : Option AttributeValue := (r.values.find? isOu).map (·.value)

/-- The relative names before the first one with the attribute type `ou`. -/
def beforeOu (dn : Dn) : Dn := dn.takeWhile (fun r => (ou? r).isNone)

def firstOu? (dn : Dn) : Option Rdn := (dn.dropWhile (fun r => (ou? r).isNone)).head?

/-- The comma-separated parts of a relative name. -/
def commaParts (r : Rdn) : List (List Char) := r.text.splitOn ','

/-- What is written behind the first value of a relative name. -/
def behindFirst (r : Rdn) : List Char :=
  match r.others with
  | [] => []
  | a :: others => '+' :: ['+'].intercalate ((a :: others).map AttributeTypeAndValue.text)

theorem behindFirst_cases (r : Rdn) : behindFirst r = [] ∨ ∃ cs, behindFirst r = '+' :: cs := by
  unfold behindFirst
  split
  · exact .inl rfl
  · exact .inr ⟨_, rfl⟩

theorem behindFirst_eq_nil {r : Rdn} : behindFirst r = [] ↔ r.others = [] := by
  unfold behindFirst
  split
  · next h => simp [h]
  · next h => simp [h]

theorem text_eq (r : Rdn) : r.text =
    r.first.type.text ++ '=' :: (r.first.value.text ++ behindFirst r) := by
  unfold behindFirst
  split
  · next h => simp [Rdn.text, Rdn.values, h, AttributeTypeAndValue.text]
  · next a others h =>
    simp [Rdn.text, Rdn.values, h, AttributeTypeAndValue.text, List.intercalate]

/-- The first part of a relative name. -/
theorem commaParts_eq (r : Rdn) : ∃ parts, commaParts r = (r.first.type.text ++ '=' ::
    (r.first.value.text ++ behindFirst r).takeWhile (· ≠ ',')) :: parts := by
  obtain ⟨parts, hparts⟩ := splitOn_eq_cons r.text
  refine ⟨parts, hparts.trans ?_⟩
  have htype : ∀ c ∈ r.first.type.text, decide (c ≠ ',') = true := by
    intro c hc
    rw [decide_eq_true_eq]
    rintro rfl
    exact r.first.type.not_mem (by decide) (by decide) (by decide) hc
  rw [text_eq, List.takeWhile_append_of_pos htype, List.takeWhile_cons_of_pos (by decide)]

theorem isOuPart_first {r : Rdn} {text : List Char} :
    isOuPart (r.first.type.text ++ '=' :: text) = true ↔ isOu r.first = true ∧ text ≠ [] := by
  have htype : '=' ∉ r.first.type.text :=
    r.first.type.not_mem (by decide) (by decide) (by decide)
  rw [isOuPart_append htype, isOu, beq_iff_eq]

theorem ou?_eq_of_first {r : Rdn} (h : isOu r.first = true) : ou? r = some r.first.value := by
  rw [ou?, Rdn.values, List.find?_cons_of_pos h, Option.map_some]

theorem isOu_first_of_none {r : Rdn} (h : ou? r = none) : isOu r.first = false := by
  by_contra hfirst
  rw [ou?_eq_of_first (by simpa using hfirst)] at h
  cases h

theorem comma_not_mem_text {v : AttributeValue} (h : v.Plain) : ',' ∉ v.text := by
  cases v with
  | string s => exact comma_not_mem_of_plain s.valid h
  | hexstring pairs hne hvalid => exact h.elim

/-! ## The school of a name -/

section Schools

variable [Ber] {dn : Dn}

/-- The value of the first relative name with the type `ou` is returned, and taken from there. -/
structure ReturnsSchoolOu (dn : Dn) : Prop where
  none : firstOu? dn = none → schoolOuFromDn (String.ofList dn.text) = none
  some : ∀ r v, firstOu? dn = some r → ou? r = some v →
    ∃ ou, schoolOuFromDn (String.ofList dn.text) = some ou ∧ v.octets = some (utf8 ou.toList) ∧
      schoolOuPart (String.ofList dn.text) = some ((beforeOu dn).flatMap commaParts).length

/-- No value before the first `ou` has an escaped comma with `ou=` and more behind it. The first
`ou` is the only type of its relative name, and its value is neither empty nor escaped. -/
structure PlainSchool (dn : Dn) : Prop where
  quiet : ∀ r ∈ beforeOu dn, ∀ part ∈ (commaParts r).tail, isOuPart part = false
  plain : ∀ r v, firstOu? dn = some r → ou? r = some v → r.others = [] ∧ v.Plain ∧ v.text ≠ []

omit [Ber] in
theorem parts_quiet_iff : (∀ part ∈ (beforeOu dn).flatMap commaParts, isOuPart part = false) ↔
    ∀ r ∈ beforeOu dn, ∀ part ∈ (commaParts r).tail, isOuPart part = false := by
  constructor
  · intro h r hr part hpart
    exact h part (List.mem_flatMap.mpr ⟨r, hr, List.mem_of_mem_tail hpart⟩)
  · intro h part hpart
    obtain ⟨r, hr, hpart⟩ := List.mem_flatMap.mp hpart
    obtain ⟨parts, hparts⟩ := commaParts_eq r
    have htail := h r hr
    rw [hparts] at hpart htail
    rcases List.mem_cons.mp hpart with rfl | hpart
    · have hnone : ou? r = none := by
        simpa using List.mem_takeWhile_imp hr
      by_contra hfirst
      have hou := (isOuPart_first.mp (by simpa using hfirst)).1
      rw [isOu_first_of_none hnone] at hou
      cases hou
    · exact htail part hpart

omit [Ber] in
/-- The parts of a name: those before the first `ou`, its first part, and the others. -/
theorem splitOn_of_firstOu {r : Rdn} (h : firstOu? dn = some r) :
    ∃ parts, (String.ofList dn.text).toList.splitOn ',' = (beforeOu dn).flatMap commaParts ++
      (r.first.type.text ++ '=' ::
        (r.first.value.text ++ behindFirst r).takeWhile (· ≠ ',')) :: parts := by
  obtain ⟨after, hafter⟩ := List.head?_eq_some_iff.mp h
  obtain ⟨parts, hparts⟩ := commaParts_eq r
  have hdn : dn = beforeOu dn ++ r :: after := by
    rw [← hafter]
    exact List.takeWhile_append_dropWhile.symm
  have hne : dn ≠ [] := by
    rw [hdn]
    simp
  refine ⟨parts ++ after.flatMap commaParts, ?_⟩
  rw [String.toList_ofList, splitOn_text hne]
  conv_lhs => rw [hdn]
  rw [List.flatMap_append, List.flatMap_cons]
  show _ ++ (commaParts r ++ _) = _
  rw [hparts]
  rfl

omit [Ber] in
theorem splitOn_of_no_ou (h : firstOu? dn = none) :
    (∀ part ∈ (String.ofList dn.text).toList.splitOn ',', isOuPart part = false) ↔
      ∀ part ∈ (beforeOu dn).flatMap commaParts, isOuPart part = false := by
  have hdn : beforeOu dn = dn := by
    have hrest := List.head?_eq_none_iff.mp h
    have happend := List.takeWhile_append_dropWhile (p := fun r => (ou? r).isNone) (l := dn)
    rw [hrest, List.append_nil] at happend
    exact happend
  rw [hdn, String.toList_ofList]
  by_cases hne : dn = []
  · subst hne
    simp [Dn.text, isOuPart]
  · rw [splitOn_text hne]
    rfl

omit [Ber] in
theorem ou?_of_firstOu {r : Rdn} (h : firstOu? dn = some r) : ∃ v, ou? r = some v := by
  have hdrop := List.head?_dropWhile_not (fun r => (ou? r).isNone) dn
  rw [show (dn.dropWhile (fun r => (ou? r).isNone)).head? = some r from h] at hdrop
  exact Option.isSome_iff_exists.mp (by simpa using hdrop)

omit [Ber] in
/-- The expression matches at the first `ou` if no part before it matches, and it begins there. -/
theorem match_at_firstOu {r : Rdn} {ou : String} (h : firstOu? dn = some r) :
    schoolOuFromDn (String.ofList dn.text) = some ou ∧
        schoolOuPart (String.ofList dn.text) = some ((beforeOu dn).flatMap commaParts).length ↔
      (∀ part ∈ (beforeOu dn).flatMap commaParts, isOuPart part = false) ∧
        isOu r.first = true ∧ ou.toList ≠ [] ∧
          ou.toList = (r.first.value.text ++ behindFirst r).takeWhile (· ≠ ',') := by
  obtain ⟨parts, hsplit⟩ := splitOn_of_firstOu h
  rw [schoolOuFromDn_eq, schoolOuPart, hsplit]
  generalize (r.first.value.text ++ behindFirst r).takeWhile (· ≠ ',') = text
  generalize (beforeOu dn).flatMap commaParts = before
  rw [List.find?_append, List.findIdx?_append]
  constructor
  · rintro ⟨hfind, hidx⟩
    cases hbefore : before.findIdx? isOuPart with
    | some i =>
      rw [hbefore, Option.some_or, Option.some_inj] at hidx
      have hlt := (List.findIdx?_eq_some_iff_getElem.mp hbefore).1
      omega
    | none =>
      have hquiet := List.findIdx?_eq_none_iff.mp hbefore
      have hnone : before.find? isOuPart = none := by
        rw [List.find?_eq_none]
        intro part hpart
        rw [hquiet part hpart]
        exact Bool.false_ne_true
      rw [hbefore, Option.none_or, List.findIdx?_cons] at hidx
      by_cases hpart : isOuPart (r.first.type.text ++ '=' :: text) = true
      · rw [hnone, Option.none_or, List.find?_cons_of_pos hpart, Option.map_some,
          Option.some_inj] at hfind
        obtain ⟨hou, htext⟩ := isOuPart_first.mp hpart
        rw [drop_ouPart (by simpa [isOu] using hou)] at hfind
        rw [← hfind, String.toList_ofList]
        exact ⟨hquiet, hou, htext, rfl⟩
      · rw [if_neg hpart] at hidx
        obtain ⟨i, hi, hlength⟩ := Option.map_eq_some_iff.mp hidx
        obtain ⟨j, -, rfl⟩ := Option.map_eq_some_iff.mp hi
        omega
  · rintro ⟨hquiet, hou, hne, rfl⟩
    have hpart := isOuPart_first.mpr ⟨hou, hne⟩
    have hnone : before.find? isOuPart = none := by
      rw [List.find?_eq_none]
      intro part hpart
      rw [hquiet part hpart]
      exact Bool.false_ne_true
    rw [hnone, Option.none_or, List.find?_cons_of_pos hpart, List.findIdx?_eq_none_iff.mpr hquiet,
      Option.none_or, List.findIdx?_cons, if_pos hpart, Option.map_some,
      drop_ouPart (by simpa [isOu] using hou), String.ofList_toList]
    simp

/-- The first `ou` of a name is returned, and taken from its place, if and only if it is plain. -/
theorem schoolOu_iff (dn : Dn) : ReturnsSchoolOu dn ↔ PlainSchool dn := by
  cases hfirst : firstOu? dn with
  | none =>
    have hnone : schoolOuFromDn (String.ofList dn.text) = none ↔
        ∀ part ∈ (beforeOu dn).flatMap commaParts, isOuPart part = false := by
      rw [schoolOuFromDn_eq, Option.map_eq_none_iff, List.find?_eq_none, ← splitOn_of_no_ou hfirst]
      simp
    constructor
    · intro h
      refine ⟨parts_quiet_iff.mp (hnone.mp (h.none hfirst)), fun r v hr => ?_⟩
      rw [hfirst] at hr
      cases hr
    · intro h
      refine ⟨fun _ => hnone.mpr (parts_quiet_iff.mpr h.quiet), fun r v hr => ?_⟩
      rw [hfirst] at hr
      cases hr
  | some r =>
    obtain ⟨v, hv⟩ := ou?_of_firstOu hfirst
    have hvalue : ∀ ou : String, isOu r.first = true → (v.octets = some (utf8 ou.toList) ∧
        ou.toList = (r.first.value.text ++ behindFirst r).takeWhile (· ≠ ',') →
          r.others = [] ∧ v.Plain ∧ v = r.first.value) := by
      rintro ou hou ⟨hocts, htext⟩
      obtain rfl : v = r.first.value := Option.some.inj (hv.symm.trans (ou?_eq_of_first hou))
      rw [htext, octets_eq_iff _ (behindFirst_cases r), behindFirst_eq_nil] at hocts
      exact ⟨hocts.2, hocts.1, rfl⟩
    constructor
    · intro h
      obtain ⟨ou, hou, hocts, hpart⟩ := h.some r v hfirst hv
      obtain ⟨hquiet, hisOu, hne, htext⟩ := (match_at_firstOu hfirst).mp ⟨hou, hpart⟩
      obtain ⟨hothers, hplain, rfl⟩ := hvalue ou hisOu ⟨hocts, htext⟩
      refine ⟨parts_quiet_iff.mp hquiet, fun r' v' hr' hv' => ?_⟩
      cases hfirst.symm.trans hr'
      cases hv.symm.trans hv'
      refine ⟨hothers, hplain, fun hempty => hne ?_⟩
      rw [htext, hempty, behindFirst_eq_nil.mpr hothers]
      rfl
    · intro h
      refine ⟨fun hnone => ?_, fun r' v' hr' hv' => ?_⟩
      · rw [hfirst] at hnone
        cases hnone
      · cases hfirst.symm.trans hr'
        cases hv.symm.trans hv'
        obtain ⟨hothers, hplain, hne⟩ := h.plain r v hfirst hv
        have hou : isOu r.first = true := by
          by_contra hother
          rw [ou?, Rdn.values, hothers, List.find?_cons_of_neg hother] at hv
          cases hv
        obtain rfl : v = r.first.value := Option.some.inj (hv.symm.trans (ou?_eq_of_first hou))
        have hocts := (octets_eq_iff r.first.value (behindFirst_cases r)).mpr
          ⟨hplain, behindFirst_eq_nil.mpr hothers⟩
        have htext : (r.first.value.text ++ behindFirst r).takeWhile (· ≠ ',') =
            r.first.value.text := by
          rw [behindFirst_eq_nil.mpr hothers, List.append_nil]
          exact takeWhile_eq_self_of_not_mem (comma_not_mem_text hplain)
        have hmatch := (@match_at_firstOu _ _ (String.ofList r.first.value.text) hfirst).mpr
          ⟨parts_quiet_iff.mpr h.quiet, hou, by rwa [String.toList_ofList],
            by rw [String.toList_ofList, htext]⟩
        rw [htext] at hocts
        exact ⟨_, hmatch.1, by rwa [String.toList_ofList], hmatch.2⟩

end Schools

/-! ## A group with a comma in its name -/

theorem isDescr_cn : isDescr "cn".toList = true := rfl

theorem isDescr_ou : isDescr "ou".toList = true := rfl

def commonName : AttributeType := ⟨"cn".toList, .inl isDescr_cn⟩

def organizationalUnit : AttributeType := ⟨"ou".toList, .inl isDescr_ou⟩

def commaName : List ValuePart :=
  [.char 'a', .pair ',', .char 'o', .char 'u', .char '=', .char 'b']

theorem commaName_valid : ∀ p ∈ commaName, p.Valid := by decide

theorem commaName_lead : ∀ p ∈ commaName.head?, p ≠ .char ' ' ∧ p ≠ .char '#' := by decide

theorem commaName_trail : ∀ p ∈ commaName.getLast?, p ≠ .char ' ' := by decide

def schoolName : List ValuePart := "School".toList.map .char

theorem schoolName_valid : ∀ p ∈ schoolName, p.Valid := by decide

theorem schoolName_lead : ∀ p ∈ schoolName.head?, p ≠ .char ' ' ∧ p ≠ .char '#' := by decide

theorem schoolName_trail : ∀ p ∈ schoolName.getLast?, p ≠ .char ' ' := by decide

/-- `cn=a\,ou=b,ou=School` -/
def commaDn : Dn :=
  [⟨⟨commonName, .string ⟨commaName, commaName_valid, commaName_lead, commaName_trail⟩⟩, []⟩,
    ⟨⟨organizationalUnit, .string ⟨schoolName, schoolName_valid, schoolName_lead,
      schoolName_trail⟩⟩, []⟩]

@[reducible] def octetStrings : Ber where
  content octets := some octets
  length_le _ _ h := (congrArg List.length (Option.some.inj h)).ge

/-- The second half of the group's name is returned, not the school. -/
theorem schoolOu_of_comma : String.ofList commaDn.text = "cn=a\\,ou=b,ou=School" ∧
    (firstOu? commaDn).map (fun r => String.ofList r.text) = some "ou=School" ∧
    schoolOuFromDn (String.ofList commaDn.text) = some "b" ∧
    ¬ @ReturnsSchoolOu octetStrings commaDn := by
  have hou : schoolOuFromDn (String.ofList commaDn.text) = some "b" := by decide
  refine ⟨by decide, by decide, hou, fun h => ?_⟩
  obtain ⟨ou, hsome, hocts, -⟩ := @ReturnsSchoolOu.some octetStrings _ h _ _ rfl rfl
  cases hou.symm.trans hsome
  exact absurd hocts (by decide)

end Kelvin
