import Mathlib.Data.List.TakeWhile
import Kelvin.Data.Text

/-!
# Distinguished names

The string representation of distinguished names (RFC 4514). A name is kept as it is written:
relative names with commas between them, each of one or more attribute values with plus signs
between them. A value is a string, in which a character may be escaped by a backslash or an octet
be written in hexadecimal, or the BER encoding in hexadecimal.

* `Dn`, `Rdn`, `AttributeTypeAndValue`, `AttributeValue`: the parts of a name.
* `Dn.text`: the string representation.
* `AttributeValue.octets`: the octets that a value stands for.
* `octets_eq_iff`: the values that stand for the text up to the next comma.
-/

namespace Kelvin

namespace Rfc4514

/-! ## Octets of texts -/

def utf8 (text : List Char) : List UInt8 := text.flatMap String.utf8EncodeChar

theorem utf8_cons (c : Char) (text : List Char) :
    utf8 (c :: text) = String.utf8EncodeChar c ++ utf8 text := List.flatMap_cons

theorem utf8_append (a b : List Char) : utf8 (a ++ b) = utf8 a ++ utf8 b := List.flatMap_append

theorem length_le_utf8 (text : List Char) : text.length ≤ (utf8 text).length := by
  induction text with
  | nil => exact le_refl _
  | cons c text ih =>
    have hpos := c.utf8Size_pos
    rw [utf8_cons, List.length_append, String.length_utf8EncodeChar, List.length_cons]
    omega

theorem eq_of_ofNat_eq {n m : Nat} (hn : n < 256) (hm : m < 256)
    (h : UInt8.ofNat n = UInt8.ofNat m) : n = m := by
  have htoNat := congrArg UInt8.toNat h
  simp only [UInt8.toNat_ofNat'] at htoNat
  omega

/-- The octet of an ASCII character occurs in the encoding of that character only. -/
theorem eq_of_mem_utf8EncodeChar {a c : Char} (ha : a.val.toNat < 128)
    (h : UInt8.ofNat a.val.toNat ∈ String.utf8EncodeChar c) : c = a := by
  unfold String.utf8EncodeChar at h
  dsimp only at h
  split at h
  · rw [List.mem_singleton] at h
    have hval := eq_of_ofNat_eq (by omega) (by omega) h
    exact Char.ext (UInt32.toNat_inj.mp hval.symm)
  · split at h
    · simp only [List.mem_cons, List.not_mem_nil, or_false] at h
      rcases h with h | h <;> have := eq_of_ofNat_eq (by omega) (by omega) h <;> omega
    · split at h
      · simp only [List.mem_cons, List.not_mem_nil, or_false] at h
        rcases h with h | h | h <;> have := eq_of_ofNat_eq (by omega) (by omega) h <;> omega
      · simp only [List.mem_cons, List.not_mem_nil, or_false] at h
        rcases h with h | h | h | h <;> have := eq_of_ofNat_eq (by omega) (by omega) h <;> omega

theorem not_mem_utf8 {a : Char} (ha : a.val.toNat < 128) {text : List Char} (h : a ∉ text) :
    UInt8.ofNat a.val.toNat ∉ utf8 text := by
  intro hmem
  obtain ⟨c, hc, hocts⟩ := List.mem_flatMap.mp hmem
  exact h (eq_of_mem_utf8EncodeChar ha hocts ▸ hc)

/-! ## Names -/

def isHexDigit (c : Char) : Bool :=
  c.isDigit || ('a' ≤ c && c ≤ 'f') || ('A' ≤ c && c ≤ 'F')

/-- The number of a hexadecimal digit. -/
def hexValue (c : Char) : Nat :=
  if c.isDigit then c.toNat - '0'.toNat
  else if 'a' ≤ c then c.toNat - 'a'.toNat + 10
  else c.toNat - 'A'.toNat + 10

/-- `escaped`: the characters that a value has only behind a backslash. -/
def escaped : List Char := ['"', '+', ',', ';', '<', '>']

/-- A character of a value, an escaped character, or an octet. -/
inductive ValuePart where
  | char (c : Char)
  | pair (c : Char)
  | octet (high low : Char)
deriving DecidableEq

def ValuePart.Valid : ValuePart → Prop
  | .char c => c ∉ escaped ∧ c ≠ '\\' ∧ c.toNat ≠ 0
  | .pair c => c ∈ escaped ∨ c ∈ ['\\', ' ', '#', '=']
  | .octet high low => isHexDigit high = true ∧ isHexDigit low = true

instance (p : ValuePart) : Decidable p.Valid :=
  match p with
  | .char c => inferInstanceAs (Decidable (c ∉ escaped ∧ c ≠ '\\' ∧ c.toNat ≠ 0))
  | .pair c => inferInstanceAs (Decidable (c ∈ escaped ∨ c ∈ ['\\', ' ', '#', '=']))
  | .octet high low => inferInstanceAs (Decidable (isHexDigit high = true ∧ isHexDigit low = true))

def ValuePart.text : ValuePart → List Char
  | .char c => [c]
  | .pair c => ['\\', c]
  | .octet high low => ['\\', high, low]

def ValuePart.octets : ValuePart → List UInt8
  | .char c | .pair c => String.utf8EncodeChar c
  | .octet high low => [UInt8.ofNat (16 * hexValue high + hexValue low)]

/-- `string`: a blank or a number sign at the beginning and a blank at the end are escaped. -/
structure AttributeString where
  parts : List ValuePart
  valid : ∀ p ∈ parts, p.Valid
  lead : ∀ p ∈ parts.head?, p ≠ .char ' ' ∧ p ≠ .char '#'
  trail : ∀ p ∈ parts.getLast?, p ≠ .char ' '

/-- `attributeValue`. -/
inductive AttributeValue where
  | string (s : AttributeString)
  | hexstring (pairs : List (Char × Char)) (hne : pairs ≠ [])
      (valid : ∀ p ∈ pairs, isHexDigit p.1 = true ∧ isHexDigit p.2 = true)

/-- `descr`: a letter, and letters, digits and hyphens. -/
def isDescr : List Char → Bool
  | [] => false
  | c :: cs => c.isAlpha && cs.all (fun c => c.isAlphanum || c == '-')

/-- `number`: digits without a leading zero. -/
def isNumber : List Char → Bool
  | [] => false
  | c :: cs => c.isDigit && cs.all Char.isDigit && (c != '0' || cs.isEmpty)

/-- `numericoid`: numbers with dots between them. -/
def isNumericoid (text : List Char) : Bool :=
  2 ≤ (text.splitOn '.').length && (text.splitOn '.').all isNumber

structure AttributeType where
  text : List Char
  valid : isDescr text = true ∨ isNumericoid text = true

structure AttributeTypeAndValue where
  type : AttributeType
  value : AttributeValue

/-- A relative name, with its attribute values in their order. -/
structure Rdn where
  first : AttributeTypeAndValue
  others : List AttributeTypeAndValue

abbrev Dn := List Rdn

/-- The octets of a value in its BER encoding. -/
class Ber where
  content : List UInt8 → Option (List UInt8)
  length_le : ∀ octets value, content octets = some value → value.length ≤ octets.length

def AttributeValue.text : AttributeValue → List Char
  | .string s => s.parts.flatMap ValuePart.text
  | .hexstring pairs _ _ => '#' :: pairs.flatMap (fun p => [p.1, p.2])

def AttributeValue.octets [Ber] : AttributeValue → Option (List UInt8)
  | .string s => some (s.parts.flatMap ValuePart.octets)
  | .hexstring pairs _ _ =>
    Ber.content (pairs.map (fun p => UInt8.ofNat (16 * hexValue p.1 + hexValue p.2)))

def AttributeTypeAndValue.text (a : AttributeTypeAndValue) : List Char :=
  a.type.text ++ '=' :: a.value.text

def Rdn.values (r : Rdn) : List AttributeTypeAndValue := r.first :: r.others

def Rdn.text (r : Rdn) : List Char :=
  ['+'].intercalate (r.values.map AttributeTypeAndValue.text)

def Dn.text (dn : Dn) : List Char := [','].intercalate (dn.map Rdn.text)

/-! ## Values up to a comma -/

/-- No character of the value is escaped. -/
def AttributeValue.Plain : AttributeValue → Prop
  | .string s => ∀ p ∈ s.parts, ∃ c, p = .char c
  | .hexstring _ _ _ => False

/-- The parts of a name between commas are those of its relative names. -/
theorem splitOn_text {dn : Dn} (hne : dn ≠ []) :
    dn.text.splitOn ',' = dn.flatMap (fun r => r.text.splitOn ',') := by
  induction dn with
  | nil => exact absurd rfl hne
  | cons r dn ih =>
    cases dn with
    | nil => simp [Dn.text]
    | cons r' dn =>
      have htext : Dn.text (r :: r' :: dn) = r.text ++ ',' :: Dn.text (r' :: dn) := by
        simp [Dn.text, List.intercalate]
      rw [htext, List.splitOn_append_cons_self, ih (List.cons_ne_nil _ _)]
      rfl

theorem AttributeType.not_mem (t : AttributeType) {c : Char} (hletter : c.isAlphanum = false)
    (hhyphen : c ≠ '-') (hdot : c ≠ '.') : c ∉ t.text := by
  obtain ⟨text, hvalid⟩ := t
  intro hmem
  have hdigit : ¬ c.isDigit = true := fun h => by simp [Char.isAlphanum, h] at hletter
  rcases hvalid with hdescr | hoid
  · cases text with
    | nil => cases hdescr
    | cons d ds =>
      rw [isDescr, Bool.and_eq_true, List.all_eq_true] at hdescr
      rcases List.mem_cons.mp hmem with rfl | hds
      · simp [Char.isAlphanum, hdescr.1] at hletter
      · have hd := hdescr.2 c hds
        simp [hletter, hhyphen] at hd
  · obtain ⟨number, hnumber, hc⟩ := Text.exists_mem_splitOn hmem hdot
    rw [isNumericoid, Bool.and_eq_true, List.all_eq_true] at hoid
    have hdigits := hoid.2 number hnumber
    cases number with
    | nil => cases hc
    | cons d ds =>
      rw [isNumber, Bool.and_eq_true, Bool.and_eq_true, List.all_eq_true] at hdigits
      rcases List.mem_cons.mp hc with rfl | hds
      · exact hdigit hdigits.1.1
      · exact hdigit (hdigits.1.2 c hds)

theorem hexDigit_ne_comma {c : Char} (h : isHexDigit c = true) : c ≠ ',' := by
  rintro rfl
  exact absurd h (by decide)

/-- A part with a comma in it stands for a comma. -/
theorem comma_mem_octets {p : ValuePart} (hvalid : p.Valid) (h : ',' ∈ p.text) :
    UInt8.ofNat ','.val.toNat ∈ p.octets := by
  cases p with
  | char c =>
    rw [ValuePart.text, List.mem_singleton] at h
    exact absurd (h ▸ List.mem_cons_of_mem _ (List.mem_cons_of_mem _ List.mem_cons_self)) hvalid.1
  | pair c =>
    simp only [ValuePart.text, List.mem_cons, List.not_mem_nil, or_false] at h
    rcases h with h | rfl
    · exact absurd h (by decide)
    · decide
  | octet high low =>
    simp only [ValuePart.text, List.mem_cons, List.not_mem_nil, or_false] at h
    rcases h with h | h | h
    · exact absurd h (by decide)
    · exact absurd h.symm (hexDigit_ne_comma hvalid.1)
    · exact absurd h.symm (hexDigit_ne_comma hvalid.2)

/-- A part stands for no more octets than it is written with, and for fewer if it is escaped. -/
theorem length_octets_part (p : ValuePart) : p.octets.length ≤ (utf8 p.text).length ∧
    (p.octets.length = (utf8 p.text).length → ∃ c, p = .char c) := by
  cases p with
  | char c =>
    refine ⟨?_, fun _ => ⟨c, rfl⟩⟩
    simp [ValuePart.octets, ValuePart.text, utf8]
  | pair c =>
    have hbackslash := '\\'.utf8Size_pos
    have hlength : (utf8 (ValuePart.pair c).text).length = '\\'.utf8Size + c.utf8Size := by
      simp [ValuePart.text, utf8]
    rw [ValuePart.octets, String.length_utf8EncodeChar, hlength]
    omega
  | octet high low =>
    have hlength := length_le_utf8 (ValuePart.octet high low).text
    simp only [ValuePart.text, List.length_cons, List.length_nil] at hlength
    simp only [ValuePart.octets, List.length_singleton, ValuePart.text]
    omega

theorem length_octets_parts (parts : List ValuePart) :
    (parts.flatMap ValuePart.octets).length ≤ (utf8 (parts.flatMap ValuePart.text)).length ∧
      ((parts.flatMap ValuePart.octets).length = (utf8 (parts.flatMap ValuePart.text)).length →
        ∀ p ∈ parts, ∃ c, p = .char c) := by
  induction parts with
  | nil => exact ⟨le_refl _, fun _ p hp => absurd hp List.not_mem_nil⟩
  | cons p parts ih =>
    obtain ⟨hle, heq⟩ := ih
    obtain ⟨hle', heq'⟩ := length_octets_part p
    rw [List.flatMap_cons, List.flatMap_cons, utf8_append, List.length_append, List.length_append]
    refine ⟨by omega, fun h => ?_⟩
    rw [List.forall_mem_cons]
    exact ⟨heq' (by omega), heq (by omega)⟩

theorem octets_of_plain {parts : List ValuePart} (h : ∀ p ∈ parts, ∃ c, p = .char c) :
    parts.flatMap ValuePart.octets = utf8 (parts.flatMap ValuePart.text) := by
  induction parts with
  | nil => rfl
  | cons p parts ih =>
    obtain ⟨⟨c, rfl⟩, hparts⟩ := List.forall_mem_cons.mp h
    rw [List.flatMap_cons, List.flatMap_cons, utf8_append, ih hparts]
    simp [ValuePart.octets, ValuePart.text, utf8]

theorem comma_not_mem_of_plain {parts : List ValuePart} (hvalid : ∀ p ∈ parts, p.Valid)
    (h : ∀ p ∈ parts, ∃ c, p = .char c) : ',' ∉ parts.flatMap ValuePart.text := by
  intro hmem
  obtain ⟨p, hp, hcomma⟩ := List.mem_flatMap.mp hmem
  obtain ⟨c, rfl⟩ := h p hp
  rw [ValuePart.text, List.mem_singleton] at hcomma
  have hescaped : ',' ∈ escaped := by decide
  exact (hvalid _ hp).1 (hcomma ▸ hescaped)

theorem takeWhile_eq_self_of_not_mem {text : List Char} (h : ',' ∉ text) :
    text.takeWhile (· ≠ ',') = text := by
  apply List.takeWhile_eq_self_iff.mpr
  intro c hc
  rw [decide_eq_true_eq]
  rintro rfl
  exact h hc

theorem not_mem_takeWhile (text : List Char) : ',' ∉ text.takeWhile (· ≠ ',') := by
  intro h
  have hne := List.mem_takeWhile_imp h
  simp at hne

variable [Ber]

/-- Behind a value stands nothing or a plus sign. The value stands for the text up to the next
comma if and only if nothing stands behind it and it has no escapes. -/
theorem octets_eq_iff (v : AttributeValue) {rest : List Char}
    (hrest : rest = [] ∨ ∃ cs, rest = '+' :: cs) :
    v.octets = some (utf8 ((v.text ++ rest).takeWhile (· ≠ ','))) ↔ v.Plain ∧ rest = [] := by
  have hrest_nil : (utf8 (rest.takeWhile (· ≠ ','))).length = 0 → rest = [] := by
    intro hlength
    rcases hrest with rfl | ⟨cs, rfl⟩
    · rfl
    · have hle := length_le_utf8 (('+' :: cs).takeWhile (· ≠ ','))
      rw [hlength] at hle
      simp at hle
  have happend : ∀ text : List Char, ',' ∉ text →
      (text ++ rest).takeWhile (· ≠ ',') = text ++ rest.takeWhile (· ≠ ',') := by
    intro text htext
    apply List.takeWhile_append_of_pos
    intro c hc
    rw [decide_eq_true_eq]
    rintro rfl
    exact htext hc
  cases v with
  | string s =>
    simp only [AttributeValue.octets, AttributeValue.text, AttributeValue.Plain, Option.some_inj]
    constructor
    · intro h
      by_cases hcomma : ',' ∈ s.parts.flatMap ValuePart.text
      · obtain ⟨p, hp, hmem⟩ := List.mem_flatMap.mp hcomma
        have hocts := List.mem_flatMap.mpr ⟨p, hp, comma_mem_octets (s.valid p hp) hmem⟩
        rw [h] at hocts
        exact absurd hocts (not_mem_utf8 (by decide) (not_mem_takeWhile _))
      · rw [happend _ hcomma, utf8_append] at h
        obtain ⟨hle, heq⟩ := length_octets_parts s.parts
        have hlength := congrArg List.length h
        rw [List.length_append] at hlength
        exact ⟨heq (by omega), hrest_nil (by omega)⟩
    · rintro ⟨hplain, rfl⟩
      rw [List.append_nil, octets_of_plain hplain,
        takeWhile_eq_self_of_not_mem (comma_not_mem_of_plain s.valid hplain)]
  | hexstring pairs hne hvalid =>
    simp only [AttributeValue.octets, AttributeValue.text, AttributeValue.Plain, false_and,
      iff_false]
    intro h
    have hcomma : ',' ∉ '#' :: pairs.flatMap (fun p => [p.1, p.2]) := by
      intro hmem
      rcases List.mem_cons.mp hmem with h | hmem
      · exact absurd h (by decide)
      · obtain ⟨p, hp, hmem⟩ := List.mem_flatMap.mp hmem
        simp only [List.mem_cons, List.not_mem_nil, or_false] at hmem
        rcases hmem with h | h
        · exact hexDigit_ne_comma (hvalid p hp).1 h.symm
        · exact hexDigit_ne_comma (hvalid p hp).2 h.symm
    have hle := Ber.length_le _ _ h
    rw [happend _ hcomma, utf8_append, List.length_append, List.length_map] at hle
    have htext := length_le_utf8 ('#' :: pairs.flatMap (fun p => [p.1, p.2]))
    simp only [List.length_cons, List.length_flatMap, List.length_nil] at htext
    simp only [List.map_const', List.sum_replicate_nat] at htext
    omega

end Rfc4514

end Kelvin
