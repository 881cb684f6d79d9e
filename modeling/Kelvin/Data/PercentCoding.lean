import Mathlib.Data.List.Basic
import Mathlib.Data.Nat.Notation

/-!
# Percent coding

`quote` writes the bytes of a text that are not safe in the path of a URL with a percent sign, and
`unquote` reads them. Bytes that are no UTF-8 are replaced.

* `decodeFrom`: UTF-8 with replacements.
* `quote`, `unquote`: the two codings.
* `unquote_quote`: a quoted text is read back.
* `quote_plain`: a quoted text has safe characters and percent signs only.
-/

namespace Kelvin

/-! ## UTF-8 -/

def continuationByte (b : UInt8) : Bool := 0x80 ≤ b && b ≤ 0xBF

/-- The second byte of a character with the first byte `lead`. -/
def secondByte (lead b : UInt8) : Bool :=
  if lead = 0xE0 then 0xA0 ≤ b && b ≤ 0xBF
  else if lead = 0xED then 0x80 ≤ b && b ≤ 0x9F
  else if lead = 0xF0 then 0x90 ≤ b && b ≤ 0xBF
  else if lead = 0xF4 then 0x80 ≤ b && b ≤ 0x8F
  else continuationByte b

/-- How many bytes become one replacement, for bytes that do not begin with a character. -/
def invalidLength : List UInt8 → ℕ
  | lead :: second :: rest =>
    if 0xE0 ≤ lead ∧ lead ≤ 0xF4 ∧ secondByte lead second then
      if 0xF0 ≤ lead ∧ rest.head?.any continuationByte then 3 else 2
    else 1
  | _ => 1

/-- `bytes.decode("utf-8", errors="replace")`, with the number of bytes that are still to be
skipped. -/
def decodeFrom : ℕ → List UInt8 → List Char
  | _, [] => []
  | skip + 1, _ :: bytes => decodeFrom skip bytes
  | 0, b :: bytes =>
    match ByteArray.utf8DecodeChar? (b :: bytes).toByteArray 0 with
    | some c => c :: decodeFrom (c.utf8Size - 1) bytes
    | none => '\uFFFD' :: decodeFrom (invalidLength (b :: bytes) - 1) bytes

theorem decodeFrom_append (bytes rest : List UInt8) :
    decodeFrom bytes.length (bytes ++ rest) = decodeFrom 0 rest := by
  induction bytes with
  | nil => rfl
  | cons b bytes ih => rw [List.length_cons, List.cons_append, decodeFrom, ih]

theorem decodeFrom_char (c : Char) (rest : List UInt8) :
    decodeFrom 0 (String.utf8EncodeChar c ++ rest) = c :: decodeFrom 0 rest := by
  have hlength := String.length_utf8EncodeChar c
  have hpos := c.utf8Size_pos
  have hdecode : ByteArray.utf8DecodeChar? (String.utf8EncodeChar c ++ rest).toByteArray 0 = some c := by
    rw [List.toByteArray_append]
    exact ByteArray.utf8DecodeChar?_utf8EncodeChar_append
  cases hbytes : String.utf8EncodeChar c with
  | nil =>
    rw [hbytes, List.length_nil] at hlength
    omega
  | cons b bytes =>
    rw [hbytes] at hlength hdecode
    have hskip : c.utf8Size - 1 = bytes.length := by
      rw [← hlength, List.length_cons, Nat.add_sub_cancel]
    rw [List.cons_append, decodeFrom, ← List.cons_append, hdecode]
    dsimp only
    rw [hskip, decodeFrom_append]

/-- An encoded text is read back. -/
theorem decodeFrom_encoded (text : List Char) :
    decodeFrom 0 (text.flatMap String.utf8EncodeChar) = text := by
  induction text with
  | nil => rfl
  | cons c text ih => rw [List.flatMap_cons, decodeFrom_char, ih]

/-! ## Quoting -/

/-- The characters that `quote` leaves. -/
def safeChars : List Char :=
  "ABCDEFGHIJKLMNOPQRSTUVWXYZabcdefghijklmnopqrstuvwxyz0123456789_.-~/".toList

def hexDigit (n : ℕ) : Char := "0123456789ABCDEF".toList.getD n '0'

def quotedByte (b : UInt8) : List Char :=
  if Char.ofNat b.toNat ∈ safeChars then [Char.ofNat b.toNat]
  else ['%', hexDigit (b.toNat / 16), hexDigit (b.toNat % 16)]

/-- `urllib.parse.quote`. -/
def quote (text : List Char) : List Char :=
  (text.flatMap String.utf8EncodeChar).flatMap quotedByte

def hexValue? (c : Char) : Option ℕ :=
  if '0' ≤ c ∧ c ≤ '9' then some (c.toNat - 48)
  else if 'A' ≤ c ∧ c ≤ 'F' then some (c.toNat - 55)
  else if 'a' ≤ c ∧ c ≤ 'f' then some (c.toNat - 87)
  else none

/-- The byte with the hexadecimal digits at the beginning of a text. -/
def hexByte? : List Char → Option UInt8
  | a :: b :: _ =>
    match hexValue? a, hexValue? b with
    | some high, some low => some (UInt8.ofNat (16 * high + low))
    | _, _ => none
  | _ => none

/-- `unquote`, with the number of characters that are still to be skipped and the bytes of the
ASCII characters before. -/
def unquoteFrom : ℕ → List UInt8 → List Char → List Char
  | _, bytes, [] => decodeFrom 0 bytes
  | skip + 1, bytes, _ :: text => unquoteFrom skip bytes text
  | 0, bytes, c :: text =>
    if 128 ≤ c.toNat then decodeFrom 0 bytes ++ c :: unquoteFrom 0 [] text
    else
      match if c = '%' then hexByte? text else none with
      | some b => unquoteFrom 2 (bytes ++ [b]) text
      | none => unquoteFrom 0 (bytes ++ [UInt8.ofNat c.toNat]) text

/-- `urllib.parse.unquote`. -/
def unquote (text : List Char) : List Char := unquoteFrom 0 [] text

theorem safe_ascii : ∀ c ∈ safeChars, c.toNat < 128 ∧ c ≠ '%' :=
  List.forall_iff_forall_mem.mp (by decide)

theorem hexByte_hexDigit : ∀ n < 256, hexByte? [hexDigit (n / 16), hexDigit (n % 16)] =
    some (UInt8.ofNat n) := by
  decide +kernel

theorem toNat_ofNat_byte {n : ℕ} (h : n < 256) : (Char.ofNat n).toNat = n := by
  have hvalid : n.isValidChar := Or.inl (Nat.lt_trans h (by decide))
  rw [Char.ofNat, dif_pos hvalid]
  rfl

theorem unquoteFrom_quotedByte (bytes : List UInt8) (b : UInt8) (text : List Char) :
    unquoteFrom 0 bytes (quotedByte b ++ text) = unquoteFrom 0 (bytes ++ [b]) text := by
  have hb : b.toNat < 256 := b.toNat_lt_size
  unfold quotedByte
  split
  · next hsafe =>
    obtain ⟨hascii, hpercent⟩ := safe_ascii _ hsafe
    have hvalid := toNat_ofNat_byte hb
    rw [List.singleton_append, unquoteFrom, if_neg (by omega), if_neg hpercent]
    dsimp only
    rw [hvalid, UInt8.ofNat_toNat]
  · have hhex : hexByte? (hexDigit (b.toNat / 16) :: hexDigit (b.toNat % 16) :: text) = some b := by
      have hdigits := hexByte_hexDigit _ hb
      rw [UInt8.ofNat_toNat] at hdigits
      exact hdigits
    have hpercent : ¬ 128 ≤ ('%' : Char).toNat := by decide
    rw [List.cons_append, List.cons_append, List.singleton_append, unquoteFrom, if_neg hpercent,
      if_pos rfl, hhex]
    rfl

/-- A quoted text is read back. -/
theorem unquote_quote (text : List Char) : unquote (quote text) = text := by
  have hbytes : ∀ (front bytes : List UInt8),
      unquoteFrom 0 front (bytes.flatMap quotedByte) = decodeFrom 0 (front ++ bytes) := by
    intro front bytes
    induction bytes generalizing front with
    | nil => rw [List.flatMap_nil, unquoteFrom, List.append_nil]
    | cons b bytes ih =>
      rw [List.flatMap_cons, unquoteFrom_quotedByte, ih, List.append_assoc, List.singleton_append]
  rw [unquote, quote, hbytes, List.nil_append, decodeFrom_encoded]

/-- A quoted text has safe characters and percent signs only. -/
theorem quote_plain {text : List Char} {c : Char} (h : c ∈ quote text) : c = '%' ∨ c ∈ safeChars := by
  have hdigit : ∀ n < 16, hexDigit n ∈ safeChars := by decide
  obtain ⟨b, -, hc⟩ := List.mem_flatMap.mp h
  have hb : b.toNat < 256 := b.toNat_lt_size
  unfold quotedByte at hc
  split at hc
  · next hsafe =>
    obtain rfl := List.mem_singleton.mp hc
    exact .inr hsafe
  · simp only [List.mem_cons, List.not_mem_nil, or_false] at hc
    rcases hc with rfl | rfl | rfl
    · exact .inl rfl
    · exact .inr (hdigit _ (by omega))
    · exact .inr (hdigit _ (by omega))

/-- A safe character stays in its place at the beginning. -/
theorem quote_cons {c : Char} (h : c ∈ safeChars) (text : List Char) :
    quote (c :: text) = c :: quote text := by
  have hascii := (safe_ascii c h).1
  have hsize : c.utf8Size = 1 := by
    rw [Char.utf8Size_eq_one_iff]
    exact UInt32.le_iff_toNat_le.mpr (by
      change c.toNat ≤ 127
      omega)
  have hbyte : String.utf8EncodeChar c = [c.val.toUInt8] := String.utf8EncodeChar_eq_singleton hsize
  have hback : Char.ofNat c.val.toUInt8.toNat = c := by
    have hmod : c.val.toUInt8.toNat = c.toNat := by
      rw [UInt32.toNat_toUInt8]
      exact Nat.mod_eq_of_lt (Nat.lt_trans hascii (by decide))
    rw [hmod, Char.ofNat_toNat]
  rw [quote, List.flatMap_cons, List.flatMap_append, hbyte, List.flatMap_cons, List.flatMap_nil,
    quotedByte, hback, if_pos h]
  rfl

end Kelvin
