import Kelvin.Importer.NameLengths
import Kelvin.Importer.Schemes

/-!
# Dates of an import

`parse_date` of `import_user.py`: a text with the numbers of a day, a month and a year in one of
three orders becomes a text in the order of the first.

* `readDate`: the numbers of a text.
* `parseDate`: `parse_date`, in a year in which it is called.
* `Date.Exists`: the date is one of the calendar.
* `Denotes`: the dates for which the texts of the formats stand.
* `parseDate_again`, `parseDate_same`: what has been parsed stays as it is, and texts for one date
  are parsed to one text.
* `parsesDates_iff`: the text is that of an existing date unless the day is beyond its month.
-/

namespace Kelvin

/-! ## The calendar -/

def isLeapYear (year : Nat) : Bool := year % 4 = 0 && (year % 100 ≠ 0 || year % 400 = 0)

def daysInMonth (year month : Nat) : Nat :=
  if month = 2 then (if isLeapYear year then 29 else 28)
  else if month ∈ [4, 6, 9, 11] then 30
  else 31

structure Date.Exists (date : Date) : Prop where
  month_pos : 1 ≤ date.month
  month_le : date.month ≤ 12
  day_pos : 1 ≤ date.day
  day_le : date.day ≤ daysInMonth date.year date.month

theorem daysInMonth_le (year month : Nat) : daysInMonth year month ≤ 31 := by
  unfold daysInMonth
  split
  · split <;> omega
  · split <;> omega

namespace Importer

/-! ## Numbers of a text -/

/-- A number of so many digits. -/
def isNumber (least most : Nat) (text : List Char) : Bool :=
  (least ≤ text.length && text.length ≤ most) && text.all Char.isDigit

/-- `int` of a text of digits. -/
def readNumber (text : List Char) : Nat := Nat.ofDigitChars 10 text 0

/-- The end of an expression matches also before a line feed at the end of the text. -/
def withoutLineFeed (text : List Char) : List Char :=
  if text.getLast? = some '\n' then text.dropLast else text

/-- The lengths of three numbers, each with the least and the greatest. -/
structure Widths where
  first : Nat × Nat
  second : Nat × Nat
  third : Nat × Nat

/-- The three numbers of a text that consists of them and two separators. -/
def threeNumbers (separator : Char) (widths : Widths) (text : List Char) :
    Option (Nat × Nat × Nat) :=
  match text.splitOn separator with
  | [a, b, c] =>
    if isNumber widths.first.1 widths.first.2 a && isNumber widths.second.1 widths.second.2 b &&
        isNumber widths.third.1 widths.third.2 (withoutLineFeed c) then
      some (readNumber a, readNumber b, readNumber (withoutLineFeed c))
    else none
  | _ => none

/-- yyyy-mm-dd. -/
def re1 : List Char → Option (Nat × Nat × Nat) := threeNumbers '-' ⟨(4, 4), (2, 2), (2, 2)⟩

/-- dd.mm.yy or dd.mm.yyyy. -/
def re2 : List Char → Option (Nat × Nat × Nat) := threeNumbers '.' ⟨(2, 2), (2, 2), (2, 4)⟩

/-- mm/dd/yy or mm/dd/yyyy. -/
def re3 : List Char → Option (Nat × Nat × Nat) := threeNumbers '/' ⟨(2, 2), (2, 2), (2, 4)⟩

/-- Year, month and day of a text, all 0 if it has none of the formats. -/
def readDate (text : List Char) : Date :=
  match re1 text, re2 text, re3 text with
  | some (year, month, day), _, _ => ⟨year, month, day⟩
  | none, some (day, month, year), _ => ⟨year, month, day⟩
  | none, none, some (month, day, year) => ⟨year, month, day⟩
  | none, none, none => ⟨0, 0, 0⟩

/-! ## Texts of dates -/

/-- `"%02d" % n`, with the width. -/
def padded (width n : Nat) : List Char := List.replicate (width - (digits n).length) '0' ++ digits n

def isoText (year : List Char) (month day : Nat) : List Char :=
  year ++ '-' :: padded 2 month ++ '-' :: padded 2 day

/-- `parse_date`. A `ValueError` is `none`. -/
def parseDate (today : Nat) (text : List Char) : Option (List Char) :=
  let date := readDate text
  if (1 ≤ date.month ∧ date.month ≤ 12) ∧ (1 ≤ date.day ∧ date.day ≤ 31) then
    if 1900 < date.year ∧ date.year < 2100 then
      some (isoText (digits date.year) date.month date.day)
    else if date.year ≤ 99 then
      if date.year ≤ today % 100 then
        some (isoText ("20".toList ++ padded 2 date.year) date.month date.day)
      else some (isoText ("19".toList ++ padded 2 date.year) date.month date.day)
    else none
  else none

/-- The text YYYY-MM-DD of a date. -/
def dateText (date : Date) : List Char := isoText (padded 4 date.year) date.month date.day

/-! ## Reading what is written -/

section Reading

variable {a b c text : List Char} {separator : Char} {widths : Widths} {width n : Nat}

theorem isDigit_padded {ch : Char} (h : ch ∈ padded width n) : ch.isDigit = true := by
  rcases List.mem_append.mp h with hzero | hdigit
  · rw [List.eq_of_mem_replicate hzero]
    rfl
  · exact isDigit_of_mem hdigit

theorem readNumber_padded : readNumber (padded width n) = n := by
  rw [readNumber, padded, Nat.ofDigitChars_append, Nat.ofDigitChars_replicate_zero, Nat.mul_zero]
  exact Nat.ofDigitChars_ten_toDigits

theorem isNumber_padded (h : (digits n).length ≤ width) : isNumber width width (padded width n) := by
  have hlength : (padded width n).length = width := by
    rw [padded, List.length_append, List.length_replicate]
    omega
  have hdigits : (padded width n).all Char.isDigit = true :=
    List.all_eq_true.mpr (fun _ => isDigit_padded)
  simp [isNumber, hlength, hdigits]

theorem not_mem_of_isNumber {least most : Nat} (h : isNumber least most a = true)
    (hseparator : separator.isDigit = false) : separator ∉ a := by
  intro hmem
  have hdigits : a.all Char.isDigit = true := (Bool.and_eq_true_iff.mp h).2
  rw [List.all_eq_true.mp hdigits _ hmem] at hseparator
  cases hseparator

theorem withoutLineFeed_of_isNumber {least most : Nat} (h : isNumber least most a = true) :
    withoutLineFeed a = a := by
  apply if_neg
  intro hlast
  exact not_mem_of_isNumber h (by decide) (List.mem_of_getLast? hlast)

theorem threeNumbers_text (ha : isNumber widths.first.1 widths.first.2 a = true)
    (hb : isNumber widths.second.1 widths.second.2 b = true)
    (hc : isNumber widths.third.1 widths.third.2 c = true) (hseparator : separator.isDigit = false) :
    threeNumbers separator widths (a ++ separator :: b ++ separator :: c) =
      some (readNumber a, readNumber b, readNumber c) := by
  have hsplit : (a ++ separator :: b ++ separator :: c).splitOn separator = [a, b, c] := by
    rw [List.splitOn_append_cons_self, List.splitOn_append_cons_self,
      List.splitOn_eq_singleton (not_mem_of_isNumber ha hseparator),
      List.splitOn_eq_singleton (not_mem_of_isNumber hb hseparator),
      List.splitOn_eq_singleton (not_mem_of_isNumber hc hseparator)]
    rfl
  rw [threeNumbers, hsplit]
  dsimp only
  rw [withoutLineFeed_of_isNumber hc, ha, hb, hc]
  rfl

theorem threeNumbers_of_not_mem (h : separator ∉ text) : threeNumbers separator widths text = none := by
  rw [threeNumbers, List.splitOn_eq_singleton h]

end Reading

section Formats

variable {year month day : List Char}

theorem readDate_iso (hyear : isNumber 4 4 year = true) (hmonth : isNumber 2 2 month = true)
    (hday : isNumber 2 2 day = true) : readDate (year ++ '-' :: month ++ '-' :: day) =
      ⟨readNumber year, readNumber month, readNumber day⟩ := by
  have hre1 : re1 (year ++ '-' :: month ++ '-' :: day) = _ :=
    threeNumbers_text hyear hmonth hday (by decide)
  rw [readDate, hre1]

/-- A separator is found in a text with another one between its numbers only if it is a digit. -/
theorem not_mem_text {a b c : List Char} {l₁ m₁ l₂ m₂ l₃ m₃ : Nat} {separator other : Char}
    (ha : isNumber l₁ m₁ a = true) (hb : isNumber l₂ m₂ b = true) (hc : isNumber l₃ m₃ c = true)
    (hother : other.isDigit = false) (hne : other ≠ separator) :
    other ∉ a ++ separator :: b ++ separator :: c := by
  simp [not_mem_of_isNumber ha hother, not_mem_of_isNumber hb hother,
    not_mem_of_isNumber hc hother, hne]

theorem readDate_german (hyear : isNumber 2 4 year = true) (hmonth : isNumber 2 2 month = true)
    (hday : isNumber 2 2 day = true) : readDate (day ++ '.' :: month ++ '.' :: year) =
      ⟨readNumber year, readNumber month, readNumber day⟩ := by
  have hre1 : re1 (day ++ '.' :: month ++ '.' :: year) = none :=
    threeNumbers_of_not_mem (not_mem_text hday hmonth hyear (by decide) (by decide))
  have hre2 : re2 (day ++ '.' :: month ++ '.' :: year) = _ :=
    threeNumbers_text hday hmonth hyear (by decide)
  rw [readDate, hre1, hre2]

theorem readDate_american (hyear : isNumber 2 4 year = true) (hmonth : isNumber 2 2 month = true)
    (hday : isNumber 2 2 day = true) : readDate (month ++ '/' :: day ++ '/' :: year) =
      ⟨readNumber year, readNumber month, readNumber day⟩ := by
  have hre1 : re1 (month ++ '/' :: day ++ '/' :: year) = none :=
    threeNumbers_of_not_mem (not_mem_text hmonth hday hyear (by decide) (by decide))
  have hre2 : re2 (month ++ '/' :: day ++ '/' :: year) = none :=
    threeNumbers_of_not_mem (not_mem_text hmonth hday hyear (by decide) (by decide))
  have hre3 : re3 (month ++ '/' :: day ++ '/' :: year) = _ :=
    threeNumbers_text hmonth hday hyear (by decide)
  rw [readDate, hre1, hre2, hre3]

end Formats

/-- The numbers of a date are read back from its text if they have the digits that it leaves for
them. -/
theorem readDate_dateText {date : Date} (hyear : date.year < 10000) (hmonth : date.month < 100)
    (hday : date.day < 100) : readDate (dateText date) = date := by
  have hlength : ∀ {n k : Nat}, 0 < k → n < 10 ^ k → (digits n).length ≤ k := fun hk hn =>
    (Nat.length_toDigits_le_iff (by decide) hk).mpr hn
  have hread := readDate_iso (isNumber_padded (hlength (by decide) (k := 4) hyear))
    (isNumber_padded (hlength (by decide) (k := 2) hmonth))
    (isNumber_padded (hlength (by decide) (k := 2) hday))
  rw [readNumber_padded, readNumber_padded, readNumber_padded] at hread
  exact hread

/-! ## What is returned -/

/-- The year that two digits stand for. -/
def shortYear (today year : Nat) : Nat := if year ≤ today % 100 then 2000 + year else 1900 + year

/-- The numbers that `parse_date` takes for a date. -/
structure Accepted (date : Date) : Prop where
  month_pos : 1 ≤ date.month
  month_le : date.month ≤ 12
  day_pos : 1 ≤ date.day
  day_le : date.day ≤ 31
  year : (1900 < date.year ∧ date.year < 2100) ∨ date.year ≤ 99

/-- The date with all digits of its year. -/
def fullDate (today : Nat) (date : Date) : Date :=
  { date with year := if date.year ≤ 99 then shortYear today date.year else date.year }

theorem digits_year : ∀ year < 2100, 1900 < year → digits year = padded 4 year := by
  decide +kernel

theorem century_year : ∀ year < 100, "20".toList ++ padded 2 year = padded 4 (2000 + year) ∧
    "19".toList ++ padded 2 year = padded 4 (1900 + year) := by
  decide

theorem parseDate_of_accepted {today : Nat} {text : List Char} (h : Accepted (readDate text)) :
    parseDate today text = some (dateText (fullDate today (readDate text))) := by
  unfold parseDate
  rw [if_pos ⟨⟨h.month_pos, h.month_le⟩, h.day_pos, h.day_le⟩]
  by_cases hlong : 1900 < (readDate text).year ∧ (readDate text).year < 2100
  · have hnot : ¬(readDate text).year ≤ 99 := by omega
    rw [if_pos hlong, digits_year _ hlong.2 hlong.1, dateText, fullDate]
    dsimp only
    rw [if_neg hnot]
  · have hshort : (readDate text).year ≤ 99 := h.year.resolve_left hlong
    obtain ⟨h20, h19⟩ := century_year _ (Nat.lt_succ_of_le hshort)
    rw [if_neg hlong, if_pos hshort, dateText, fullDate]
    dsimp only
    rw [if_pos hshort, shortYear]
    by_cases hcentury : (readDate text).year ≤ today % 100
    · rw [if_pos hcentury, if_pos hcentury, h20]
    · rw [if_neg hcentury, if_neg hcentury, h19]

theorem parseDate_of_not_accepted {today : Nat} {text : List Char} (h : ¬Accepted (readDate text)) :
    parseDate today text = none := by
  unfold parseDate
  dsimp only
  split
  · next hrange =>
    split
    · next hlong => exact absurd ⟨hrange.1.1, hrange.1.2, hrange.2.1, hrange.2.2, .inl hlong⟩ h
    · split
      · next hshort => exact absurd ⟨hrange.1.1, hrange.1.2, hrange.2.1, hrange.2.2, .inr hshort⟩ h
      · rfl
  · rfl

theorem parseDate_eq_some {today : Nat} {text out : List Char} : parseDate today text = some out ↔
    Accepted (readDate text) ∧ out = dateText (fullDate today (readDate text)) := by
  by_cases h : Accepted (readDate text)
  · rw [parseDate_of_accepted h, Option.some_inj, and_iff_right h, eq_comm]
  · rw [parseDate_of_not_accepted h]
    constructor
    · intro hnone
      cases hnone
    · intro hout
      exact absurd hout.1 h

theorem shortYear_bounds {today year : Nat} (h : year ≤ 99) :
    1900 < shortYear today year ∧ shortYear today year < 2100 := by
  unfold shortYear
  split <;> omega

theorem Accepted.fullYear {date : Date} (h : Accepted date) (today : Nat) :
    1900 < (fullDate today date).year ∧ (fullDate today date).year < 2100 := by
  unfold fullDate
  by_cases hshort : date.year ≤ 99
  · rw [if_pos hshort]
    exact shortYear_bounds hshort
  · rw [if_neg hshort]
    exact h.year.resolve_right hshort

theorem Accepted.full {today : Nat} {date : Date} (h : Accepted date) :
    Accepted (fullDate today date) :=
  ⟨h.month_pos, h.month_le, h.day_pos, h.day_le, .inl (h.fullYear today)⟩

theorem fullDate_of_long {today : Nat} {date : Date} (h : 1900 < date.year) :
    fullDate today date = date := by
  have hnot : ¬date.year ≤ 99 := by omega
  rw [fullDate, if_neg hnot]

theorem Accepted.readDate_full {date : Date} (h : Accepted date) (today : Nat) :
    readDate (dateText (fullDate today date)) = fullDate today date := by
  have hyear := (h.fullYear today).2
  have hmonth := h.month_le
  have hday := h.day_le
  apply readDate_dateText
  · omega
  · show date.month < 100
    omega
  · show date.day < 100
    omega

/-- **What has been parsed stays as it is**, also in another year. -/
theorem parseDate_again {today today' : Nat} {text out : List Char}
    (h : parseDate today text = some out) : parseDate today' out = some out := by
  obtain ⟨haccepted, rfl⟩ := parseDate_eq_some.mp h
  have hread := haccepted.readDate_full today
  rw [parseDate_eq_some, hread, fullDate_of_long (haccepted.fullYear today).1]
  exact ⟨haccepted.full, rfl⟩

/-! ## One date in several texts -/

/-- The dates that the texts of the formats stand for. -/
inductive Denotes (today : Nat) : List Char → Date → Prop where
  | iso {year month day : List Char} (hyear : isNumber 4 4 year = true)
      (hmonth : isNumber 2 2 month = true) (hday : isNumber 2 2 day = true) :
      Denotes today (year ++ '-' :: month ++ '-' :: day)
        ⟨readNumber year, readNumber month, readNumber day⟩
  | german {year month day : List Char} (hyear : isNumber 4 4 year = true)
      (hmonth : isNumber 2 2 month = true) (hday : isNumber 2 2 day = true) :
      Denotes today (day ++ '.' :: month ++ '.' :: year)
        ⟨readNumber year, readNumber month, readNumber day⟩
  | germanShort {year month day : List Char} (hyear : isNumber 2 2 year = true)
      (hmonth : isNumber 2 2 month = true) (hday : isNumber 2 2 day = true) :
      Denotes today (day ++ '.' :: month ++ '.' :: year)
        ⟨shortYear today (readNumber year), readNumber month, readNumber day⟩
  | american {year month day : List Char} (hyear : isNumber 4 4 year = true)
      (hmonth : isNumber 2 2 month = true) (hday : isNumber 2 2 day = true) :
      Denotes today (month ++ '/' :: day ++ '/' :: year)
        ⟨readNumber year, readNumber month, readNumber day⟩
  | americanShort {year month day : List Char} (hyear : isNumber 2 2 year = true)
      (hmonth : isNumber 2 2 month = true) (hday : isNumber 2 2 day = true) :
      Denotes today (month ++ '/' :: day ++ '/' :: year)
        ⟨shortYear today (readNumber year), readNumber month, readNumber day⟩

section Denoting

variable {today : Nat} {text text' out : List Char} {date : Date}

theorem isNumber_mono {a : List Char} {least most least' most' : Nat}
    (h : isNumber least most a = true) (hleast : least' ≤ least) (hmost : most ≤ most') :
    isNumber least' most' a = true := by
  simp only [isNumber, Bool.and_eq_true, decide_eq_true_eq] at h ⊢
  exact ⟨⟨hleast.trans h.1.1, h.1.2.trans hmost⟩, h.2⟩

theorem digit_le {c : Char} (h : c.isDigit = true) : c.toNat - '0'.toNat ≤ 9 := by
  simp only [Char.isDigit, Bool.and_eq_true, decide_eq_true_eq, ge_iff_le, UInt32.le_iff_toNat_le] at h
  have hle : c.toNat ≤ 57 := h.2
  show c.toNat - 48 ≤ 9
  omega

theorem readNumber_lt {a : List Char} (h : ∀ c ∈ a, c.isDigit = true) :
    readNumber a < 10 ^ a.length := by
  induction a with
  | nil => decide
  | cons c cs ih =>
    have hc : c.toNat - '0'.toNat ≤ 9 := digit_le (h c List.mem_cons_self)
    have hcs : readNumber cs < 10 ^ cs.length := ih (fun d hd => h d (List.mem_cons_of_mem _ hd))
    have hvalue : readNumber (c :: cs) =
        10 ^ cs.length * (c.toNat - '0'.toNat) + readNumber cs := by
      rw [readNumber, Nat.ofDigitChars_cons, Nat.ofDigitChars_eq_ofDigitChars_zero, Nat.mul_zero,
        Nat.zero_add]
      rfl
    calc readNumber (c :: cs) = 10 ^ cs.length * (c.toNat - '0'.toNat) + readNumber cs := hvalue
      _ < 10 ^ cs.length * 9 + 10 ^ cs.length :=
        Nat.add_lt_add_of_le_of_lt (Nat.mul_le_mul_left _ hc) hcs
      _ = 10 ^ (c :: cs).length := by
        rw [List.length_cons, Nat.pow_succ]
        omega

theorem readNumber_short {a : List Char} (h : isNumber 2 2 a = true) : readNumber a ≤ 99 := by
  simp only [isNumber, Bool.and_eq_true, decide_eq_true_eq] at h
  have hlength : a.length = 2 := by omega
  have hlt := readNumber_lt (List.all_eq_true.mp h.2)
  rw [hlength] at hlt
  omega

/-- The numbers of a text are its date, but for a year of two digits. -/
theorem Denotes.read (h : Denotes today text date) :
    readDate text = date ∨ ((readDate text).year ≤ 99 ∧ date = fullDate today (readDate text)) := by
  have hshort : ∀ {year month day : Nat}, year ≤ 99 →
      (⟨shortYear today year, month, day⟩ : Date) = fullDate today ⟨year, month, day⟩ := by
    intro year month day hyear
    rw [fullDate, if_pos hyear]
  cases h with
  | iso hyear hmonth hday => exact .inl (readDate_iso hyear hmonth hday)
  | german hyear hmonth hday =>
    exact .inl (readDate_german (isNumber_mono hyear (by decide) (by decide)) hmonth hday)
  | germanShort hyear hmonth hday =>
    rw [readDate_german (isNumber_mono hyear (by decide) (by decide)) hmonth hday]
    exact .inr ⟨readNumber_short hyear, hshort (readNumber_short hyear)⟩
  | american hyear hmonth hday =>
    exact .inl (readDate_american (isNumber_mono hyear (by decide) (by decide)) hmonth hday)
  | americanShort hyear hmonth hday =>
    rw [readDate_american (isNumber_mono hyear (by decide) (by decide)) hmonth hday]
    exact .inr ⟨readNumber_short hyear, hshort (readNumber_short hyear)⟩

/-- What is returned for a text of the formats depends on the date that it stands for. -/
theorem Denotes.parse (h : Denotes today text date) : parseDate today text = some out ↔
    Accepted date ∧ out = dateText (fullDate today date) := by
  rw [parseDate_eq_some]
  rcases h.read with rfl | ⟨hshort, rfl⟩
  · exact Iff.rfl
  · have haccepted : Accepted (fullDate today (readDate text)) ↔ Accepted (readDate text) := by
      constructor
      · intro hfull
        exact ⟨hfull.month_pos, hfull.month_le, hfull.day_pos, hfull.day_le, .inr hshort⟩
      · intro hread
        exact hread.full
    rw [haccepted]
    refine and_congr_right (fun hread => ?_)
    rw [fullDate_of_long (hread.fullYear today).1]

/-- **Texts that stand for one date** are parsed to one text, or none of them is. -/
theorem parseDate_same (h : Denotes today text date) (h' : Denotes today text' date) :
    parseDate today text = parseDate today text' := by
  apply Option.ext
  intro out
  rw [h.parse, h'.parse]

end Denoting

/-! ## Dates of the calendar -/

/-- What is parsed is the text of a date of the calendar, stays as it is, and is the same for all
texts of its date. -/
structure ParsesDates (today : Nat) (text : List Char) : Prop where
  real : ∀ out, parseDate today text = some out → ∃ date : Date, date.Exists ∧ out = dateText date
  again : ∀ out, parseDate today text = some out → parseDate today out = some out
  same : ∀ text' date, Denotes today text date → Denotes today text' date →
    parseDate today text' = parseDate today text

theorem dateText_injective {date date' : Date} (h : dateText date = dateText date') :
    date = date' := by
  have hsplit : ∀ d : Date, (dateText d).splitOn '-' =
      [padded 4 d.year, padded 2 d.month, padded 2 d.day] := by
    intro d
    have hmem : ∀ {width n : Nat}, '-' ∉ padded width n := by
      intro width n hmem
      exact absurd (isDigit_padded hmem) (by decide)
    rw [dateText, isoText, List.splitOn_append_cons_self, List.splitOn_append_cons_self,
      List.splitOn_eq_singleton hmem, List.splitOn_eq_singleton hmem,
      List.splitOn_eq_singleton hmem]
    rfl
  have hparts := hsplit date
  rw [h, hsplit date'] at hparts
  have hnumbers := congrArg (List.map readNumber) hparts
  simp only [List.map_cons, readNumber_padded, List.map_nil, List.cons.injEq, and_true] at hnumbers
  cases date
  cases date'
  simp_all

/-- **The parsed dates are real** exactly if no text has a day that its month lacks. -/
theorem parsesDates_iff (today : Nat) (text : List Char) :
    ParsesDates today text ↔ (Accepted (readDate text) →
      (readDate text).day ≤
        daysInMonth (fullDate today (readDate text)).year (readDate text).month) := by
  constructor
  · intro h haccepted
    obtain ⟨date, hexists, htext⟩ := h.real _ (parseDate_of_accepted haccepted)
    rw [← dateText_injective htext] at hexists
    exact hexists.day_le
  · intro h
    refine ⟨?_, fun out hout => parseDate_again hout, fun text' date htext htext' =>
      parseDate_same htext' htext⟩
    intro out hout
    obtain ⟨haccepted, rfl⟩ := parseDate_eq_some.mp hout
    exact ⟨fullDate today (readDate text),
      ⟨haccepted.month_pos, haccepted.month_le, haccepted.day_pos, h haccepted⟩, rfl⟩

/-- The day of the text is only compared with 31. -/
theorem parseDate_february : parseDate 2024 "31.02.2020".toList = some "2020-02-31".toList ∧
    ¬ParsesDates 2024 "31.02.2020".toList := by
  have hparse : parseDate 2024 "31.02.2020".toList = some "2020-02-31".toList := by decide
  refine ⟨hparse, fun h => ?_⟩
  obtain ⟨date, hexists, htext⟩ := h.real _ hparse
  have hdate : date = ⟨2020, 2, 31⟩ := dateText_injective (htext.symm.trans (by decide))
  have hday := hexists.day_le
  rw [hdate] at hday
  exact absurd hday (by decide)

/-! ## Dates of a user -/

/-- The date of a user that has been made is made again to the same. -/
theorem parsedDate_parsedDate {env : Environment} {today : Nat}
    (henv : ∀ s, env.parseDate s = (parseDate today s.toList).map String.ofList) (value : Json) :
    parsedDate env (parsedDate env value) = parsedDate env value := by
  cases value with
  | str s =>
    rw [parsedDate, henv]
    cases hparse : parseDate today s.toList with
    | none =>
      show parsedDate env (.str s) = .str s
      rw [parsedDate, henv, hparse]
      rfl
    | some out =>
      show parsedDate env (.str (String.ofList out)) = .str (String.ofList out)
      rw [parsedDate, henv, String.toList_ofList, parseDate_again hparse]
      rfl
  | _ => rfl

end Importer

end Kelvin
