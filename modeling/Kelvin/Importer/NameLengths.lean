import Kelvin.Data.Outcome
import Kelvin.Importer.Templates

/-!
# The lengths of generated names

A name is cut where three more characters would make it too long. But the counter is put into the
name as it is written, and what is stripped of the name without it may stay in front of a number.

* `WithinLimit`, `EmailWithinLimit`: no name is longer than the maximum, for numbers up to 999.
* `CounterFits`: the templates that leave room for the number.
* `lengths_iff`: the user names that are short enough, and all email addresses.
-/

namespace Kelvin

namespace Importer

open Text

/-! ## Numbers in texts -/

/-- A text that a function of a variable returns, for stored numbers up to 999. -/
def IsCounter (v : CounterVariable) (counter : List Char) : Prop :=
  counter = v.initialValue ∨ ∃ n ≤ 999, counter = digits n

theorem IsCounter.length_le {v : CounterVariable} {counter : List Char}
    (h : IsCounter v counter) : counter.length ≤ patternFuncMaxLength := by
  rcases h with rfl | ⟨n, hn, rfl⟩
  · cases v <;> decide
  · exact (Nat.length_toDigits_le_iff (by decide) (by decide)).mpr (Nat.lt_succ_of_le hn)

/-- No digit is configured as a special character. -/
def NoDigits (special : List Char) : Prop := ∀ c ∈ special, c.isDigit = false

theorem noDigits_iff {special : List Char} :
    special.all (fun c => !c.isDigit) = true ↔ NoDigits special := by
  simp [NoDigits]

instance (special : List Char) : Decidable (NoDigits special) := decidable_of_iff _ noDigits_iff

/-- What is left of a text that a number stands behind. -/
def cleanedFront (special text : List Char) : List Char :=
  ((lstripEach special text).filter (isAllowed special)).dropWhile (· = '.')

/-- What is left of a text behind a number. -/
def cleanedBack (special text : List Char) : List Char :=
  ((rstripEach special text).filter (isAllowed special)).rdropWhile (· = '.')

/-- The text on both sides of a number is stripped on its outer side only. -/
theorem cleaned_around {special counter : List Char} (hspecial : NoDigits special)
    (hne : counter ≠ []) (hcounter : ∀ c ∈ counter, c.isDigit = true)
    (before behind : List Char) :
    strip '.' (removeBadChars special (before ++ counter ++ behind)) =
      cleanedFront special before ++ counter ++ cleanedBack special behind := by
  have hplain : ∀ c ∈ counter, c ∉ special := by
    intro c hc hmem
    exact absurd ((hspecial c hmem).symm.trans (hcounter c hc)) Bool.false_ne_true
  have hallowed : counter.filter (isAllowed special) = counter := by
    rw [List.filter_eq_self]
    intro c hc
    simp [isAllowed, Char.isAlphanum, hcounter c hc]
  have hdot : ∀ c ∈ counter, c ≠ '.' := by
    rintro c hc rfl
    exact absurd (hcounter _ hc) (by decide)
  rw [removeBadChars_eq, stripEach_around _ _ hne (fun d hd => hplain d (List.mem_of_mem_head? hd))
    (fun d hd => hplain d (List.mem_of_mem_getLast? hd)), List.filter_append, List.filter_append,
    hallowed, strip_around _ _ hne (fun d hd => hdot d (List.mem_of_mem_head? hd))
    (fun d hd => hdot d (List.mem_of_mem_getLast? hd))]
  rfl

theorem digits_ne_nil (n : Nat) : digits n ≠ [] := Nat.toDigits_ne_nil

theorem isDigit_of_mem {n : Nat} {c : Char} (h : c ∈ digits n) : c.isDigit = true :=
  Nat.isDigit_of_mem_toDigits (by decide) (by decide) h

theorem IsCounter.isDigit {v : CounterVariable} {counter : List Char} (h : IsCounter v counter) :
    ∀ c ∈ counter, c.isDigit = true := by
  rcases h with rfl | ⟨n, -, rfl⟩
  · exact List.all_eq_true.mp (by cases v <;> decide)
  · exact fun c hc => isDigit_of_mem hc

/-! ## Names of handlers -/

section Handlers

variable [NameStorage] [Runtime]

/-- The stored numbers are not above `n`. -/
def Counters.UpTo (n : Nat) (store : Counters) : Prop :=
  ∀ key k, store key = some (.number k) → k ≤ n

variable {h : Handler} {name : List Char} {m : Match} {limit : Nat} {counter : List Char}
  {store store' : Counters}

omit [Runtime] in
theorem counter_cases (hstore : store.UpTo 999)
    (hcounter : h.counter name limit m store = .ok (counter, store')) :
    h.nameBase name limit = [] ∧ counter = [] ∨
      h.nameBase name limit ≠ [] ∧ IsCounter m.kind counter := by
  unfold Handler.counter at hcounter
  split at hcounter
  · next hbase =>
    cases hcounter
    exact .inl ⟨hbase, rfl⟩
  · next hbase =>
    refine .inr ⟨hbase, ?_⟩
    rcases getAndRaise_eq_ok.mp hcounter with ⟨-, rfl, -⟩ | ⟨n, hn, rfl, -⟩
    · exact .inl rfl
    · exact .inr ⟨n, hstore _ _ hn, rfl⟩

/-- A store in which the base of a name has a number. -/
def storeOf (key : List Char) (n : Nat) : Counters :=
  fun key' => if key' = key then some (.number n) else none

omit [Runtime] in
/-- Every such text is the counter of a name, for some store. -/
theorem exists_store (hbase : h.nameBase name limit ≠ []) (hcounter : IsCounter m.kind counter) :
    ∃ store store', Counters.UpTo 999 store ∧
      h.counter name limit m store = .ok (counter, store') := by
  simp only [Handler.counter, if_neg hbase]
  rcases hcounter with rfl | ⟨n, hn, rfl⟩
  · refine ⟨fun _ => none, _, fun key k hk => ?_, getAndRaise_eq_ok.mpr (.inl ⟨rfl, rfl, rfl⟩)⟩
    cases hk
  · refine ⟨storeOf (NameStorage.key (h.nameBase name limit)) n, _, ?_,
      getAndRaise_eq_ok.mpr (.inr ⟨n, if_pos rfl, rfl, rfl⟩)⟩
    intro key k hk
    unfold storeOf at hk
    split at hk
    · cases hk
      exact hn
    · cases hk

omit [NameStorage] [Runtime] in
/-- A name that is cut leaves room for a number. -/
theorem length_fill_of_long (hsearch : search name = some m)
    (hlong : limit - patternFuncMaxLength < (h.withoutPattern name).length)
    (hcounter : counter.length ≤ patternFuncMaxLength)
    (hempty : h.nameBase name limit = [] → counter = []) :
    (h.fill name limit m counter).length ≤ limit := by
  have hbase : (h.nameBase name limit).length = limit - patternFuncMaxLength := by
    rw [nameBase_eq, List.length_take]
    omega
  have hstart := length_sub_le hcounter ((h.nameBase name limit).take m.start)
  have hrest := length_sub_le hcounter ((h.nameBase name limit).drop m.start)
  rw [List.length_take] at hstart
  rw [List.length_drop] at hrest
  rw [fill_of_long hsearch hlong, List.length_append, List.length_append]
  by_cases hnil : h.nameBase name limit = []
  · rw [hempty hnil, hnil, List.take_nil, List.drop_nil]
    exact Nat.zero_le _
  · have hpos := List.length_pos_iff.mpr hnil
    omega

/-- A handler that removes characters only. -/
def Handler.Shortens (h : Handler) : Prop :=
  ∀ text, (h.removeBadChars text).length ≤ text.length

omit [NameStorage] [Runtime] in
theorem length_strip_le (c : Char) (text : List Char) : (strip c text).length ≤ text.length :=
  (strip_sublist c text).length_le

/-- Only a short name with a number can become too long. -/
theorem length_formatName (hshortens : h.Shortens) {maxLength : Option Nat}
    {username : List Char} (hstore : store.UpTo 999)
    (hformat : formatName h name maxLength store = .ok (username, store'))
    (hshort : ∀ m before behind counter, search name = some m → Around name m before behind →
      h.nameBase name (h.limit maxLength) ≠ [] →
      (h.withoutPattern name).length ≤ h.limit maxLength - patternFuncMaxLength →
      IsCounter m.kind counter → counter ≠ [] →
      (strip '.' (h.removeBadChars (before ++ counter ++ behind))).length ≤ h.limit maxLength) :
    username.length ≤ h.limit maxLength := by
  cases hsearch : search name with
  | none =>
    rw [formatName_of_no_match hsearch] at hformat
    cases hformat
    refine (length_strip_le _ _).trans ?_
    split
    · exact List.length_take_le _ _
    · next hle => exact (hshortens name).trans (by omega)
  | some m =>
    obtain ⟨hone, counter, hcounter, rfl⟩ := (formatName_eq_ok hsearch).mp hformat
    have hcases := counter_cases hstore hcounter
    rcases Nat.lt_or_ge (h.limit maxLength - patternFuncMaxLength) (h.withoutPattern name).length
      with hlong | hle
    · have hlength : counter.length ≤ patternFuncMaxLength := by
        rcases hcases with ⟨-, hnil⟩ | ⟨-, hcounter⟩
        · rw [hnil]
          exact Nat.zero_le _
        · exact hcounter.length_le
      have hempty : h.nameBase name (h.limit maxLength) = [] → counter = [] := by
        intro hbase
        rcases hcases with ⟨-, hnil⟩ | ⟨hne, -⟩
        · exact hnil
        · exact absurd hbase hne
      exact (length_strip_le _ _).trans
        ((hshortens _).trans (length_fill_of_long hsearch hlong hlength hempty))
    · obtain ⟨before, behind, haround⟩ := exists_around hsearch hone
      rw [fill_of_short haround hle]
      by_cases hempty : counter = []
      · -- without a number the name is the one that was not cut
        have hbase : h.removeBadChars (before ++ counter ++ behind) = h.withoutPattern name := by
          rw [hempty, Handler.withoutPattern, haround.sub_eq]
        rw [hbase]
        exact (length_strip_le _ _).trans (by omega)
      · rcases hcases with ⟨-, hnil⟩ | ⟨hne, hcounter⟩
        · exact absurd hnil hempty
        · exact hshort m before behind counter hsearch haround hne hle hcounter hempty

end Handlers

/-! ## User names -/

section UserNames

theorem shortens_usernameHandler (special : List Char) (max : Nat) :
    (usernameHandler special max).Shortens := by
  intro text
  show (removeBadChars special text).length ≤ text.length
  rw [removeBadChars_eq]
  exact (List.filter_sublist.trans (stripEach_sublist _ _)).length_le

theorem shortens_emailHandler (max : Nat) : (emailHandler max).Shortens := by
  intro text
  show (removeWhitespace text).length ≤ text.length
  rw [removeWhitespace_eq]
  exact List.length_filter_le _ _

variable [NameStorage] [Runtime]

/-- No user name of the template is longer than the maximum, for stored numbers up to 999. -/
def WithinLimit (special : List Char) (max : Nat) (name : List Char) (maxLength : Option Nat) :
    Prop :=
  ∀ store username store', Counters.UpTo 999 store →
    formatName (usernameHandler special max) name maxLength store = .ok (username, store') →
      username.length ≤ (usernameHandler special max).limit maxLength

omit [NameStorage] [Runtime] in
/-- A template is not cut, has a base and a variable, and there is room for a number of three digits
between what is left of the texts on the two sides of the variable. -/
def CounterFits (special : List Char) (max : Nat) (name : List Char) (maxLength : Option Nat) :
    Prop :=
  ∀ m before behind, search name = some m → Around name m before behind →
    (usernameHandler special max).nameBase name ((usernameHandler special max).limit maxLength) ≠ [] →
    ((usernameHandler special max).withoutPattern name).length ≤
      (usernameHandler special max).limit maxLength - patternFuncMaxLength →
    if NoDigits special then
      (cleanedFront special before).length + patternFuncMaxLength +
        (cleanedBack special behind).length ≤ (usernameHandler special max).limit maxLength
    else
      ∀ counter, IsCounter m.kind counter → counter ≠ [] →
        (strip '.' (removeBadChars special (before ++ counter ++ behind))).length ≤
          (usernameHandler special max).limit maxLength

theorem withinLimit_iff (special : List Char) (max : Nat) (name : List Char)
    (maxLength : Option Nat) :
    WithinLimit special max name maxLength ↔ CounterFits special max name maxLength := by
  constructor
  · intro h m before behind hsearch haround hbase hle
    have hname : ∀ counter, IsCounter m.kind counter →
        (strip '.' (removeBadChars special (before ++ counter ++ behind))).length ≤
          (usernameHandler special max).limit maxLength := by
      intro counter hcounter
      obtain ⟨store, store', hstore, hcounted⟩ := exists_store hbase hcounter
      rw [← fill_of_short haround hle]
      exact h store _ store' hstore
        ((formatName_eq_ok hsearch).mpr ⟨haround.one, counter, hcounted, rfl⟩)
    by_cases hdigits : NoDigits special
    · have hlongest := hname (digits 999) (.inr ⟨999, le_refl _, rfl⟩)
      rw [cleaned_around hdigits (digits_ne_nil 999) (fun c hc => isDigit_of_mem hc),
        List.length_append, List.length_append] at hlongest
      rw [if_pos hdigits]
      exact hlongest
    · rw [if_neg hdigits]
      exact fun counter hcounter _ => hname counter hcounter
  · intro h store username store' hstore hformat
    refine length_formatName (shortens_usernameHandler special max) hstore hformat ?_
    intro m before behind counter hsearch haround hbase hle hcounter hne
    have hfits := h m before behind hsearch haround hbase hle
    by_cases hdigits : NoDigits special
    · rw [if_pos hdigits] at hfits
      show (strip '.' (removeBadChars special _)).length ≤ _
      rw [cleaned_around hdigits hne hcounter.isDigit, List.length_append, List.length_append]
      have hlength := hcounter.length_le
      omega
    · rw [if_neg hdigits] at hfits
      exact hfits counter hcounter hne

end UserNames

/-! ## Email addresses -/

section EmailAddresses

variable [NameStorage] [Runtime]

/-- No address of the template is longer than the maximum, for stored numbers up to 999. -/
def EmailWithinLimit (max : Nat) (name : List Char) : Prop :=
  ∀ store address store', Counters.UpTo 999 store →
    emailFormatName max name none store = .ok (address, store') → address.length ≤ max

omit [NameStorage] [Runtime] in
/-- White space is removed wherever it stands, so nothing but the number is added to the base. -/
theorem length_email_of_short {max limit : Nat} {name : List Char} {m : Match}
    {before behind counter : List Char} (haround : Around name m before behind)
    (hbase : (emailHandler max).nameBase name limit ≠ [])
    (hshort : ((emailHandler max).withoutPattern name).length ≤ limit - patternFuncMaxLength)
    (hcounter : counter.length ≤ patternFuncMaxLength) :
    (removeWhitespace (before ++ counter ++ behind)).length ≤ limit := by
  have hpos : 0 < limit - patternFuncMaxLength := by
    rw [nameBase_eq] at hbase
    by_contra hzero
    rw [Nat.eq_zero_of_not_pos hzero] at hbase
    exact hbase List.take_zero
  have hwithout : (emailHandler max).withoutPattern name =
      (before ++ [] ++ behind).filter (fun c => c ∉ whitespace) := by
    rw [← haround.sub_eq, ← removeWhitespace_eq]
    rfl
  have hle := List.length_filter_le (fun c => decide (c ∉ whitespace)) counter
  rw [hwithout, List.append_nil, List.filter_append, List.length_append] at hshort
  rw [removeWhitespace_eq, List.filter_append, List.filter_append, List.length_append,
    List.length_append]
  omega

theorem emailWithinLimit (max : Nat) (name : List Char) : EmailWithinLimit max name := by
  intro store address store' hstore hformat
  unfold emailFormatName at hformat
  split at hformat
  · cases hformat
  · next hpos =>
    obtain ⟨⟨username, store₁⟩, hlocal, hok⟩ := bind_eq_ok.mp hformat
    cases pure_eq_ok.mp hok
    have hlimit := (emailHandler max).limit_of_pos (Nat.not_lt.mp hpos)
    have hle := length_formatName (shortens_emailHandler max) hstore hlocal
      (fun m before behind counter _ haround hbase hshort hcounter _ =>
        (length_strip_le _ _).trans
          (length_email_of_short haround hbase hshort hcounter.length_le))
    rw [hlimit] at hle
    show (username ++ '@' :: (rpartitionAt name).2).length ≤ max
    rw [List.length_append, List.length_cons]
    have hleft : emailLimit max (rpartitionAt name).2 none =
        max - (rpartitionAt name).2.length - 1 := rfl
    omega

/-- The user names of a template are short enough if and only if it leaves room for the counter, and
all email addresses are short enough. -/
theorem lengths_iff (special : List Char) (max : Nat) (name : List Char)
    (maxLength : Option Nat) :
    (WithinLimit special max name maxLength ↔ CounterFits special max name maxLength) ∧
      EmailWithinLimit max name :=
  ⟨withinLimit_iff special max name maxLength, emailWithinLimit max name⟩

end EmailAddresses

section Example

attribute [local instance] asciiRuntime memoryStorage

/-- The dots in front of the variable are stripped of the name without it only. -/
theorem dots_before_counter :
    (∃ store', formatName (usernameHandler ['.'] 20) "anna....................[COUNTER2]".toList
      none (storeOf "anna".toList 2) = .ok ("anna....................2".toList, store')) ∧
    ¬ WithinLimit ['.'] 20 "anna....................[COUNTER2]".toList none := by
  have hname := exists_of_returned (x := formatName (usernameHandler ['.'] 20)
    "anna....................[COUNTER2]".toList none (storeOf "anna".toList 2))
    (a := "anna....................2".toList) (by decide)
  refine ⟨hname, fun h => ?_⟩
  obtain ⟨store', hformat⟩ := hname
  have hstore : Counters.UpTo 999 (storeOf "anna".toList 2) := by
    intro key k hk
    unfold storeOf at hk
    split at hk
    · cases hk
      decide
    · cases hk
  exact absurd (h _ _ _ hstore hformat) (by decide)

end Example

end Importer

end Kelvin
