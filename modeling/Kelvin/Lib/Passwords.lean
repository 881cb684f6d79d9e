import Mathlib.Data.List.Perm.Basic
import Mathlib.Data.List.Count

/-!
# Generated passwords

`create_passwd` of `utils.py`: a password of random characters, which starts with a letter and has
not too many special characters.

* `RandomSource`: the choices and the shuffle, any that the library can make.
* `createPasswd`: `create_passwd`, with the length of a password policy.
* `fill_specials`: the loop stays within the number of special characters that it is given.
* `GoodPasswd`: the rules.
* `createPasswd_good`: what is generated without a policy obeys them, for all lengths and choices.
-/

namespace Kelvin

namespace Passwd

/-! ## Random choices -/

/-- The outcomes of `choice`, which may depend on the number of choices before, and of `shuffle`. -/
structure RandomSource where
  choice : Nat → List Char → Char
  choice_mem : ∀ k chars, chars ≠ [] → choice k chars ∈ chars
  shuffle : List Char → List Char
  shuffle_perm : ∀ chars, (shuffle chars).Perm chars

/-! ## Character classes -/

/-- The characters without those that are easy to mistake for one another. -/
def without (removed chars : List Char) : List Char := removed.foldl List.erase chars

def lowercase : List Char := without ['i', 'l', 'o'] "abcdefghijklmnopqrstuvwxyz".toList

def uppercase : List Char := without ['I', 'L', 'O'] "ABCDEFGHIJKLMNOPQRSTUVWXYZ".toList

def digits : List Char := without ['0', '1'] "0123456789".toList

/-! ## The length -/

/-- The part of a DN behind its first `ou=`. -/
def behindOu : List Char → Option (List Char)
  | [] => none
  | 'o' :: 'u' :: '=' :: rest => some rest
  | _ :: rest => behindOu rest

/-- The DN of the ou; `find` gives -1 where there is none. -/
def ouOf (dn : List Char) : List Char := "ou=".toList ++ (behindOu dn).getD (dn.drop 2)

/-- `_policy_pw_length`, with the lengths in its cache. -/
def policyPwLength (policy : List Char → Option Nat) (dn : List Char) (length : Nat) : Nat :=
  (policy dn).getD length

/-- The length that the password policies of a DN and its ou ask for. -/
def appliedLength (policy : List Char → Option Nat) (length : Nat) : Option (List Char) → Nat
  | some (c :: dn) =>
    policyPwLength policy (ouOf (c :: dn)) (policyPwLength policy (c :: dn) length)
  | _ => length

/-! ## The password -/

section Create

variable (source : RandomSource) (specials : List Char)

/-- One character of each class, if there is room for three. -/
def classChars (length : Nat) : List Char :=
  if 3 ≤ length then
    [source.choice 0 lowercase, source.choice 1 uppercase, source.choice 2 digits]
  else []

/-- The first special character, after so many choices. -/
def firstSpecial (drawn length : Nat) (specialsAllowed : Int) : List Char :=
  if specials ≠ [] ∧ length ≠ 0 ∧ specialsAllowed ≠ 0 then [source.choice drawn specials] else []

/-- The characters from which the loop chooses. -/
def fillChars (specialsAllowed : Int) : List Char :=
  lowercase ++ uppercase ++ digits ++ (if specialsAllowed ≠ 0 then specials else [])

/-- The loop that fills up the password. -/
def fill : Nat → Nat → Int → List Char
  | 0, _, _ => []
  | length + 1, drawn, specialsAllowed =>
    let char := source.choice drawn (fillChars specials specialsAllowed)
    char :: fill length (drawn + 1)
      (if char ∈ specials then specialsAllowed - 1 else specialsAllowed)

/-- All characters but the first, before they are shuffled. -/
def unshuffled (length : Nat) (specialsAllowed : Int) : List Char :=
  let classes := classChars source length
  let special :=
    firstSpecial source specials classes.length (length - classes.length) specialsAllowed
  classes ++ special ++
    fill source specials (length - classes.length - special.length)
      (classes.length + special.length) (specialsAllowed - special.length)

/-- `create_passwd`. A failed assertion is `none`. -/
def createPasswd (policy : List Char → Option Nat) (length : Nat) (dn : Option (List Char)) :
    Option (List Char) :=
  if length = 0 then none
  else
    let length := appliedLength policy length dn
    let pw := unshuffled source specials (length - 1) (length / 5 : Nat)
    some (source.choice pw.length (lowercase ++ uppercase) :: source.shuffle pw)

end Create

/-! ## What is drawn -/

section Drawn

variable {source : RandomSource} {specials : List Char} {length drawn : Nat}
  {specialsAllowed : Int} {c : Char}

/-- The letters and digits of a password. -/
def plainChars : List Char := lowercase ++ uppercase ++ digits

theorem isAlphanum_of_plain (h : c ∈ plainChars) : c.isAlphanum = true := by
  have hall : ∀ c ∈ plainChars, c.isAlphanum = true :=
    List.forall_iff_forall_mem.mp (by decide)
  exact hall c h

theorem choice_fillChars (source : RandomSource) (specials : List Char) (drawn : Nat)
    (specialsAllowed : Int) : source.choice drawn (fillChars specials specialsAllowed) ∈
    fillChars specials specialsAllowed := by
  apply source.choice_mem
  simp [fillChars, lowercase, without]

theorem length_fill : (fill source specials length drawn specialsAllowed).length = length := by
  induction length generalizing drawn specialsAllowed with
  | zero => rfl
  | succ length ih =>
    rw [fill, List.length_cons, ih]

theorem mem_fill (h : c ∈ fill source specials length drawn specialsAllowed) :
    c ∈ plainChars ∨ c ∈ specials := by
  induction length generalizing drawn specialsAllowed with
  | zero => cases h
  | succ length ih =>
    rcases List.mem_cons.mp h with rfl | h
    · rcases List.mem_append.mp (choice_fillChars source specials drawn specialsAllowed) with
        hplain | hspecial
      · exact .inl hplain
      · split at hspecial
        · exact .inr hspecial
        · cases hspecial
    · exact ih h

/-- **The loop draws at most as many special characters as it may**: none once the number is
used up, as none of them is a letter or a digit. -/
theorem fill_specials (hspecials : ∀ c ∈ specials, c.isAlphanum = false)
    (hallowed : 0 ≤ specialsAllowed) :
    ((fill source specials length drawn specialsAllowed).countP (· ∈ specials) : Int) ≤
      specialsAllowed := by
  induction length generalizing drawn specialsAllowed with
  | zero => exact hallowed
  | succ length ih =>
    have hchoice := choice_fillChars source specials drawn specialsAllowed
    rw [fill]
    generalize source.choice drawn (fillChars specials specialsAllowed) = char at hchoice
    by_cases hchar : char ∈ specials
    · have hpos : 1 ≤ specialsAllowed := by
        by_contra hnot
        have hzero : specialsAllowed = 0 := by omega
        rw [fillChars, hzero, if_neg (by decide), List.append_nil] at hchoice
        have halnum := isAlphanum_of_plain hchoice
        rw [hspecials char hchar] at halnum
        cases halnum
      have hrest := @ih (drawn + 1) (specialsAllowed - 1) (by omega)
      rw [if_pos hchar, List.countP_cons_of_pos (by simpa using hchar)]
      push_cast
      omega
    · rw [if_neg hchar, List.countP_cons_of_neg (by simpa using hchar)]
      exact ih hallowed

theorem length_classChars_le : (classChars source length).length ≤ length := by
  unfold classChars
  split
  · assumption
  · exact Nat.zero_le _

theorem mem_classChars (h : c ∈ classChars source length) : c ∈ plainChars := by
  unfold classChars at h
  have hlower := source.choice_mem 0 lowercase (by decide)
  have hupper := source.choice_mem 1 uppercase (by decide)
  have hdigit := source.choice_mem 2 digits (by decide)
  split at h
  · simp only [List.mem_cons, List.not_mem_nil, or_false] at h
    simp only [plainChars, List.mem_append]
    rcases h with rfl | rfl | rfl
    · exact .inl (.inl hlower)
    · exact .inl (.inr hupper)
    · exact .inr hdigit
  · cases h

theorem mem_firstSpecial (h : c ∈ firstSpecial source specials drawn length specialsAllowed) :
    c ∈ specials := by
  unfold firstSpecial at h
  split at h
  · next hroom =>
    rw [List.mem_singleton.mp h]
    exact source.choice_mem _ _ hroom.1
  · cases h

/-- A special character is drawn first only if there is room for one and one is allowed. -/
theorem length_firstSpecial (hallowed : 0 ≤ specialsAllowed) :
    (firstSpecial source specials drawn length specialsAllowed).length ≤ length ∧
      ((firstSpecial source specials drawn length specialsAllowed).length : Int) ≤
        specialsAllowed := by
  unfold firstSpecial
  split
  · next hroom =>
    simp only [List.length_singleton]
    omega
  · simp only [List.length_nil]
    omega

theorem length_unshuffled (hallowed : 0 ≤ specialsAllowed) :
    (unshuffled source specials length specialsAllowed).length = length := by
  have hclasses : (classChars source length).length ≤ length := length_classChars_le
  have hspecial : (firstSpecial source specials (classChars source length).length
      (length - (classChars source length).length) specialsAllowed).length ≤
      length - (classChars source length).length := (length_firstSpecial hallowed).1
  unfold unshuffled
  simp only [List.length_append, length_fill]
  omega

theorem mem_unshuffled (h : c ∈ unshuffled source specials length specialsAllowed) :
    c ∈ plainChars ∨ c ∈ specials := by
  rcases List.mem_append.mp h with h | hfill
  · rcases List.mem_append.mp h with hclass | hspecial
    · exact .inl (mem_classChars hclass)
    · exact .inr (mem_firstSpecial hspecial)
  · exact mem_fill hfill

theorem countP_classChars (hspecials : ∀ c ∈ specials, c.isAlphanum = false) :
    (classChars source length).countP (· ∈ specials) = 0 := by
  rw [List.countP_eq_zero]
  intro c hc hspecial
  have halnum := isAlphanum_of_plain (mem_classChars hc)
  rw [hspecials c (of_decide_eq_true hspecial)] at halnum
  cases halnum

theorem countP_unshuffled (hspecials : ∀ c ∈ specials, c.isAlphanum = false)
    (hallowed : 0 ≤ specialsAllowed) :
    ((unshuffled source specials length specialsAllowed).countP (· ∈ specials) : Int) ≤
      specialsAllowed := by
  unfold unshuffled
  dsimp only
  generalize hdrawn : (classChars source length).length = drawn
  have hfirst : ((firstSpecial source specials drawn (length - drawn) specialsAllowed).length : Int) ≤
      specialsAllowed := (length_firstSpecial hallowed).2
  generalize hspecial : firstSpecial source specials drawn (length - drawn) specialsAllowed = special
    at hfirst
  have hcount : special.countP (· ∈ specials) ≤ special.length := List.countP_le_length
  have hfill : ((fill source specials (length - drawn - special.length) (drawn + special.length)
      (specialsAllowed - special.length)).countP (· ∈ specials) : Int) ≤
      specialsAllowed - special.length := fill_specials hspecials (by omega)
  rw [List.countP_append, List.countP_append, countP_classChars hspecials]
  push_cast
  omega

end Drawn

/-! ## The rules -/

/-- The characters that are easy to mistake for one another. -/
def lookAlikes : List Char := ['i', 'l', 'o', 'I', 'L', 'O', '0', '1']

structure GoodPasswd (n : Nat) (specials pw : List Char) : Prop where
  length_eq : pw.length = n
  letter : ∃ c rest, pw = c :: rest ∧ c.isAlpha = true
  specials_le : pw.countP (· ∈ specials) ≤ n / 5
  clear : ∀ c ∈ pw, c ∉ lookAlikes
  classes : 4 ≤ n → (∃ c ∈ pw, c.isLower = true) ∧ (∃ c ∈ pw, c.isUpper = true) ∧
    ∃ c ∈ pw, c.isDigit = true

section Rules

variable {source : RandomSource} {specials : List Char} {n : Nat}

theorem isLower_of_mem {c : Char} (h : c ∈ lowercase) : c.isLower = true := by
  have hall : ∀ c ∈ lowercase, c.isLower = true :=
    List.forall_iff_forall_mem.mp (by decide)
  exact hall c h

theorem isUpper_of_mem {c : Char} (h : c ∈ uppercase) : c.isUpper = true := by
  have hall : ∀ c ∈ uppercase, c.isUpper = true :=
    List.forall_iff_forall_mem.mp (by decide)
  exact hall c h

theorem isDigit_of_mem {c : Char} (h : c ∈ digits) : c.isDigit = true := by
  have hall : ∀ c ∈ digits, c.isDigit = true :=
    List.forall_iff_forall_mem.mp (by decide)
  exact hall c h

theorem isAlpha_of_letter {c : Char} (h : c ∈ lowercase ++ uppercase) : c.isAlpha = true := by
  show (c.isUpper || c.isLower) = true
  rw [Bool.or_eq_true]
  rcases List.mem_append.mp h with hlower | hupper
  · exact .inr (isLower_of_mem hlower)
  · exact .inl (isUpper_of_mem hupper)

/-- Neither a plain nor a special character is one of the excluded ones. -/
theorem not_lookAlike (hspecials : ∀ c ∈ specials, c.isAlphanum = false) {c : Char}
    (h : c ∈ plainChars ∨ c ∈ specials) : c ∉ lookAlikes := by
  have hplain : ∀ c ∈ plainChars, c ∉ lookAlikes :=
    List.forall_iff_forall_mem.mp (by decide)
  have halnum : ∀ c ∈ lookAlikes, c.isAlphanum = true :=
    List.forall_iff_forall_mem.mp (by decide)
  rcases h with h | h
  · exact hplain c h
  · intro hlook
    have hc := halnum c hlook
    rw [hspecials c h] at hc
    cases hc

/-- **Generated passwords are good**, for every length, all choices and every shuffle. -/
theorem createPasswd_good (source : RandomSource) (policy : List Char → Option Nat)
    (specials : List Char) (hspecials : ∀ c ∈ specials, c.isAlphanum = false) (hn : 1 ≤ n) :
    ∃ pw, createPasswd source specials policy n none = some pw ∧ GoodPasswd n specials pw := by
  have hne : ¬n = 0 := by omega
  have hallowed : (0 : Int) ≤ (n / 5 : Nat) := Int.natCast_nonneg _
  refine ⟨_, if_neg hne, ?_⟩
  dsimp only [appliedLength]
  generalize hpw : unshuffled source specials (n - 1) (n / 5 : Nat) = pw
  have hlength : pw.length = n - 1 := by
    rw [← hpw]
    exact length_unshuffled hallowed
  have hcount : (pw.countP (· ∈ specials) : Int) ≤ (n / 5 : Nat) := by
    rw [← hpw]
    exact countP_unshuffled hspecials hallowed
  have hmem : ∀ c ∈ pw, c ∈ plainChars ∨ c ∈ specials := by
    intro c hc
    rw [← hpw] at hc
    exact mem_unshuffled hc
  have hperm := source.shuffle_perm pw
  have hletter := source.choice_mem pw.length (lowercase ++ uppercase) (by decide)
  generalize source.choice pw.length (lowercase ++ uppercase) = letter at hletter
  have hplain : letter ∈ plainChars := List.mem_append_left _ hletter
  constructor
  · rw [List.length_cons, hperm.length_eq, hlength]
    omega
  · exact ⟨letter, _, rfl, isAlpha_of_letter hletter⟩
  · have hnot : ¬letter ∈ specials := by
      intro hspecial
      have halnum := isAlphanum_of_plain hplain
      rw [hspecials letter hspecial] at halnum
      cases halnum
    rw [List.countP_cons_of_neg (by simpa using hnot), hperm.countP_eq]
    exact_mod_cast hcount
  · intro c hc
    rcases List.mem_cons.mp hc with rfl | hc
    · exact not_lookAlike hspecials (.inl hplain)
    · exact not_lookAlike hspecials (hmem c (hperm.mem_iff.mp hc))
  · intro hfour
    have hclasses : classChars source (n - 1) =
        [source.choice 0 lowercase, source.choice 1 uppercase, source.choice 2 digits] :=
      if_pos (by omega)
    have hin : ∀ c ∈ classChars source (n - 1), c ∈ letter :: source.shuffle pw := by
      intro c hc
      rw [← hpw]
      refine List.mem_cons_of_mem _ ((source.shuffle_perm _).mem_iff.mpr ?_)
      exact List.mem_append_left _ (List.mem_append_left _ hc)
    rw [hclasses] at hin
    refine ⟨⟨_, hin _ (by simp), isLower_of_mem (source.choice_mem 0 lowercase (by decide))⟩,
      ⟨_, hin _ (by simp), isUpper_of_mem (source.choice_mem 1 uppercase (by decide))⟩,
      ⟨_, hin _ (by simp), isDigit_of_mem (source.choice_mem 2 digits (by decide))⟩⟩

end Rules

theorem headD_mem {chars : List Char} (h : chars ≠ []) : chars.headD 'a' ∈ chars := by
  cases chars with
  | nil => exact absurd rfl h
  | cons c chars => exact List.mem_cons_self

/-- The first character of each choice, and a reversed order. -/
def firstChoices : RandomSource where
  choice _ chars := chars.headD 'a'
  choice_mem _ _ := headD_mem
  shuffle := List.reverse
  shuffle_perm := List.reverse_perm

theorem createPasswd_eight :
    ∃ pw, createPasswd firstChoices "$%&*-+=:.?".toList (fun _ => none) 8 none = some pw ∧
      GoodPasswd 8 "$%&*-+=:.?".toList pw :=
  createPasswd_good firstChoices (fun _ => none) "$%&*-+=:.?".toList
    (List.forall_iff_forall_mem.mp (by decide)) (by decide)

end Passwd

end Kelvin
