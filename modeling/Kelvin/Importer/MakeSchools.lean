import Kelvin.Importer.Schemes
import Kelvin.Search.Statements

/-!
# The schools of an imported user

`make_school` and `make_schools` of `import_user.py` fill in the fields `school` and `schools` and
call each other while one of them is missing.

* `SchoolSettings.makeSchool`, `SchoolSettings.makeSchools`: the two methods, with a bound on the
  depth of their calls.
* `makeSchool_eq`, `makeSchools_eq`: the calls are at most three deep.
* `Settled`: what holds of the fields after `make_schools`.
* `Chosen`: what holds of them after `make_school`.
* `schools_made`: both methods end, in such fields or with an exception.
-/

namespace Kelvin

namespace Importer

open Search (SetOrder sortedOrder)

/-! ## The two methods -/

/-- The value of `schools`. Empty values of all types are the empty text. -/
inductive SchoolsValue where
  | text (value : List Char)
  | names (schools : List String)
  | other (value : String)
deriving DecidableEq

/-- The two fields. A school that is `None` is the empty text. -/
structure SchoolFields where
  school : String
  schools : SchoolsValue
deriving DecidableEq

inductive SchoolExc where
  | missingSchoolName (message : String)
  | runtimeError (message : String)
deriving DecidableEq

structure SchoolSettings where
  /-- `config["school"]`. -/
  configured : String
  normalize : String → String
  /-- `str.strip`. -/
  strip : List Char → List Char

/-- How a call ends, if the bound of its depth is not reached. -/
abbrev Made := Option (Except SchoolExc SchoolFields)

def Made.andThen (made : Made) (f : SchoolFields → Made) : Made :=
  match made with
  | some (.ok u) => f u
  | some (.error e) => some (.error e)
  | none => none

def done (u : SchoolFields) : Made := some (.ok u)

def SchoolsValue.list : SchoolsValue → List String
  | .names schools => schools
  | _ => []

section Methods

variable [SetOrder] (settings : SchoolSettings)

/-- The schools of a text, sorted. -/
def SchoolSettings.splitSchools (text : List Char) : List String :=
  sortedTexts (((Text.strip ',' text).splitOn ',').map
    (fun part => settings.normalize (String.ofList (settings.strip part)))).dedup

def missingSchool : SchoolExc :=
  .missingSchoolName ("Primary school name (ou) was not set on the cmdline or in the " ++
    "configuration file and was not found in the input data.")

def makeSchoolWith (makeSchools : SchoolFields → Made) (u : SchoolFields) : Made :=
  if u.school ≠ "" then done { u with school := settings.normalize u.school }
  else if settings.configured ≠ "" then done { u with school := settings.configured }
  else
    match u.schools with
    | .names (s :: rest) => done { u with school := settings.normalize (firstSchool (s :: rest)) }
    | .text (_ :: _) => makeSchools u
    | _ => some (.error missingSchool)

def schoolIfEmpty (makeSchool : SchoolFields → Made) (u : SchoolFields) : Made :=
  if u.school = "" then makeSchool u else done u

/-- The first part of `make_schools`: the field becomes a list. -/
def listSchools (makeSchool : SchoolFields → Made) (u : SchoolFields) : Made :=
  match u.schools with
  | .names (s :: rest) =>
    done { u with schools := .names (SetOrder.toList (s :: rest).toFinset) }
  | .text (c :: cs) => done { u with schools := .names (settings.splitSchools (c :: cs)) }
  | .other value =>
    some (.error (.runtimeError ("Unknown data in attribute 'schools': '" ++ value ++ "'")))
  | _ => (schoolIfEmpty makeSchool u).andThen (fun u => done { u with schools := .names [u.school] })

/-- The last part of `make_schools`: the school becomes one of the list. -/
def chooseSchool (u : SchoolFields) : SchoolFields :=
  if u.school ∈ u.schools.list then u
  else if u.schools.list = [] then { u with schools := .names [u.school] }
  else { u with school := firstSchool u.schools.list }

def makeSchoolsWith (makeSchool : SchoolFields → Made) (u : SchoolFields) : Made :=
  (listSchools settings makeSchool u).andThen (fun u =>
    (schoolIfEmpty makeSchool u).andThen (fun u => done (chooseSchool u)))

end Methods

mutual

/-- `make_school`. -/
def SchoolSettings.makeSchool [SetOrder] (settings : SchoolSettings) : Nat → SchoolFields → Made
  | 0, _ => none
  | depth + 1, u => makeSchoolWith settings (settings.makeSchools depth) u

/-- `make_schools`. -/
def SchoolSettings.makeSchools [SetOrder] (settings : SchoolSettings) : Nat → SchoolFields → Made
  | 0, _ => none
  | depth + 1, u => makeSchoolsWith settings (settings.makeSchool depth) u

end

/-! ## Depth of the calls -/

section Depth

variable {settings : SchoolSettings} {u u' : SchoolFields} {made : Made}
  {f : SchoolFields → Made}

theorem andThen_eq_ok : made.andThen f = some (.ok u') ↔
    ∃ u, made = some (.ok u) ∧ f u = some (.ok u') := by
  cases made with
  | none => simp [Made.andThen]
  | some r => cases r <;> simp [Made.andThen]

theorem andThen_congr {f g : SchoolFields → Made} (h : ∀ u, made = some (.ok u) → f u = g u) :
    made.andThen f = made.andThen g := by
  cases made with
  | none => rfl
  | some r =>
    cases r with
    | error e => rfl
    | ok u => exact h u rfl

theorem andThen_ne_none (hmade : made ≠ none) (hf : ∀ u, made = some (.ok u) → f u ≠ none) :
    made.andThen f ≠ none := by
  cases made with
  | none => exact absurd rfl hmade
  | some r =>
    cases r with
    | error e => exact Option.some_ne_none _
    | ok u => exact hf u rfl

/-- The field `schools` is a text that is not empty: only then does `make_school` call
`make_schools`. -/
def IsText (u : SchoolFields) : Prop := ∃ c cs, u.schools = .text (c :: cs)

theorem makeSchoolWith_congr {f g : SchoolFields → Made} (h : ¬IsText u) :
    makeSchoolWith settings f u = makeSchoolWith settings g u := by
  unfold makeSchoolWith
  cases hschools : u.schools with
  | text value =>
    cases value with
    | nil => rfl
    | cons c cs => exact absurd ⟨c, cs, hschools⟩ h
  | names schools => cases schools <;> rfl
  | other value => rfl

theorem makeSchoolWith_ne_none (h : ¬IsText u) : makeSchoolWith settings f u ≠ none := by
  unfold makeSchoolWith
  split
  · exact Option.some_ne_none _
  · split
    · exact Option.some_ne_none _
    · split
      · exact Option.some_ne_none _
      · next c cs hschools => exact absurd ⟨c, cs, hschools⟩ h
      · exact Option.some_ne_none _

/-- `make_school` where it does not need `make_schools`. -/
def chooseFirst (settings : SchoolSettings) (u : SchoolFields) : Made :=
  makeSchoolWith settings (fun _ => none) u

variable [SetOrder] {f g : SchoolFields → Made}

theorem makeSchool_of_not_text (depth : Nat) (h : ¬IsText u) :
    settings.makeSchool (depth + 1) u = chooseFirst settings u := by
  rw [SchoolSettings.makeSchool]
  exact makeSchoolWith_congr h

/-- The schools that are given, without the primary one. -/
def SchoolSettings.given (settings : SchoolSettings) (u : SchoolFields) : List String :=
  match u.schools with
  | .names schools => schools
  | .text (c :: cs) => settings.splitSchools (c :: cs)
  | _ => []

omit [SetOrder] in
theorem SchoolSettings.splitSchools_ne_nil (text : List Char) : settings.splitSchools text ≠ [] := by
  intro h
  have hlength := congrArg List.length h
  unfold SchoolSettings.splitSchools at hlength
  rw [sortedTexts, List.length_insertionSort, List.length_nil, List.length_eq_zero_iff,
    List.dedup_eq_nil, List.map_eq_nil_iff] at hlength
  exact List.splitOn_ne_nil _ _ hlength

/-- The field becomes the given schools, or the primary one if there are none. -/
theorem listSchools_cases (h : listSchools settings f u = some (.ok u')) :
    (settings.given u ≠ [] ∧ ∃ l, u' = { u with schools := .names l } ∧
      ∀ s, s ∈ l ↔ s ∈ settings.given u) ∨
    (settings.given u = [] ∧ ¬IsText u ∧
      ∃ v, schoolIfEmpty f u = some (.ok v) ∧ u' = { v with schools := .names [v.school] }) := by
  unfold listSchools at h
  unfold SchoolSettings.given IsText
  cases hschools : u.schools with
  | text value =>
    rw [hschools] at h
    cases value with
    | nil =>
      obtain ⟨v, hv, hdone⟩ := andThen_eq_ok.mp h
      cases hdone
      exact .inr ⟨rfl, by simp, v, hv, rfl⟩
    | cons c cs =>
      cases h
      exact .inl ⟨settings.splitSchools_ne_nil _, _, rfl, fun _ => Iff.rfl⟩
  | names schools =>
    rw [hschools] at h
    cases schools with
    | nil =>
      obtain ⟨v, hv, hdone⟩ := andThen_eq_ok.mp h
      cases hdone
      exact .inr ⟨rfl, by simp, v, hv, rfl⟩
    | cons s rest =>
      cases h
      exact .inl ⟨List.cons_ne_nil _ _, _, rfl, fun x => by rw [SetOrder.mem, List.mem_toFinset]⟩
  | other value =>
    rw [hschools] at h
    cases h

theorem not_isText_of_listSchools (h : listSchools settings f u = some (.ok u')) : ¬IsText u' := by
  rintro ⟨c, cs, htext⟩
  rcases listSchools_cases h with ⟨-, l, rfl, -⟩ | ⟨-, -, v, -, rfl⟩
  · cases htext
  · cases htext

omit [SetOrder] in
theorem schoolIfEmpty_congr (h : f u = g u) : schoolIfEmpty f u = schoolIfEmpty g u := by
  rw [schoolIfEmpty, h]
  rfl

theorem listSchools_congr (h : ¬IsText u → f u = g u) :
    listSchools settings f u = listSchools settings g u := by
  unfold listSchools
  cases hschools : u.schools with
  | text value =>
    cases value with
    | nil =>
      dsimp only
      rw [schoolIfEmpty_congr (h (by simp [IsText, hschools]))]
    | cons c cs => rfl
  | names schools =>
    cases schools with
    | nil =>
      dsimp only
      rw [schoolIfEmpty_congr (h (by simp [IsText, hschools]))]
    | cons s rest => rfl
  | other value => rfl

/-- `make_schools` calls `make_school` only for fields for which this calls nothing. -/
theorem makeSchools_eq (depth : Nat) (u : SchoolFields) :
    settings.makeSchools (depth + 2) u = makeSchoolsWith settings (chooseFirst settings) u := by
  rw [SchoolSettings.makeSchools]
  unfold makeSchoolsWith
  rw [listSchools_congr (fun h => makeSchool_of_not_text depth h)]
  apply andThen_congr
  intro v hv
  rw [schoolIfEmpty_congr (makeSchool_of_not_text depth (not_isText_of_listSchools hv))]

theorem makeSchool_eq (depth : Nat) (u : SchoolFields) :
    settings.makeSchool (depth + 3) u =
      makeSchoolWith settings (makeSchoolsWith settings (chooseFirst settings)) u := by
  rw [SchoolSettings.makeSchool]
  congr 1
  funext v
  exact makeSchools_eq depth v

omit [SetOrder] in
theorem schoolIfEmpty_ne_none (h : f u ≠ none) : schoolIfEmpty f u ≠ none := by
  unfold schoolIfEmpty
  split
  · exact h
  · exact Option.some_ne_none _

omit [SetOrder] in
theorem chooseFirst_ne_none (h : ¬IsText u) : chooseFirst settings u ≠ none :=
  makeSchoolWith_ne_none h

theorem listSchools_ne_none : listSchools settings (chooseFirst settings) u ≠ none := by
  unfold listSchools
  cases hschools : u.schools with
  | text value =>
    cases value with
    | nil =>
      exact andThen_ne_none (schoolIfEmpty_ne_none (chooseFirst_ne_none (by simp [IsText, hschools])))
        (fun _ _ => Option.some_ne_none _)
    | cons c cs => exact Option.some_ne_none _
  | names schools =>
    cases schools with
    | nil =>
      exact andThen_ne_none (schoolIfEmpty_ne_none (chooseFirst_ne_none (by simp [IsText, hschools])))
        (fun _ _ => Option.some_ne_none _)
    | cons s rest => exact Option.some_ne_none _
  | other value => exact Option.some_ne_none _

theorem makeSchoolsWith_ne_none (settings : SchoolSettings) (u : SchoolFields) :
    makeSchoolsWith settings (chooseFirst settings) u ≠ none := by
  apply andThen_ne_none listSchools_ne_none
  intro v hv
  apply andThen_ne_none
  · exact schoolIfEmpty_ne_none (chooseFirst_ne_none (not_isText_of_listSchools hv))
  · intro w _
    exact Option.some_ne_none _

theorem makeSchoolWith_total (settings : SchoolSettings) (u : SchoolFields) :
    makeSchoolWith settings (makeSchoolsWith settings (chooseFirst settings)) u ≠ none := by
  by_cases h : IsText u
  · obtain ⟨c, cs, hschools⟩ := h
    unfold makeSchoolWith
    rw [hschools]
    split
    · exact Option.some_ne_none _
    · split
      · exact Option.some_ne_none _
      · exact makeSchoolsWith_ne_none settings _
  · exact makeSchoolWith_ne_none h

end Depth

/-! ## The first of the schools -/

section First

variable {schools schools' : List String}

theorem least_firstSchool (h : schools ≠ []) :
    firstSchool schools ∈ schools ∧ ∀ s ∈ schools, firstSchool schools ≤ s := by
  have hsorted := List.pairwise_insertionSort (· ≤ ·) schools
  have hmem : ∀ s, s ∈ sortedTexts schools ↔ s ∈ schools := fun s => List.mem_insertionSort _
  have hsort : sortedTexts schools = schools.insertionSort (· ≤ ·) := rfl
  rw [← hsort] at hsorted
  unfold firstSchool
  cases hcons : sortedTexts schools with
  | nil =>
    obtain ⟨s, hs⟩ := List.exists_mem_of_ne_nil _ h
    rw [← hmem, hcons] at hs
    cases hs
  | cons first rest =>
    rw [hcons] at hsorted hmem
    refine ⟨(hmem first).mp List.mem_cons_self, fun s hs => ?_⟩
    rcases List.mem_cons.mp ((hmem s).mpr hs) with rfl | hs
    · exact le_refl _
    · exact (List.pairwise_cons.mp hsorted).1 s hs

theorem firstSchool_congr (h : schools ≠ []) (hmem : ∀ s, s ∈ schools' ↔ s ∈ schools) :
    firstSchool schools' = firstSchool schools := by
  have hne : schools' ≠ [] := by
    rintro rfl
    obtain ⟨s, hs⟩ := List.exists_mem_of_ne_nil _ h
    cases (hmem s).mpr hs
  obtain ⟨hfirst, hleast⟩ := least_firstSchool h
  obtain ⟨hfirst', hleast'⟩ := least_firstSchool hne
  exact le_antisymm (hleast' _ ((hmem _).mpr hfirst)) (hleast _ ((hmem _).mp hfirst'))

end First

/-! ## The fields in the end -/

section Fields

variable [SetOrder] {settings : SchoolSettings} {u u' v : SchoolFields}

/-- After `make_schools` the school is one of the schools, among which are all that are given. A
primary school that is given is left if it can be, or else gives way to the first of the others. -/
structure Settled (settings : SchoolSettings) (u u' : SchoolFields) : Prop where
  member : ∃ l, u'.schools = .names l ∧ u'.school ∈ l ∧ ∀ s ∈ settings.given u, s ∈ l
  only : settings.given u ≠ [] → ∀ s ∈ u'.schools.list, s ∈ settings.given u
  kept : u.school ≠ "" → settings.given u = [] ∨ u.school ∈ settings.given u →
    u'.school = u.school
  replaced : u.school ≠ "" → settings.given u ≠ [] → u.school ∉ settings.given u →
    u'.school = firstSchool (settings.given u)
  nonempty : "" ∉ settings.given u → u'.school ≠ ""

/-- After `make_school` the school is the normalized given one, the configured one or the first of
the given schools, in this order. -/
structure Chosen (settings : SchoolSettings) (u u' : SchoolFields) : Prop where
  given : u.school ≠ "" → u' = { u with school := settings.normalize u.school }
  configured : u.school = "" → settings.configured ≠ "" →
    u' = { u with school := settings.configured }
  first : u.school = "" → settings.configured = "" → ¬IsText u →
    settings.given u ≠ [] ∧ u' = { u with school := settings.normalize (firstSchool (settings.given u)) }
  text : u.school = "" → settings.configured = "" → IsText u → Settled settings u u'
  nonempty : (∀ s, s ≠ "" → settings.normalize s ≠ "") → "" ∉ settings.given u → u'.school ≠ ""

omit [SetOrder] in
theorem schoolIfEmpty_eq_ok {f : SchoolFields → Made} (h : schoolIfEmpty f u = some (.ok v)) :
    (u.school ≠ "" ∧ v = u) ∨ (u.school = "" ∧ f u = some (.ok v)) := by
  unfold schoolIfEmpty at h
  by_cases hschool : u.school = ""
  · rw [if_pos hschool] at h
    exact .inr ⟨hschool, h⟩
  · rw [if_neg hschool] at h
    cases h
    exact .inl ⟨hschool, rfl⟩

omit [SetOrder] in
/-- `make_school` changes the other field only through `make_schools`. -/
theorem chooseFirst_eq_ok (hschool : u.school = "") (h : chooseFirst settings u = some (.ok v)) :
    ∃ s, v = { u with school := s } ∧ (settings.given u = [] → s ≠ "") := by
  unfold chooseFirst makeSchoolWith at h
  rw [if_neg (not_not.mpr hschool)] at h
  by_cases hconfigured : settings.configured ≠ ""
  · rw [if_pos hconfigured] at h
    cases h
    exact ⟨_, rfl, fun _ => hconfigured⟩
  · rw [if_neg hconfigured] at h
    unfold SchoolSettings.given
    split at h
    · next s rest hschools =>
      cases h
      refine ⟨_, rfl, fun hnil => ?_⟩
      rw [hschools] at hnil
      cases hnil
    · cases h
    · cases h

omit [SetOrder] in
theorem chooseSchool_list {l : List String} (hschools : u.schools = .names l) (hne : l ≠ []) :
    (u.school ∈ l ∧ chooseSchool u = u) ∨
      (u.school ∉ l ∧ chooseSchool u = { u with school := firstSchool l }) := by
  have hlist : u.schools.list = l := by
    rw [hschools]
    rfl
  unfold chooseSchool
  rw [hlist]
  by_cases hmem : u.school ∈ l
  · exact .inl ⟨hmem, if_pos hmem⟩
  · rw [if_neg hmem, if_neg hne]
    exact .inr ⟨hmem, rfl⟩

theorem settled_makeSchools
    (h : makeSchoolsWith settings (chooseFirst settings) u = some (.ok u')) :
    Settled settings u u' := by
  obtain ⟨v, hlist, hrest⟩ := andThen_eq_ok.mp h
  obtain ⟨w, hschool, hdone⟩ := andThen_eq_ok.mp hrest
  obtain rfl : chooseSchool w = u' := Except.ok.inj (Option.some.inj hdone)
  rcases listSchools_cases hlist with ⟨hgiven, l, rfl, hmem⟩ | ⟨hgiven, -, x, hx, rfl⟩
  · -- the field was given: the primary school is looked for in it
    have hne : l ≠ [] := by
      rintro rfl
      obtain ⟨s, hs⟩ := List.exists_mem_of_ne_nil _ hgiven
      cases (hmem s).mpr hs
    have hfirst : firstSchool l = firstSchool (settings.given u) := firstSchool_congr hgiven hmem
    obtain ⟨s, hw, hkept⟩ : ∃ s, w = ⟨s, .names l⟩ ∧ (u.school ≠ "" → s = u.school) := by
      rcases schoolIfEmpty_eq_ok hschool with ⟨-, rfl⟩ | ⟨hempty, hchosen⟩
      · exact ⟨u.school, rfl, fun _ => rfl⟩
      · obtain ⟨s, rfl, -⟩ := chooseFirst_eq_ok hempty hchosen
        exact ⟨s, rfl, fun hnot => absurd hempty hnot⟩
    have hfirstMem : firstSchool l ∈ l := (least_firstSchool hne).1
    subst hw
    rcases chooseSchool_list (u := ⟨s, .names l⟩) rfl hne with ⟨hs, heq⟩ | ⟨hs, heq⟩
    · rw [heq]
      refine ⟨⟨l, rfl, hs, fun t ht => (hmem t).mpr ht⟩, fun _ t ht => (hmem t).mp ht, ?_, ?_, ?_⟩
      · intro hnot _
        exact hkept hnot
      · intro hnot _ habsent
        rw [← hkept hnot, ← hmem] at habsent
        exact absurd hs habsent
      · intro hempty hs'
        apply hempty
        rw [← hmem, ← hs']
        exact hs
    · rw [heq]
      refine ⟨⟨l, rfl, hfirstMem, fun t ht => (hmem t).mpr ht⟩, fun _ t ht => (hmem t).mp ht,
        ?_, ?_, ?_⟩
      · intro hnot hgivenOr
        have hin := hgivenOr.resolve_left hgiven
        rw [← hkept hnot, ← hmem] at hin
        exact absurd hin hs
      · intro _ _ _
        exact hfirst
      · intro hempty hs'
        apply hempty
        rw [← hmem, ← hs']
        exact hfirstMem
  · -- no schools were given: the field holds the primary school
    have hx' : x.school ≠ "" ∧ (u.school ≠ "" → x.school = u.school) := by
      rcases schoolIfEmpty_eq_ok hx with ⟨hnot, rfl⟩ | ⟨hempty, hchosen⟩
      · exact ⟨hnot, fun _ => rfl⟩
      · obtain ⟨s, rfl, hs⟩ := chooseFirst_eq_ok hempty hchosen
        exact ⟨hs hgiven, fun hnot => absurd hempty hnot⟩
    have hw : w = { x with schools := .names [x.school] } := by
      rcases schoolIfEmpty_eq_ok hschool with ⟨-, rfl⟩ | ⟨hempty, -⟩
      · rfl
      · exact absurd hempty hx'.1
    have hchoose : chooseSchool w = { x with schools := .names [x.school] } := by
      rw [hw]
      exact if_pos List.mem_cons_self
    rw [hchoose]
    refine ⟨⟨[x.school], rfl, List.mem_cons_self, ?_⟩, fun hne => absurd hgiven hne, ?_, ?_, ?_⟩
    · rw [hgiven]
      intro s hs
      cases hs
    · intro hnot _
      exact hx'.2 hnot
    · intro _ hne
      exact absurd hgiven hne
    · intro _
      exact hx'.1

theorem chosen_makeSchool
    (h : makeSchoolWith settings (makeSchoolsWith settings (chooseFirst settings)) u =
      some (.ok u')) : Chosen settings u u' := by
  unfold makeSchoolWith at h
  by_cases hschool : u.school ≠ ""
  · rw [if_pos hschool] at h
    cases h
    exact ⟨fun _ => rfl, fun he => absurd he hschool, fun he => absurd he hschool,
      fun he => absurd he hschool, fun hnormalize _ => hnormalize _ hschool⟩
  · rw [if_neg hschool] at h
    by_cases hconfigured : settings.configured ≠ ""
    · rw [if_pos hconfigured] at h
      cases h
      exact ⟨fun hn => absurd hn hschool, fun _ _ => rfl, fun _ he => absurd he hconfigured,
        fun _ he => absurd he hconfigured, fun _ _ => hconfigured⟩
    · rw [if_neg hconfigured] at h
      split at h
      · next s rest hschools =>
        cases h
        have hgiven : settings.given u = s :: rest := by
          rw [SchoolSettings.given, hschools]
        have hnotText : ¬IsText u := by
          rintro ⟨c, cs, htext⟩
          rw [hschools] at htext
          cases htext
        refine ⟨fun hn => absurd hn hschool, fun _ hn => absurd hn hconfigured, fun _ _ _ => ?_,
          fun _ _ ht => absurd ht hnotText, fun hnormalize hempty => ?_⟩
        · rw [hgiven]
          exact ⟨List.cons_ne_nil _ _, rfl⟩
        · rw [hgiven] at hempty
          apply hnormalize
          intro hfirst
          apply hempty
          rw [← hfirst]
          exact (least_firstSchool (List.cons_ne_nil _ _)).1
      · next c cs hschools =>
        have hsettled := settled_makeSchools h
        exact ⟨fun hn => absurd hn hschool, fun _ hn => absurd hn hconfigured,
          fun _ _ ht => absurd ⟨c, cs, hschools⟩ ht, fun _ _ _ => hsettled,
          fun _ hempty => hsettled.nonempty hempty⟩
      · cases h

omit [SetOrder] in
/-- What is given before `make_school` is given behind it. -/
theorem Chosen.mem_given (h : Chosen settings u u') :
    (∀ s ∈ settings.given u, s ∈ settings.given u') ∧
      (∀ s ∈ settings.given u', s ∈ settings.given u) := by
  have hsame : ∀ s, settings.given { u with school := s } = settings.given u := fun _ => rfl
  by_cases hschool : u.school ≠ ""
  · rw [h.given hschool, hsame]
    exact ⟨fun _ hs => hs, fun _ hs => hs⟩
  · have hempty : u.school = "" := not_not.mp hschool
    by_cases hconfigured : settings.configured ≠ ""
    · rw [h.configured hempty hconfigured, hsame]
      exact ⟨fun _ hs => hs, fun _ hs => hs⟩
    · have hnone : settings.configured = "" := not_not.mp hconfigured
      by_cases htext : IsText u
      · have hsettled := h.text hempty hnone htext
        obtain ⟨l, hschools, -, hmem⟩ := hsettled.member
        have hlist : settings.given u' = u'.schools.list := by
          rw [SchoolSettings.given, hschools]
          rfl
        have hne : settings.given u ≠ [] := by
          obtain ⟨c, cs, hvalue⟩ := htext
          rw [SchoolSettings.given, hvalue]
          exact settings.splitSchools_ne_nil _
        rw [hlist]
        refine ⟨fun s hs => ?_, hsettled.only hne⟩
        rw [hschools]
        exact hmem s hs
      · rw [(h.first hempty hnone htext).2, hsame]
        exact ⟨fun _ hs => hs, fun _ hs => hs⟩

/-- **The schools are made**: both methods end for all fields, what they return without an exception
is chosen or settled, and after the one and the other the school is among the schools, with all that
are given, and empty only if one of these is. -/
theorem schools_made (settings : SchoolSettings) (u : SchoolFields) :
    (∃ r, (∀ depth, 3 ≤ depth → settings.makeSchool depth u = some r) ∧
      ∀ u', r = .ok u' → Chosen settings u u') ∧
    (∃ r, (∀ depth, 3 ≤ depth → settings.makeSchools depth u = some r) ∧
      ∀ u', r = .ok u' → Settled settings u u') ∧
    ∀ u' u'', settings.makeSchool 3 u = some (.ok u') → settings.makeSchools 3 u' = some (.ok u'') →
      (∃ l, u''.schools = .names l ∧ u''.school ∈ l ∧ ∀ s ∈ settings.given u, s ∈ l) ∧
      ("" ∉ settings.given u → u''.school ≠ "") := by
  refine ⟨?_, ?_, ?_⟩
  · obtain ⟨r, hr⟩ := Option.ne_none_iff_exists'.mp (makeSchoolWith_total settings u)
    refine ⟨r, fun depth hdepth => ?_, fun u' hu' => ?_⟩
    · obtain ⟨d, rfl⟩ := Nat.exists_eq_add_of_le' hdepth
      rw [makeSchool_eq, hr]
    · rw [hu'] at hr
      exact chosen_makeSchool hr
  · obtain ⟨r, hr⟩ :=
      Option.ne_none_iff_exists'.mp (makeSchoolsWith_ne_none settings u)
    refine ⟨r, fun depth hdepth => ?_, fun u' hu' => ?_⟩
    · obtain ⟨d, rfl⟩ := Nat.exists_eq_add_of_le' hdepth
      rw [makeSchools_eq, hr]
    · rw [hu'] at hr
      exact settled_makeSchools hr
  · intro u' u'' hu' hu''
    rw [makeSchool_eq] at hu'
    rw [makeSchools_eq] at hu''
    have hchosen := chosen_makeSchool hu'
    have hsettled := settled_makeSchools hu''
    obtain ⟨hgiven, hback⟩ := hchosen.mem_given
    obtain ⟨l, hschools, hschool, hmem⟩ := hsettled.member
    refine ⟨⟨l, hschools, hschool, fun s hs => hmem s (hgiven s hs)⟩, fun hempty => ?_⟩
    exact hsettled.nonempty (fun hs => hempty (hback _ hs))

end Fields

/-! ## The school of a scheme -/

section Schemes

variable [SetOrder] {env : Environment} {u u' : ImportUser}

def Environment.schoolSettings (env : Environment) : SchoolSettings where
  configured := env.configSchool
  normalize := env.normalize
  strip part := (env.strip (String.ofList part)).toList

def schoolValue : Json → String
  | .str s => s
  | _ => ""

def schoolsValue : Json → SchoolsValue
  | .arr items => .names (textItems (.arr items))
  | .str s => .text s.toList
  | _ => .text []

def ImportUser.schoolFields (u : ImportUser) : SchoolFields :=
  ⟨schoolValue (u.values .school), schoolsValue (u.values .schools)⟩

omit [SetOrder] in
theorem textItems_map (l : List String) : textItems (.arr (l.map .str)) = l := by
  induction l with
  | nil => rfl
  | cons s l ih => exact congrArg (s :: ·) ih

omit [SetOrder] in
theorem splitSchools_toList (schools : String) :
    env.schoolSettings.splitSchools schools.toList = splitSchools env schools := by
  simp [SchoolSettings.splitSchools, splitSchools, Environment.schoolSettings]

omit [SetOrder] in
theorem schoolFields_set_school (u : ImportUser) (s : String) :
    (u.set .school (.str s)).schoolFields = { u.schoolFields with school := s } := by
  simp [ImportUser.schoolFields, ImportUser.set, schoolValue]

omit [SetOrder] in
theorem schoolFields_set_schools (u : ImportUser) (l : List String) :
    (u.set .schools (.arr (l.map .str))).schoolFields =
      { u.schoolFields with schools := .names l } := by
  have hvalue : schoolsValue (.arr (l.map .str)) = .names l := congrArg _ (textItems_map l)
  simp [ImportUser.schoolFields, ImportUser.set, hvalue]

omit [SetOrder] in
theorem toList_ne_nil {s : String} (h : s ≠ "") : ∃ c cs, s.toList = c :: cs := by
  apply List.exists_cons_of_ne_nil
  intro hnil
  exact h (String.toList_eq_nil_iff.mp hnil)

theorem makeSchoolsWith_of_text {settings : SchoolSettings} {u : SchoolFields} {c : Char}
    {cs : List Char} (hschool : u.school = "") (hconfigured : settings.configured = "")
    (hschools : u.schools = .text (c :: cs)) :
    makeSchoolsWith settings (chooseFirst settings) u =
      done ⟨if settings.normalize (firstSchool (settings.splitSchools (c :: cs))) ∈
          settings.splitSchools (c :: cs) then
            settings.normalize (firstSchool (settings.splitSchools (c :: cs)))
          else firstSchool (settings.splitSchools (c :: cs)),
        .names (settings.splitSchools (c :: cs))⟩ := by
  have hne := settings.splitSchools_ne_nil (c :: cs)
  have hlist : listSchools settings (chooseFirst settings) u =
      done ⟨"", .names (settings.splitSchools (c :: cs))⟩ := by
    rw [listSchools, hschools, ← hschool]
  generalize settings.splitSchools (c :: cs) = split at hne hlist
  have hfirst : chooseFirst settings ⟨"", .names split⟩ =
      done ⟨settings.normalize (firstSchool split), .names split⟩ := by
    obtain ⟨s, rest, rfl⟩ := List.exists_cons_of_ne_nil hne
    unfold chooseFirst makeSchoolWith
    rw [if_neg (fun h => h rfl), if_neg (not_not.mpr hconfigured)]
  have hchoose : chooseSchool ⟨settings.normalize (firstSchool split), .names split⟩ =
      ⟨if settings.normalize (firstSchool split) ∈ split then
          settings.normalize (firstSchool split) else firstSchool split, .names split⟩ := by
    rcases chooseSchool_list (u := ⟨settings.normalize (firstSchool split), .names split⟩) rfl hne with
      ⟨hmem, heq⟩ | ⟨hmem, heq⟩
    · rw [heq, if_pos hmem]
    · rw [heq, if_neg hmem]
  unfold makeSchoolsWith
  rw [hlist]
  show (schoolIfEmpty (chooseFirst settings) ⟨"", .names split⟩).andThen _ = _
  rw [schoolIfEmpty, if_pos rfl, hfirst]
  exact congrArg done hchoose

/-- `makeSchool` of the schemes is `make_school`, with the calls of both methods. -/
theorem makeSchool_schemes (hschool : u.values .school = .null ∨ ∃ s, u.values .school = .str s)
    (hschools : u.values .schools = .null ∨ (∃ s, u.values .schools = .str s) ∨
      ∃ l : List String, u.values .schools = .arr (l.map .str))
    (h : makeSchool env u = .ok u') :
    env.schoolSettings.makeSchool 3 u.schoolFields = some (.ok u'.schoolFields) := by
  have hhas : u.has .school = decide (u.schoolFields.school ≠ "") := by
    rcases hschool with hnull | ⟨s, hs⟩
    · simp [ImportUser.has, ImportUser.schoolFields, hnull, truthy, schoolValue]
    · simp [ImportUser.has, ImportUser.schoolFields, hs, truthy, schoolValue]
  rw [makeSchool_eq 0]
  unfold makeSchoolWith
  unfold makeSchool at h
  by_cases hgiven : u.schoolFields.school ≠ ""
  · rw [if_pos hgiven]
    rw [hhas, decide_eq_true hgiven] at h
    rcases hschool with hnull | ⟨s, hs⟩
    · rw [ImportUser.schoolFields, hnull] at hgiven
      exact absurd rfl hgiven
    · have hvalue : u.schoolFields.school = s := by
        rw [ImportUser.schoolFields, hs]
        rfl
      rw [hs] at h
      cases h
      rw [hvalue, schoolFields_set_school]
      rfl
  · rw [if_neg hgiven]
    rw [hhas, decide_eq_false hgiven] at h
    dsimp only at h
    by_cases hconfigured : env.configSchool ≠ ""
    · rw [if_pos hconfigured] at h
      cases h
      rw [schoolFields_set_school]
      exact if_pos hconfigured
    · rw [if_neg hconfigured] at h
      have hnot : ¬env.schoolSettings.configured ≠ "" := hconfigured
      rw [if_neg hnot]
      rcases hschools with hnull | ⟨t, ht⟩ | ⟨l, hl⟩
      · have hfalse : u.has .schools = false := by
          rw [ImportUser.has, hnull]
          rfl
        rw [hfalse] at h
        cases h
      · by_cases hempty : t = ""
        · have hfalse : u.has .schools = false := by
            rw [ImportUser.has, ht, hempty]
            rfl
          rw [hfalse] at h
          cases h
        · have htrue : u.has .schools = true := by
            rw [ImportUser.has, ht]
            exact decide_eq_true hempty
          obtain ⟨c, cs, hcs⟩ := toList_ne_nil hempty
          have hvalue : u.schoolFields.schools = .text (c :: cs) := by
            rw [ImportUser.schoolFields, ht, ← hcs]
            rfl
          have hempty : u.schoolFields.school = "" := not_not.mp hgiven
          have hsplit : env.schoolSettings.splitSchools (c :: cs) = splitSchools env t := by
            rw [← hcs, splitSchools_toList]
          rw [htrue, ht] at h
          cases h
          rw [schoolFields_set_school, schoolFields_set_schools]
          simp only [hvalue]
          rw [makeSchoolsWith_of_text hempty (not_not.mp hnot) hvalue, hsplit]
          rfl
      · cases l with
        | nil =>
          have hfalse : u.has .schools = false := by
            rw [ImportUser.has, hl]
            rfl
          rw [hfalse] at h
          cases h
        | cons s rest =>
          have htrue : u.has .schools = true := by
            rw [ImportUser.has, hl]
            rfl
          have hvalue : u.schoolFields.schools = .names (s :: rest) := by
            rw [ImportUser.schoolFields, hl]
            exact congrArg _ (textItems_map (s :: rest))
          rw [htrue, hl] at h
          dsimp only at h
          rw [textItems_map] at h
          cases h
          rw [schoolFields_set_school]
          simp only [hvalue]
          rfl

end Schemes

section Example

attribute [local instance] sortedOrder

/-- No school is configured and all names are normalized. -/
def plainSettings : SchoolSettings where
  configured := ""
  normalize name := name
  strip text := Text.strip ' ' text

/-- A primary school that is not among the schools is given up, and empty parts of a text are taken
for a school. -/
theorem school_dropped :
    (plainSettings.makeSchool 3 ⟨"A", .names ["B"]⟩).andThen (plainSettings.makeSchools 3) =
      some (.ok ⟨"B", .names ["B"]⟩) ∧
    (plainSettings.makeSchool 3 ⟨"C", .text "A,,B".toList⟩).andThen (plainSettings.makeSchools 3) =
      some (.ok ⟨"", .names ["", "A", "B"]⟩) := by
  decide

end Example

end Importer

end Kelvin
