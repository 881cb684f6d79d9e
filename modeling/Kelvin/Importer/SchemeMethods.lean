import Kelvin.Importer.Schemes

/-!
# What the methods of a user change

A `make_*` method changes what it makes, and a few methods also change something else: an email
address or a user name is taken from the UDM properties, and the schools are filled on the way.

* `Frame`: what a method leaves as it is.
* `ready_eq_none`: the methods that format.
* `Pending`: the properties that still have to be formatted.
* `Pending.of_frame`: other methods leave a property pending.
* `rank`, `grows_of_ready`, `grows_of_finish`: values are not lost, unless the rank drops.
-/

namespace Kelvin

namespace Importer

open Resolution

/-! ## What the methods change -/

/-- The attribute that a method makes. -/
def Method.own : Method → Option Attribute
  | .makeBirthday => some .birthday
  | .makeExpirationDate => some .expirationDate
  | .makeFirstname => some .firstname
  | .makeLastname => some .lastname
  | .makeEmail => some .email
  | .makeRecordUid => some .recordUid
  | .makeSourceUid => some .sourceUid
  | .makeSchool => some .school
  | .makeUsername => some .name
  | .makeUcsschoolRoles => some .ucsschoolRoles
  | .makeLegalGuardians => some .legalGuardians
  | .makeLegalWards => some .legalWards
  | .makeUdmProperty _ => none

/-- The UDM property that a method sets or takes away. -/
def Method.udmKey : Method → Option String
  | .makeEmail => some "mailPrimaryAddress"
  | .makeUsername => some "username"
  | .makeUdmProperty name => some name
  | _ => none

theorem Method.own_injective {m m' : Method} {a : Attribute} (h : m.own = some a)
    (h' : m'.own = some a) : m = m' := by
  cases m <;> cases h <;> cases m' <;> cases h' <;> rfl

/-- The attributes that are made from schemes. -/
def formatted : List Attribute :=
  [.name, .firstname, .lastname, .birthday, .expirationDate, .email, .recordUid]

/-- What a method leaves as it is. -/
structure Frame (m : Method) (u u' : ImportUser) : Prop where
  values : ∀ a ∈ formatted, m.own ≠ some a → u'.values a = u.values a
  udm : ∀ q, m.udmKey ≠ some q → u'.udmProperties.find? q = u.udmProperties.find? q
  absent : ∀ q, m ≠ .makeUdmProperty q → u.hasUdm q = false →
    u'.udmProperties.find? q = u.udmProperties.find? q

theorem Frame.refl (m : Method) (u : ImportUser) : Frame m u u :=
  ⟨fun _ _ _ => rfl, fun _ _ => rfl, fun _ _ _ => rfl⟩

theorem ImportUser.set_of_ne {u : ImportUser} {a b : Attribute} (h : b ≠ a) (value : Json) :
    (u.set a value).values b = u.values b :=
  Function.update_of_ne h _ _

@[simp] theorem ImportUser.set_self (u : ImportUser) (a : Attribute) (value : Json) :
    (u.set a value).values a = value :=
  Function.update_self _ _ _

@[simp] theorem ImportUser.set_udmProperties (u : ImportUser) (a : Attribute) (value : Json) :
    (u.set a value).udmProperties = u.udmProperties := rfl

theorem Frame.set {m : Method} {a : Attribute} (h : m.own = some a) (u : ImportUser)
    (value : Json) : Frame m u (u.set a value) := by
  constructor
  · intro b _ hb
    apply ImportUser.set_of_ne
    rintro rfl
    exact hb h
  · intro q _
    rfl
  · intro q _ _
    rfl

theorem Frame.set_of_not_mem {m : Method} {a : Attribute} (h : a ∉ formatted) (u : ImportUser)
    (value : Json) : Frame m u (u.set a value) := by
  constructor
  · intro b hb _
    apply ImportUser.set_of_ne
    rintro rfl
    exact h hb
  · intro q _
    rfl
  · intro q _ _
    rfl

/-- A method that sets an attribute of its own afterwards. -/
theorem Frame.then_set {m : Method} {u₁ u₂ : ImportUser} (h : Frame m u₁ u₂) {a : Attribute}
    (ha : a ∉ formatted) (value : Json) : Frame m u₁ (u₂.set a value) where
  values b hb hm := ((Frame.set_of_not_mem ha u₂ value).values b hb hm).trans (h.values b hb hm)
  udm := h.udm
  absent := h.absent

/-- A UDM property with a value becomes the value of an attribute. -/
theorem Frame.pop {m : Method} {a : Attribute} {q : String} (hown : m.own = some a)
    (hkey : m.udmKey = some q) (u : ImportUser) (hudm : u.hasUdm q = true) (value : Json) :
    Frame m u { u.set a value with udmProperties := u.udmProperties.erase q } := by
  have hother : ∀ q', q' ≠ q → (u.udmProperties.erase q).find? q' = u.udmProperties.find? q' := by
    intro q' hq'
    rw [Table.find?_erase, if_neg hq']
  constructor
  · exact (Frame.set hown u value).values
  · intro q' hq'
    apply hother
    rintro rfl
    exact hq' hkey
  · intro q' _ habsent
    apply hother
    rintro rfl
    exact absurd hudm (by rw [habsent]; exact Bool.false_ne_true)

theorem Frame.counters {m : Method} {u u' : ImportUser} (h : Frame m u u') (counters : Counters) :
    Frame m u { u' with counters := counters } := ⟨h.values, h.udm, h.absent⟩

section Methods

variable {env : Environment} {u u' : ImportUser}

theorem frame_makeAttribute {a : Attribute} {formats : Bool} {given fromOld unset : Json → Json}
    {m : Method} (hown : m.own = some a)
    (h : makeAttribute env a formats given fromOld unset u = some (.ok u')) : Frame m u u' := by
  unfold makeAttribute at h
  split at h
  · cases h
    exact Frame.set hown u _
  · split at h
    · cases h
    · split at h
      · cases h
        exact Frame.set hown u _
      · cases h
        exact Frame.set hown u _

theorem frame_makeSchool {m : Method} (h : makeSchool env u = .ok u') : Frame m u u' := by
  have hschool : Attribute.school ∉ formatted := by decide
  have hschools : Attribute.schools ∉ formatted := by decide
  unfold makeSchool at h
  split at h
  · cases h
    exact Frame.set_of_not_mem hschool u _
  · cases h
    exact Frame.refl _ _
  · split at h
    · cases h
      exact Frame.set_of_not_mem hschool u _
    · split at h
      · cases h
        exact Frame.set_of_not_mem hschool u _
      · cases h
        exact (Frame.set_of_not_mem hschools u _).then_set hschool _
      · cases h

theorem frame_makeSchools {m : Method} (h : makeSchools env u = .ok u') : Frame m u u' := by
  have hschools : Attribute.schools ∉ formatted := by decide
  unfold makeSchools at h
  obtain ⟨u₁, hu₁, rfl⟩ := map_eq_ok.mp h
  split at hu₁
  · cases hu₁
    exact Frame.set_of_not_mem hschools _ _
  · exact (frame_makeSchool hu₁).then_set hschools _

theorem frame_makeUcsschoolRoles {m : Method} (h : makeUcsschoolRoles env u = .ok u') :
    Frame m u u' := by
  have hroles : Attribute.ucsschoolRoles ∉ formatted := by decide
  unfold makeUcsschoolRoles at h
  split at h
  · cases h
    exact Frame.refl _ _
  · obtain ⟨u₁, hu₁, rfl⟩ := map_eq_ok.mp h
    split at hu₁
    · cases hu₁
      exact Frame.set_of_not_mem hroles _ _
    · exact (frame_makeSchools hu₁).then_set hroles _

theorem frame_makeLegal [Runtime] {m : Method} {a : Attribute} {exc : String → ImportExc}
    {maxCount : Nat} {many one owner : String} (ha : a ∉ formatted)
    (h : makeLegal env a exc maxCount many one owner u = .ok u') : Frame m u u' := by
  unfold makeLegal at h
  split at h
  · cases h
    exact Frame.refl _ _
  · split at h
    · cases h
    · obtain ⟨dns, -, rfl⟩ := map_eq_ok.mp h
      exact Frame.set_of_not_mem ha u _

/-- A method that does not format changes only what is its own. -/
theorem frame_of_ready [Runtime] {m : Method} (h : ready env u m = some (.ok u')) :
    Frame m u u' := by
  cases m with
  | makeBirthday => exact frame_makeAttribute rfl h
  | makeExpirationDate =>
    rw [ready, makeExpirationDate] at h
    exact frame_makeAttribute rfl h
  | makeFirstname => exact frame_makeAttribute rfl h
  | makeLastname => exact frame_makeAttribute rfl h
  | makeRecordUid => exact frame_makeAttribute rfl h
  | makeSchool => exact frame_makeSchool (Option.some.inj h)
  | makeUcsschoolRoles => exact frame_makeUcsschoolRoles (Option.some.inj h)
  | makeLegalGuardians => exact frame_makeLegal (by decide) (Option.some.inj h)
  | makeLegalWards => exact frame_makeLegal (by decide) (Option.some.inj h)
  | makeSourceUid =>
    have h := Option.some.inj h
    unfold makeSourceUid at h
    split at h
    · split at h
      · cases h
      · cases h
        exact Frame.refl _ _
    · cases h
      exact Frame.set rfl u _
  | makeEmail =>
    rw [ready, makeEmail] at h
    split at h
    · cases h
      exact Frame.refl _ _
    · split at h
      · next hudm =>
        cases h
        exact Frame.pop rfl rfl u hudm _
      · split at h
        · split at h
          · cases h
          · split at h
            · cases h
            · cases h
              exact Frame.refl _ _
        · split at h
          · cases h
            exact Frame.set rfl u _
          · cases h
            exact Frame.refl _ _
  | makeUsername =>
    rw [ready, makeUsername] at h
    split at h
    · cases h
      exact Frame.refl _ _
    · split at h
      · next hudm =>
        cases h
        exact Frame.pop rfl rfl u hudm _
      · split at h
        · split at h <;> cases h
        · split at h
          · cases h
            exact Frame.set rfl u _
          · cases h
            exact Frame.refl _ _
  | makeUdmProperty name =>
    rw [ready, makeUdmProperty] at h
    split at h
    · cases h
      exact Frame.refl _ _
    · split at h
      · cases h
      · cases h
        exact Frame.refl _ _

theorem frame_assign [NameStorage] [Runtime] {m : Method} {text : String}
    (h : assign env text u m = .ok u') : Frame m u u' := by
  cases m with
  | makeEmail =>
    rw [assign, finishEmail] at h
    split at h
    · cases h
      exact (@Frame.set .makeEmail _ rfl u _).counters _
    · cases h
  | makeUsername =>
    rw [assign, finishUsername] at h
    split at h
    · cases h
    · split at h
      · cases h
      · cases h
        exact (@Frame.set .makeUsername _ rfl u _).counters _
      · cases h
  | makeUdmProperty name =>
    cases h
    refine ⟨fun _ _ _ => rfl, fun q hq => ?_, fun q hq _ => ?_⟩
    · refine Table.find?_insert_ne fun heq => hq ?_
      rw [heq, Method.udmKey]
    · exact Table.find?_insert_ne fun heq => hq (by rw [heq])
  | makeBirthday => cases h; exact Frame.set rfl u _
  | makeExpirationDate => cases h; exact Frame.set rfl u _
  | makeFirstname => cases h; exact Frame.set rfl u _
  | makeLastname => cases h; exact Frame.set rfl u _
  | makeRecordUid => cases h; exact Frame.set rfl u _
  | _ => cases h; exact Frame.refl _ _

theorem frame_of_finish [NameStorage] [Runtime] {m : Method} (h : finish env m u = .ok u') :
    Frame m u u' := by
  obtain ⟨text, -, hassign⟩ := bind_eq_ok.mp h
  exact frame_assign hassign

end Methods

/-! ## What still has to be formatted -/

/-- The attributes that are computed from others, and the list of schools that `make_schools` fills
on the way. -/
def derivedNames : List String := ["schools", "position", "dn", "roles_as_dicts", "udm_properties"]

/-- The configuration has a method format its scheme. -/
def writes (env : Environment) : Method → Bool
  | .makeBirthday => schemaWriteCheck env "birthday" "birthday" "univentionBirthday"
  | .makeExpirationDate => ["krb5ValidEnd", "shadowExpire", "sambaKickoffTime"].all
      (fun ldapAttr => schemaWriteCheck env "expiration_date" "userexpiry" ldapAttr)
  | .makeFirstname => schemaWriteCheck env "firstname" "firstname" "givenName"
  | .makeLastname => schemaWriteCheck env "lastname" "lastname" "sn"
  | .makeRecordUid => schemaWriteCheck env "record_uid" "record_uid" "ucsschoolRecordUID"
  | .makeEmail =>
    schemaWriteCheck env "email" "email" "mailPrimaryAddress" ∧ env.maildomain.isSome
  | .makeUsername => schemaWriteCheck env "username" "name" "uid" ∧ (usernameScheme env).isOk
  | .makeUdmProperty name => schemaWriteCheck env name name (env.ldapMapping name)
  | _ => false

/-- What a method makes has no value. -/
def Vacant (u : ImportUser) : Method → Prop
  | .makeBirthday => u.has .birthday = false
  | .makeExpirationDate => u.has .expirationDate = false
  | .makeFirstname => u.has .firstname = false
  | .makeLastname => u.has .lastname = false
  | .makeRecordUid => u.has .recordUid = false
  | .makeEmail => u.values .email = .null
  | .makeUsername => u.has .name = false ∧ u.hasUdm "username" = false
  | .makeUdmProperty name => u.udmProperties.find? name = none
  | _ => True

section Pending

variable {env : Environment} {u u' : ImportUser} {d d' : String}

theorem makeAttribute_eq_none {a : Attribute} {formats : Bool} {given fromOld unset : Json → Json} :
    makeAttribute env a formats given fromOld unset u = none ↔
      formats = true ∧ u.has a = false := by
  unfold makeAttribute
  cases u.has a with
  | true => simp
  | false =>
    cases formats with
    | true => simp
    | false => cases env.oldUser <;> simp

/-- A method formats where the configuration has it do so and nothing has a value yet. -/
theorem ready_eq_none [Runtime] {m : Method} : ready env u m = none ↔
    writes env m = true ∧ Vacant u m ∧ (m = .makeEmail → u.hasUdm "mailPrimaryAddress" = false) := by
  cases m with
  | makeEmail =>
    simp only [ready, makeEmail, writes, Vacant, forall_const]
    by_cases hemail : u.values .email = .null
    · cases hudm : u.hasUdm "mailPrimaryAddress" with
      | true => simp [hemail]
      | false =>
        cases hcheck : schemaWriteCheck env "email" "email" "mailPrimaryAddress" with
        | true =>
          cases hdomain : env.maildomain.isSome with
          | true => simp [hemail]
          | false => cases hmandatory : env.emailMandatory <;> simp [hemail]
        | false => cases hold : env.oldUser <;> simp [hemail]
    · simp [hemail]
  | makeUsername =>
    simp only [ready, makeUsername, writes, Vacant]
    cases hname : u.has .name with
    | true => simp
    | false =>
      cases hudm : u.hasUdm "username" with
      | true => simp
      | false =>
        cases hcheck : schemaWriteCheck env "username" "name" "uid" with
        | true => cases hscheme : usernameScheme env <;> simp [Except.isOk, Except.toBool]
        | false => cases hold : env.oldUser <;> simp
  | makeUdmProperty name =>
    simp only [ready, makeUdmProperty, writes, Vacant]
    cases hudm : u.udmProperties.find? name with
    | some value => simp
    | none => cases hcheck : schemaWriteCheck env name name (env.ldapMapping name) <;> simp
  | makeBirthday => simp [ready, makeBirthday, makeAttribute_eq_none, writes, Vacant]
  | makeExpirationDate => simp [ready, makeExpirationDate, makeAttribute_eq_none, writes, Vacant]
  | makeFirstname => simp [ready, makeFirstname, makeAttribute_eq_none, writes, Vacant]
  | makeLastname => simp [ready, makeLastname, makeAttribute_eq_none, writes, Vacant]
  | makeRecordUid => simp [ready, makeRecordUid, makeAttribute_eq_none, writes, Vacant]
  | makeSourceUid => simp [ready, writes]
  | makeSchool => simp [ready, writes]
  | makeUcsschoolRoles => simp [ready, writes]
  | makeLegalGuardians => simp [ready, writes]
  | makeLegalWards => simp [ready, writes]

/-- A property has no value, and its method would format its scheme if it were called. For the email
address this leaves out a value of `mailPrimaryAddress`. -/
structure Pending (env : Environment) (u : ImportUser) (name : String) : Prop where
  unset : hasValue env u name = false
  writes : writes env (provider name) = true
  vacant : Vacant u (provider name)

theorem provider_cases (name : String) : (name, provider name) ∈ propProviders ∨
    propProviders.lookup name = none ∧ provider name = .makeUdmProperty name := by
  unfold provider
  cases h : propProviders.lookup name with
  | none => exact .inr ⟨rfl, rfl⟩
  | some m =>
    obtain ⟨before, after, htable, -⟩ := List.lookup_eq_some_iff.mp h
    left
    rw [htable]
    exact List.mem_append_right _ List.mem_cons_self

theorem eq_of_provider_udm {name q : String} (h : provider name = .makeUdmProperty q) :
    q = name := by
  rcases provider_cases name with hmem | ⟨-, heq⟩
  · rw [h] at hmem
    simp [propProviders] at hmem
  · rw [heq] at h
    exact (Method.makeUdmProperty.inj h).symm

theorem provider_ne_udm_username : provider d ≠ .makeUdmProperty "username" := by
  intro h
  obtain rfl := eq_of_provider_udm h
  exact absurd h (by decide)

theorem need_eq_make {m : Method} (h : need env u d = .make m) :
    m = provider d ∧ hasValue env u d = false := by
  unfold need at h
  split at h
  · cases h
  · next hvalue =>
    split at h
    · cases h
    · cases h
      exact ⟨rfl, Bool.eq_false_iff.mpr hvalue⟩

theorem Pending.need (h : Pending env u d) : need env u d = .make (provider d) := by
  have hknown : ¬ ((propProviders.lookup d).isNone ∧ (u.udmProperties.find? d).isNone ∧
      ¬ env.hasScheme d) := by
    rintro ⟨hlookup, -, hscheme⟩
    have hwrites := h.writes
    rcases provider_cases d with hmem | ⟨-, heq⟩
    · rw [provider, Option.isNone_iff_eq_none.mp hlookup] at hmem
      simp [propProviders] at hmem
    · rw [heq] at hwrites
      simp only [Importer.writes, schemaWriteCheck, decide_eq_true_eq] at hwrites
      exact hscheme hwrites.1
  rw [Importer.need, if_neg (by rw [h.unset]; exact Bool.false_ne_true), if_neg hknown]

theorem attribute_of_provider :
    ∀ e ∈ propProviders, e.1 = "username" ∨ attributes.find? (·.text = e.1) = e.2.own := by
  decide

theorem lookup_text (a : Attribute) :
    a = .schools ∨ (propProviders.lookup a.text).isSome = true := by
  cases a <;> decide

theorem own_mem_formatted {m : Method} {a : Attribute} (hwrites : Importer.writes env m = true)
    (hown : m.own = some a) : a ∈ formatted := by
  cases m <;> cases hown <;> first | decide | cases hwrites

theorem attributeValue_other (hfind : attributes.find? (·.text = d) = none)
    (hd : d ∉ derivedNames) : attributeValue env u d = env.otherAttribute d := by
  simp only [derivedNames, List.mem_cons, List.not_mem_nil, or_false, not_or] at hd
  obtain ⟨-, hposition, hdn, hroles, hudm⟩ := hd
  unfold attributeValue
  rw [hfind]
  dsimp only
  rw [if_neg hposition, if_neg hdn, if_neg hroles, if_neg hudm]

/-- The attribute that stands for a property changes only with what its method makes. -/
theorem attributeValue_congr (hwrites : Importer.writes env (provider d) = true)
    (hvalues : ∀ a ∈ formatted, (provider d).own = some a → u'.values a = u.values a)
    (hderived : d ∈ derivedNames → attributeValue env u' d = attributeValue env u d) :
    attributeValue env u' d = attributeValue env u d := by
  by_cases hd : d ∈ derivedNames
  · exact hderived hd
  · cases hfind : attributes.find? (·.text = d) with
    | none => rw [attributeValue_other hfind hd, attributeValue_other hfind hd]
    | some a =>
      have hown : (provider d).own = some a := by
        rcases provider_cases d with hmem | ⟨hlookup, -⟩
        · rcases attribute_of_provider _ hmem with heq | heq
          · obtain rfl : d = "username" := heq
            have hnone : attributes.find? (·.text = "username") = none := by decide
            rw [hnone] at hfind
            cases hfind
          · exact heq.symm.trans hfind
        · have htext : a.text = d := by simpa using List.find?_some hfind
          rcases lookup_text a with rfl | hsome
          · exact absurd (htext ▸ List.mem_cons_self) hd
          · rw [htext, hlookup] at hsome
            cases hsome
      have hvalue := hvalues a (own_mem_formatted hwrites hown) hown
      simp only [attributeValue, hfind, ImportUser.has, hvalue]

/-- A property is pending as long as nothing changes that stands for it. -/
theorem pending_congr
    (hvalues : ∀ a ∈ formatted, (provider d).own = some a → u'.values a = u.values a)
    (hderived : d ∈ derivedNames → attributeValue env u' d = attributeValue env u d)
    (hudm : u'.udmProperties.find? d = u.udmProperties.find? d)
    (husername : provider d = .makeUsername →
      u'.udmProperties.find? "username" = u.udmProperties.find? "username")
    (h : Pending env u d) : Pending env u' d := by
  have hattribute := attributeValue_congr h.writes hvalues hderived
  have hhas : ∀ a, (provider d).own = some a → u'.has a = u.has a := by
    intro a hown
    simp only [ImportUser.has, hvalues a (own_mem_formatted h.writes hown) hown]
  have hudm' : u'.hasUdm d = u.hasUdm d := by
    rw [ImportUser.hasUdm, hudm, ImportUser.hasUdm]
  constructor
  · have hunset := h.unset
    simp only [hasValue, Bool.or_eq_false_iff, Bool.and_eq_false_iff] at hunset ⊢
    rw [hattribute, hudm']
    by_cases hd : d = "username"
    · subst hd
      have hprovider : provider "username" = .makeUsername := by decide
      rw [hhas .name (by rw [hprovider]; rfl), hudm']
      exact hunset
    · exact ⟨hunset.1, .inl (decide_eq_false hd)⟩
  · exact h.writes
  · have hvacant := h.vacant
    have hwrites := h.writes
    cases hprovider : provider d with
    | makeUdmProperty name =>
      obtain rfl := eq_of_provider_udm hprovider
      rw [hprovider] at hvacant
      exact hudm.trans hvacant
    | makeUsername =>
      rw [hprovider] at hvacant
      refine ⟨(hhas .name (by rw [hprovider]; rfl)).trans hvacant.1, ?_⟩
      rw [ImportUser.hasUdm, husername hprovider]
      exact hvacant.2
    | makeEmail =>
      rw [hprovider] at hvacant
      exact (hvalues .email (by decide) (by rw [hprovider]; rfl)).trans hvacant
    | makeBirthday =>
      rw [hprovider] at hvacant
      exact (hhas .birthday (by rw [hprovider]; rfl)).trans hvacant
    | makeExpirationDate =>
      rw [hprovider] at hvacant
      exact (hhas .expirationDate (by rw [hprovider]; rfl)).trans hvacant
    | makeFirstname =>
      rw [hprovider] at hvacant
      exact (hhas .firstname (by rw [hprovider]; rfl)).trans hvacant
    | makeLastname =>
      rw [hprovider] at hvacant
      exact (hhas .lastname (by rw [hprovider]; rfl)).trans hvacant
    | makeRecordUid =>
      rw [hprovider] at hvacant
      exact (hhas .recordUid (by rw [hprovider]; rfl)).trans hvacant
    | _ => trivial

/-! ## What the methods leave pending -/

/-- Another method leaves a property pending. -/
theorem Pending.of_frame (hframe : Frame (provider d') u u') (hne : provider d ≠ provider d')
    (hderived : d ∈ derivedNames → attributeValue env u' d = attributeValue env u d)
    (h : Pending env u d) : Pending env u' d := by
  have hunset := h.unset
  simp only [hasValue, Bool.or_eq_false_iff] at hunset
  refine pending_congr ?_ hderived ?_ ?_ h
  · intro a ha hown
    exact hframe.values a ha fun hown' => hne (Method.own_injective hown hown')
  · refine hframe.absent d (fun hq => ?_) hunset.1.2
    obtain rfl := eq_of_provider_udm hq
    exact hne rfl
  · intro hprovider
    have hvacant := h.vacant
    rw [hprovider] at hvacant
    exact hframe.absent "username" provider_ne_udm_username hvacant.2

/-- What is pending after another method was pending before. -/
theorem Pending.of_frame_after (hframe : Frame (provider d') u u') (hne : provider d ≠ provider d')
    (haddress : provider d' = .makeEmail → d ≠ "mailPrimaryAddress")
    (hderived : d ∉ derivedNames) (h : Pending env u' d) : Pending env u d := by
  refine pending_congr ?_ (fun hd => absurd hd hderived) ?_ ?_ h
  · intro a ha hown
    exact (hframe.values a ha fun hown' => hne (Method.own_injective hown hown')).symm
  · refine (hframe.udm d fun hkey => ?_).symm
    cases hprovider : provider d' with
    | makeEmail =>
      rw [hprovider] at hkey
      exact haddress hprovider (Option.some.inj hkey).symm
    | makeUsername =>
      rw [hprovider] at hkey
      obtain rfl := Option.some.inj hkey
      exact hne (hprovider.symm ▸ by decide)
    | makeUdmProperty q =>
      rw [hprovider] at hkey
      obtain rfl := eq_of_provider_udm hprovider
      obtain rfl := Option.some.inj hkey
      exact hne rfl
    | _ => rw [hprovider] at hkey; cases hkey
  · intro husername
    refine (hframe.udm "username" fun hkey => ?_).symm
    cases hprovider : provider d' with
    | makeEmail =>
      rw [hprovider] at hkey
      exact absurd (Option.some.inj hkey) (by decide)
    | makeUsername => exact hne (husername.trans hprovider.symm)
    | makeUdmProperty q =>
      rw [hprovider] at hkey
      obtain rfl := Option.some.inj hkey
      exact provider_ne_udm_username hprovider
    | _ => rw [hprovider] at hkey; cases hkey

end Pending

/-! ## Ranks -/

/-- What keeps its value, or stays without one, when a method gives a value to a property. -/
structure Grows (u u' : ImportUser) : Prop where
  email : u.values .email ≠ .null → u'.values .email ≠ .null
  username : u.hasUdm "username" = false → u'.hasUdm "username" = false
  name : u.has .name = true → u'.has .name = true
  school : u.has .school = true → u'.has .school = true
  schools : u.has .schools = true → u'.has .schools = true
  roles : rolesAsDicts (textItems (u.values .ucsschoolRoles)) ≠ [] →
    rolesAsDicts (textItems (u'.values .ucsschoolRoles)) ≠ []
  udm : u.udmProperties.rows ≠ [] → u'.udmProperties.rows ≠ []

/-- It drops when an email address or a user name is taken from the UDM properties, and when a
derived attribute gets a value. -/
def rank (env : Environment) (u : ImportUser) : ℕ :=
  6 * ((if u.values .email = .null then 1 else 0) + (if u.hasUdm "username" then 1 else 0)) +
    derivedNames.countP (fun name => !attributeValue env u name)

theorem countP_mono_or {α : Type} {p q : α → Bool} {l : List α}
    (h : ∀ a ∈ l, q a = true → p a = true) :
    l.countP q ≤ l.countP p ∧ (l.countP q < l.countP p ∨ ∀ a ∈ l, q a = p a) := by
  induction l with
  | nil => exact ⟨le_refl _, .inr fun a ha => absurd ha List.not_mem_nil⟩
  | cons a l ih =>
    rw [List.forall_mem_cons] at h
    obtain ⟨hle, hcases⟩ := ih h.2
    rw [List.countP_cons, List.countP_cons, List.forall_mem_cons]
    cases hq : q a with
    | true =>
      rw [h.1 hq]
      exact ⟨by omega, hcases.imp (by omega) fun hall => ⟨rfl, hall⟩⟩
    | false =>
      cases hp : p a with
      | true =>
        simp only [Bool.false_eq_true, if_false, if_true]
        exact ⟨by omega, .inl (by omega)⟩
      | false => exact ⟨by omega, hcases.imp (by omega) fun hall => ⟨rfl, hall⟩⟩

section Ranks

variable {env : Environment} {u u' : ImportUser}

theorem attributeValue_schools : attributeValue env u "schools" = u.has .schools := by
  have hfind : attributes.find? (·.text = "schools") = some .schools := by decide
  simp only [attributeValue, hfind]

theorem attributeValue_derived {name : String} (h : name ∈ ["position", "dn", "roles_as_dicts",
    "udm_properties"]) : attributes.find? (·.text = name) = none := by
  revert name
  decide

theorem Grows.derived (h : Grows u u') :
    ∀ name ∈ derivedNames, attributeValue env u name = true →
      attributeValue env u' name = true := by
  have hposition : (env.hasPosition || u.has .school) = true →
      (env.hasPosition || u'.has .school) = true := by
    rw [Bool.or_eq_true, Bool.or_eq_true]
    exact Or.imp_right h.school
  intro name hname hvalue
  rcases List.mem_cons.mp hname with rfl | hother
  · rw [attributeValue_schools] at hvalue ⊢
    exact h.schools hvalue
  · unfold attributeValue at hvalue ⊢
    rw [attributeValue_derived hother] at hvalue ⊢
    dsimp only at hvalue ⊢
    simp only [List.mem_cons, List.not_mem_nil, or_false] at hother
    rcases hother with rfl | rfl | rfl | rfl
    · exact hposition hvalue
    · rw [if_neg (by decide), if_pos rfl, Bool.or_eq_true, Bool.and_eq_true] at hvalue ⊢
      exact hvalue.imp_left fun hdn => ⟨h.name hdn.1, hposition hdn.2⟩
    · rw [if_neg (by decide), if_neg (by decide), if_pos rfl, decide_eq_true_eq] at hvalue ⊢
      exact h.roles hvalue
    · rw [if_neg (by decide), if_neg (by decide), if_neg (by decide), if_pos rfl,
        decide_eq_true_eq] at hvalue ⊢
      exact h.udm hvalue

theorem Grows.rank (h : Grows u u') : rank env u' ≤ rank env u ∧
    (rank env u' < rank env u ∨
      ∀ name ∈ derivedNames, attributeValue env u' name = attributeValue env u name) := by
  have hemail : (if u'.values .email = .null then 1 else 0) ≤
      (if u.values .email = .null then 1 else 0) := by
    by_cases hnull : u.values .email = .null
    · rw [if_pos hnull]
      split <;> omega
    · rw [if_neg hnull, if_neg (h.email hnull)]
  have husername : (if u'.hasUdm "username" then 1 else 0) ≤
      (if u.hasUdm "username" then 1 else 0) := by
    cases hudm : u.hasUdm "username" with
    | true => split <;> simp
    | false => simp [h.username hudm]
  obtain ⟨hle, hcases⟩ := @countP_mono_or _ (fun name => !attributeValue env u name)
    (fun name => !attributeValue env u' name) derivedNames fun name hname hfalse => by
      cases hvalue : attributeValue env u name with
      | false => rfl
      | true => simp [h.derived name hname hvalue] at hfalse
  unfold Importer.rank
  refine ⟨by omega, hcases.imp (by omega) fun hall name hname => ?_⟩
  exact Bool.not_inj (hall name hname)

/-- An email address or a user name that is taken from the UDM properties counts more than all
derived attributes. -/
theorem rank_lt (h : (if u'.values .email = .null then 1 else 0) +
      (if u'.hasUdm "username" then 1 else 0) <
    (if u.values .email = .null then 1 else 0) + (if u.hasUdm "username" then 1 else 0)) :
    rank env u' < rank env u := by
  have hfive := @List.countP_le_length _ (fun name => !attributeValue env u' name) derivedNames
  have hlength : derivedNames.length = 5 := rfl
  unfold rank
  omega

end Ranks

/-! ## What the methods give a value to -/

section Grows

variable {env : Environment} {u u' : ImportUser} {d : String}

theorem Grows.refl (u : ImportUser) : Grows u u := ⟨id, id, id, id, id, id, id⟩

theorem Grows.counters (h : Grows u u') (counters : Counters) :
    Grows u { u' with counters := counters } :=
  ⟨h.email, h.username, h.name, h.school, h.schools, h.roles, h.udm⟩

theorem ImportUser.has_set_of_ne {a b : Attribute} (h : b ≠ a) (value : Json) :
    (u.set a value).has b = u.has b := by
  rw [ImportUser.has, ImportUser.set_of_ne h, ImportUser.has]

@[simp] theorem ImportUser.has_set_self {a : Attribute} (value : Json) :
    (u.set a value).has a = truthy value := by
  rw [ImportUser.has, ImportUser.set_self]

/-- A value that is not true has no texts. -/
theorem textItems_of_not_truthy {value : Json} (h : truthy value = false) :
    textItems value = [] := by
  cases value with
  | arr items =>
    simp only [truthy, decide_eq_false_iff_not, not_not] at h
    rw [h]
    rfl
  | str s =>
    simp only [truthy, decide_eq_false_iff_not, not_not] at h
    rw [h]
    rfl
  | _ => rfl

/-- An attribute gets a value, unless it had one and loses it. -/
theorem Grows.set {a : Attribute} {value : Json}
    (hemail : a = .email → u.values .email ≠ .null → value ≠ .null)
    (hvalue : a ∈ [.name, .school, .schools] → u.has a = true → truthy value = true)
    (hroles : a = .ucsschoolRoles → u.has .ucsschoolRoles = false) :
    Grows u (u.set a value) := by
  have hhas : ∀ b ∈ [.name, .school, .schools], u.has b = true → (u.set a value).has b = true := by
    intro b hb htrue
    by_cases hba : b = a
    · subst hba
      rw [ImportUser.has_set_self]
      exact hvalue hb htrue
    · rwa [ImportUser.has_set_of_ne hba]
  refine ⟨?_, id, hhas _ (by decide), hhas _ (by decide), hhas _ (by decide), ?_, id⟩
  · by_cases ha : .email = a
    · subst ha
      rw [ImportUser.set_self]
      exact hemail rfl
    · rw [ImportUser.set_of_ne ha]
      exact id
  · by_cases ha : .ucsschoolRoles = a
    · subst ha
      rw [textItems_of_not_truthy (hroles rfl)]
      exact fun hne => absurd rfl hne
    · rw [ImportUser.set_of_ne ha]
      exact id

/-- An attribute on which nothing else depends. -/
theorem Grows.set_other {a : Attribute}
    (ha : a ∉ [.email, .name, .school, .schools, .ucsschoolRoles]) (value : Json) :
    Grows u (u.set a value) := by
  simp only [List.mem_cons, List.not_mem_nil, or_false, not_or] at ha
  refine Grows.set (fun h => absurd h ha.1) (fun h => ?_) (fun h => absurd h ha.2.2.2.2)
  simp only [List.mem_cons, List.not_mem_nil, or_false] at h
  rcases h with h | h | h
  · exact absurd h ha.2.1
  · exact absurd h ha.2.2.1
  · exact absurd h ha.2.2.2.1

theorem Grows.trans {u₁ u₂ u₃ : ImportUser} (h : Grows u₁ u₂) (h' : Grows u₂ u₃) : Grows u₁ u₃ where
  email := h'.email ∘ h.email
  username := h'.username ∘ h.username
  name := h'.name ∘ h.name
  school := h'.school ∘ h.school
  schools := h'.schools ∘ h.schools
  roles := h'.roles ∘ h.roles
  udm := h'.udm ∘ h.udm

theorem grows_makeAttribute {a : Attribute} {formats : Bool} {given fromOld unset : Json → Json}
    (ha : a ∉ [.email, .name, .school, .schools, .ucsschoolRoles])
    (h : makeAttribute env a formats given fromOld unset u = some (.ok u')) : Grows u u' := by
  unfold makeAttribute at h
  split at h
  · cases h
    exact Grows.set_other ha _
  · split at h
    · cases h
    · split at h
      · cases h
        exact Grows.set_other ha _
      · cases h
        exact Grows.set_other ha _

theorem splitSchools_ne_nil (schools : String) : splitSchools env schools ≠ [] := by
  intro h
  have hperm : ((Text.strip ',' schools.toList).splitOn ',' |>.map
      (fun part => env.normalize (env.strip (String.ofList part)))).dedup = [] := by
    rw [splitSchools, sortedTexts] at h
    exact List.length_eq_zero_iff.mp (by rw [← List.length_insertionSort (· ≤ ·), h]; rfl)
  rw [List.dedup_eq_nil, List.map_eq_nil_iff] at hperm
  exact List.splitOn_ne_nil _ _ hperm

theorem grows_makeSchool (hschool : u.has .school = false) (h : makeSchool env u = .ok u') :
    Grows u u' := by
  have hset : ∀ u₁ : ImportUser, u₁.has .school = false → ∀ value,
      Grows u₁ (u₁.set .school value) := by
    intro u₁ hno value
    refine Grows.set (fun h => nomatch h) (fun _ htrue => ?_) (fun h => nomatch h)
    rw [hno] at htrue
    cases htrue
  unfold makeSchool at h
  rw [hschool] at h
  dsimp only at h
  split at h
  · cases h
    exact hset u hschool _
  · split at h
    · cases h
      exact hset u hschool _
    · next schools _ _ =>
      cases h
      have hne : truthy (.arr ((splitSchools env schools).map .str)) = true := by
        simp [truthy, splitSchools_ne_nil]
      have hschools : Grows u (u.set .schools (.arr ((splitSchools env schools).map .str))) :=
        Grows.set (fun h => nomatch h) (fun _ _ => hne) (fun h => nomatch h)
      refine hschools.trans (hset _ ?_ _)
      rw [ImportUser.has_set_of_ne (by decide), hschool]
    · cases h

theorem grows_makeSchools (h : makeSchools env u = .ok u') : Grows u u' := by
  unfold makeSchools at h
  obtain ⟨u₁, hu₁, rfl⟩ := map_eq_ok.mp h
  have hfirst : Grows u u₁ := by
    split at hu₁
    · cases hu₁
      exact Grows.refl u
    · next hschool => exact grows_makeSchool (Bool.eq_false_iff.mpr hschool) hu₁
  have hne : truthy (.arr [u₁.values .school]) = true := by simp [truthy]
  exact hfirst.trans (Grows.set (fun h => nomatch h) (fun _ _ => hne) (fun h => nomatch h))

theorem grows_makeUcsschoolRoles (hroles : u.has .ucsschoolRoles = false)
    (h : makeUcsschoolRoles env u = .ok u') : Grows u u' := by
  rw [makeUcsschoolRoles, hroles] at h
  obtain ⟨u₁, hu₁, rfl⟩ := map_eq_ok.mp h
  have hfirst : Grows u u₁ := by
    split at hu₁
    · cases hu₁
      exact Grows.refl u
    · exact grows_makeSchools hu₁
  refine ⟨?_, hfirst.username, ?_, ?_, ?_, ?_, hfirst.udm⟩
  · rw [ImportUser.set_of_ne (by decide)]
    exact hfirst.email
  · rw [ImportUser.has_set_of_ne (by decide)]
    exact hfirst.name
  · rw [ImportUser.has_set_of_ne (by decide)]
    exact hfirst.school
  · rw [ImportUser.has_set_of_ne (by decide)]
    exact hfirst.schools
  · rw [textItems_of_not_truthy hroles]
    exact fun hne => absurd rfl hne

theorem grows_makeLegal [Runtime] {a : Attribute} {exc : String → ImportExc} {maxCount : Nat}
    {many one owner : String} (ha : a ∉ [.email, .name, .school, .schools, .ucsschoolRoles])
    (h : makeLegal env a exc maxCount many one owner u = .ok u') : Grows u u' := by
  unfold makeLegal at h
  split at h
  · cases h
    exact Grows.refl _
  · split at h
    · cases h
    · obtain ⟨dns, -, rfl⟩ := map_eq_ok.mp h
      exact Grows.set_other ha _

theorem getD_of_hasUdm {q : String} (hudm : u.hasUdm q = true) :
    truthy ((u.udmProperties.find? q).getD .null) = true := by
  cases hfind : u.udmProperties.find? q with
  | none =>
    rw [ImportUser.hasUdm, hfind] at hudm
    cases hudm
  | some value =>
    rw [ImportUser.hasUdm, hfind] at hudm
    exact hudm

theorem rank_pop_email (hnull : u.values .email = .null)
    (hudm : u.hasUdm "mailPrimaryAddress" = true) :
    rank env { u.set .email ((u.udmProperties.find? "mailPrimaryAddress").getD .null) with
      udmProperties := u.udmProperties.erase "mailPrimaryAddress" } < rank env u := by
  have hvalue : (u.udmProperties.find? "mailPrimaryAddress").getD .null ≠ .null := by
    intro heq
    have htruthy := getD_of_hasUdm hudm
    rw [heq] at htruthy
    cases htruthy
  have husername : (u.udmProperties.erase "mailPrimaryAddress").find? "username" =
      u.udmProperties.find? "username" := by
    rw [Table.find?_erase, if_neg (by decide)]
  apply rank_lt
  simp only [ImportUser.hasUdm, ImportUser.set_self, husername, if_pos hnull, if_neg hvalue]
  exact Nat.add_lt_add_right Nat.zero_lt_one _

theorem has_of_unset {a : Attribute} (hunset : hasValue env u d = false)
    (hown : (provider d).own = some a) : u.has a = false := by
  simp only [hasValue, Bool.or_eq_false_iff] at hunset
  rcases provider_cases d with hmem | ⟨-, hprovider⟩
  · rcases attribute_of_provider _ hmem with heq | hfind
    · obtain rfl : d = "username" := heq
      have ha : Attribute.name = a := Option.some.inj ((by decide : some Attribute.name =
        (provider "username").own).trans hown)
      have hname := hunset.2
      rw [decide_eq_true rfl, Bool.true_and, Bool.or_eq_false_iff] at hname
      exact ha ▸ hname.1
    · have hvalue := hunset.1.1
      simp only [attributeValue, hfind.trans hown] at hvalue
      exact hvalue
  · rw [hprovider] at hown
    cases hown

/-- A method that does not format drops the rank or gives values only. -/
theorem grows_of_ready [Runtime] (hunset : hasValue env u d = false)
    (h : ready env u (provider d) = some (.ok u')) : rank env u' < rank env u ∨ Grows u u' := by
  cases hprovider : provider d with
  | makeBirthday =>
    rw [hprovider] at h
    exact .inr (grows_makeAttribute (by decide) h)
  | makeExpirationDate =>
    rw [hprovider, ready, makeExpirationDate] at h
    exact .inr (grows_makeAttribute (by decide) h)
  | makeFirstname =>
    rw [hprovider] at h
    exact .inr (grows_makeAttribute (by decide) h)
  | makeLastname =>
    rw [hprovider] at h
    exact .inr (grows_makeAttribute (by decide) h)
  | makeRecordUid =>
    rw [hprovider] at h
    exact .inr (grows_makeAttribute (by decide) h)
  | makeSchool =>
    rw [hprovider] at h
    have hschool := has_of_unset hunset (by rw [hprovider]; rfl)
    exact .inr (grows_makeSchool hschool (Option.some.inj h))
  | makeUcsschoolRoles =>
    rw [hprovider] at h
    have hroles := has_of_unset hunset (by rw [hprovider]; rfl)
    exact .inr (grows_makeUcsschoolRoles hroles (Option.some.inj h))
  | makeLegalGuardians =>
    rw [hprovider] at h
    exact .inr (grows_makeLegal (by decide) (Option.some.inj h))
  | makeLegalWards =>
    rw [hprovider] at h
    exact .inr (grows_makeLegal (by decide) (Option.some.inj h))
  | makeSourceUid =>
    rw [hprovider] at h
    have h := Option.some.inj h
    unfold makeSourceUid at h
    split at h
    · split at h
      · cases h
      · cases h
        exact .inr (Grows.refl _)
    · cases h
      exact .inr (Grows.set_other (by decide) _)
  | makeEmail =>
    rw [hprovider, ready, makeEmail] at h
    split at h
    · cases h
      exact .inr (Grows.refl _)
    · next hnull =>
      have hnull : u.values .email = .null := not_not.mp hnull
      split at h
      · next hudm =>
        cases h
        exact .inl (rank_pop_email hnull hudm)
      · split at h
        · split at h
          · cases h
          · split at h
            · cases h
            · cases h
              exact .inr (Grows.refl _)
        · split at h
          · cases h
            exact .inr (Grows.set (fun _ hne => absurd hnull hne) (fun h => absurd h (by decide))
              (fun h => nomatch h))
          · cases h
            exact .inr (Grows.refl _)
  | makeUsername =>
    have hname := has_of_unset hunset (by rw [hprovider]; rfl)
    rw [hprovider, ready, makeUsername, hname] at h
    split at h
    · cases h
      exact .inr (Grows.refl _)
    · split at h
      · next hudm =>
        cases h
        left
        apply rank_lt
        have herased : (u.udmProperties.erase "username").find? "username" = none :=
          Table.find?_erase_self _ _
        rw [hudm]
        simp only [ImportUser.hasUdm, herased, ImportUser.set_of_ne (show Attribute.email ≠ .name by
          decide), Option.any_none, Bool.false_eq_true, if_false, if_true]
        omega
      · split at h
        · split at h <;> cases h
        · split at h
          · cases h
            refine .inr (Grows.set (fun h => nomatch h) (fun _ htrue => ?_) (fun h => nomatch h))
            rw [hname] at htrue
            cases htrue
          · cases h
            exact .inr (Grows.refl _)
  | makeUdmProperty name =>
    rw [hprovider, ready, makeUdmProperty] at h
    split at h
    · cases h
      exact .inr (Grows.refl _)
    · split at h
      · cases h
      · cases h
        exact .inr (Grows.refl _)

/-- So does a method that has formatted. -/
theorem grows_of_finish [NameStorage] [Runtime] (h : finish env (provider d) u = .ok u') :
    Grows u u' := by
  obtain ⟨text, -, hassign⟩ := bind_eq_ok.mp h
  cases hprovider : provider d with
  | makeEmail =>
    rw [hprovider, assign, finishEmail] at hassign
    split at hassign
    · cases hassign
      apply Grows.counters
      exact Grows.set (fun _ _ => Json.noConfusion) (fun h => absurd h (by decide))
        (fun h => nomatch h)
    · cases hassign
  | makeUsername =>
    rw [hprovider, assign, finishUsername] at hassign
    split at hassign
    · cases hassign
    · split at hassign
      · cases hassign
      · cases hassign
        apply Grows.counters
        refine Grows.set (fun h => nomatch h) (fun _ _ => ?_) (fun h => nomatch h)
        simp [truthy]
      · cases hassign
  | makeUdmProperty name =>
    rw [hprovider] at hassign
    cases hassign
    obtain rfl := eq_of_provider_udm hprovider
    have hne : "username" ≠ name := by
      rintro rfl
      exact provider_ne_udm_username hprovider
    refine ⟨id, fun hudm => ?_, id, id, id, id, fun _ hrows => ?_⟩
    · simpa only [ImportUser.hasUdm, Table.find?_insert_ne hne] using hudm
    · have hfind := Table.find?_insert_self u.udmProperties name (.str text)
      rw [Table.find?, hrows] at hfind
      cases hfind
  | makeBirthday =>
    rw [hprovider] at hassign
    cases hassign
    exact Grows.set_other (by decide) _
  | makeExpirationDate =>
    rw [hprovider] at hassign
    cases hassign
    exact Grows.set_other (by decide) _
  | makeFirstname =>
    rw [hprovider] at hassign
    cases hassign
    exact Grows.set_other (by decide) _
  | makeLastname =>
    rw [hprovider] at hassign
    cases hassign
    exact Grows.set_other (by decide) _
  | makeRecordUid =>
    rw [hprovider] at hassign
    cases hassign
    exact Grows.set_other (by decide) _
  | _ =>
    rw [hprovider] at hassign
    cases hassign
    exact Grows.refl _

end Grows

end Importer

end Kelvin
