import Kelvin.Importer.SchemeMethods

/-!
# Formatting from schemes

Every formatting from a scheme ends. The guard finds a recursion where the schemes refer to each
other in a circle, and also where one scheme refers twice to a property that stays empty.

* `stable_of_rank`: what is locked in every run. The rank drops with the email address.
* `Regular`, `stable_of_regular`: what is locked where no property gets its value in a roundabout
  way.
* `shrinking_of_regular`: there the properties that have to be formatted only get fewer.
* `formatFromScheme_settled`: the end of a formatting.
-/

namespace Kelvin

namespace Importer

open Resolution

section Resolution

variable {env : Environment} {u u' : ImportUser} {d d' : String}

/-! ## Locked properties -/

/-- Other properties are pending while one is formatted, and a method that is called for one of them
takes the email address from the UDM properties, or formats. -/
theorem rank_of_ready_pending [Runtime] (h : Pending env u d)
    (hready : ready env u (provider d) = some (.ok u')) : rank env u' < rank env u := by
  by_cases hemail : provider d = .makeEmail
  · cases hudm : u.hasUdm "mailPrimaryAddress" with
    | true =>
      have hvacant := h.vacant
      rw [hemail] at hvacant hready
      have hnull : u.values .email = .null := hvacant
      rw [ready, makeEmail, if_neg (not_not.mpr hnull), if_pos hudm] at hready
      cases hready
      exact rank_pop_email hnull hudm
    | false =>
      rw [ready_eq_none.mpr ⟨h.writes, h.vacant, fun _ => hudm⟩] at hready
      cases hready
  · rw [ready_eq_none.mpr ⟨h.writes, h.vacant, fun heq => absurd heq hemail⟩] at hready
    cases hready

theorem pending_of_ready_none [Runtime] (hneed : need env u d = .make (provider d))
    (hready : ready env u (provider d) = none) : Pending env u d := by
  obtain ⟨hwrites, hvacant, -⟩ := ready_eq_none.mp hready
  exact ⟨(need_eq_make hneed).2, hwrites, hvacant⟩

/-- The properties that are formatted when one is. -/
def formattedProps (env : Environment) (prop : String) : Finset String :=
  insert prop (env.scheme.keys ∪ ["birthday", "expiration_date", "firstname", "lastname", "email",
    "record_uid", "username"].toFinset)

theorem target_mem {prop : String} (h : writes env (provider d) = true) :
    (provider d).target ∈ formattedProps env prop := by
  refine Finset.mem_insert_of_mem ?_
  cases hprovider : provider d with
  | makeUdmProperty name =>
    rw [hprovider] at h
    simp only [writes, schemaWriteCheck, decide_eq_true_eq] at h
    have hscheme := h.1
    unfold Environment.hasScheme at hscheme
    split at hscheme
    · next hname =>
      refine Finset.mem_union_right _ ?_
      rw [Method.target, hname]
      decide
    · obtain ⟨scheme, hfind⟩ := Option.isSome_iff_exists.mp hscheme
      exact Finset.mem_union_left _ (Table.mem_keys_of_find? hfind)
  | makeSourceUid => rw [hprovider] at h; cases h
  | makeSchool => rw [hprovider] at h; cases h
  | makeUcsschoolRoles => rw [hprovider] at h; cases h
  | makeLegalGuardians => rw [hprovider] at h; cases h
  | makeLegalWards => rw [hprovider] at h; cases h
  | _ => exact Finset.mem_union_right _ (by decide)

/-- In every state the pending properties are locked. -/
theorem stable_of_rank [NameStorage] [Runtime] (env : Environment) (prop : String) :
    Stable (schemes env) (formattedProps env prop) (fun _ => True) (rank env) (Pending env)
      provider where
  make _ _ hneed := (need_eq_make hneed).1
  inside _ _ _ _ hready := target_mem (ready_eq_none.mp hready).1
  lock _ _ _ hneed hready := pending_of_ready_none hneed hready
  need_ne h heq := by
    have hmake := h.need.symm.trans heq
    cases hmake
  ready_ne h hready := rank_of_ready_pending h hready
  done {p d u u'} _ _ _ hneed hready := by
    refine ⟨trivial, ?_⟩
    rcases grows_of_ready (need_eq_make hneed).2 hready with hdrop | hgrows
    · exact ⟨hdrop.le, .inl hdrop⟩
    · obtain ⟨hle, hcases⟩ := hgrows.rank
      by_cases hdrop : rank env u' < rank env u
      · exact ⟨hle, .inl hdrop⟩
      · refine ⟨hle, .inr fun d' h => ?_⟩
        refine h.of_frame (frame_of_ready hready) (fun heq => ?_) (hcases.resolve_left hdrop d')
        exact hdrop (rank_of_ready_pending h (heq ▸ hready))
  finish {p d u u'} _ _ _ hfinish := by
    obtain ⟨hle, hcases⟩ := (grows_of_finish hfinish).rank
    refine ⟨trivial, hle, hcases.imp_right fun hderived d' h hne => ?_⟩
    exact h.of_frame (frame_of_finish hfinish) hne (hderived d')

/-! ## Termination -/

/-- The pairs of a property and a reference of its scheme. -/
def references [NameStorage] [Runtime] (env : Environment) (prop : String) :
    Finset (String × String) :=
  (formattedProps env prop).biUnion (fun p => (((schemes env).deps p).map (Prod.mk p)).toFinset)

/-- So many schemes are formatted inside each other at most. -/
def maxDepth [NameStorage] [Runtime] (env : Environment) (prop : String) : ℕ :=
  18 * ((references env prop).card + 1)

theorem rank_le (env : Environment) (u : ImportUser) : rank env u ≤ 17 := by
  have hfive := @List.countP_le_length _ (fun name => !attributeValue env u name) derivedNames
  have hlength : derivedNames.length = 5 := rfl
  have hemail : (if u.values .email = .null then 1 else 0) ≤ 1 := by split <;> omega
  have husername : (if u.hasUdm "username" then 1 else 0) ≤ 1 := by split <;> omega
  unfold rank
  omega

theorem solve_ne_outOfFuel [NameStorage] [Runtime] {prop : String} {n : ℕ}
    {usedMethods : String → List Method} (hn : maxDepth env prop ≤ n) :
    solveFormatDependencies env n prop u usedMethods ≠ .error .outOfFuel := by
  have hreferences : ∀ p ∈ (formattedProps env prop : Set String), ∀ d ∈ (schemes env).deps p,
      (p, d) ∈ references env prop := by
    intro p hp d hd
    refine Finset.mem_biUnion.mpr ⟨p, hp, List.mem_toFinset.mpr ?_⟩
    exact List.mem_map.mpr ⟨d, hd, rfl⟩
  refine run_ne_outOfFuel (stable_of_rank env prop) hreferences (Finset.mem_insert_self _ _) trivial
    (Finset.empty_subset _) ?_ ?_ ?_
  · rw [Finset.coe_empty]
    exact Blocked.empty
  · exact fun b hb => absurd hb (Finset.notMem_empty b)
  · have hrank := Nat.mul_le_mul_right ((references env prop).card + 1) (rank_le env u)
    unfold maxDepth at hn
    omega

/-! ## Regular formattings -/

/-- A scheme refers to a property that another one is for. -/
def Refers [NameStorage] [Runtime] (env : Environment) (p q : String) : Prop :=
  ∃ d ∈ (schemes env).deps p, (provider d).target = q

/-- The schemes that the property leads to refer to the property. -/
def Mentions [NameStorage] [Runtime] (env : Environment) (prop d : String) : Prop :=
  ∃ p, Relation.ReflTransGen (Refers env) prop p ∧ d ∈ (schemes env).deps p

/-- The email address is set, or `mailPrimaryAddress` is not referred to. -/
def Address [NameStorage] [Runtime] (env : Environment) (prop : String) (u : ImportUser) : Prop :=
  u.values .email ≠ .null ∨ ¬ Mentions env prop "mailPrimaryAddress"

/-- No property gets its value in a roundabout way: not the email address, and the attributes that
are computed have no schemes. -/
structure Regular [NameStorage] [Runtime] (env : Environment) (prop : String) (u : ImportUser) :
    Prop where
  address : Address env prop u
  derived : ∀ d ∈ derivedNames, Mentions env prop d → env.hasScheme d = false

/-- A pending property whose method formats. -/
structure Formatting [NameStorage] [Runtime] (env : Environment) (prop : String) (u : ImportUser)
    (d : String) : Prop where
  mentioned : Mentions env prop d
  pending : Pending env u d
  address : provider d = .makeEmail → u.hasUdm "mailPrimaryAddress" = false

variable {prop : String}

theorem Formatting.ready [NameStorage] [Runtime] (h : Formatting env prop u d) :
    ready env u (provider d) = none :=
  ready_eq_none.mpr ⟨h.pending.writes, h.pending.vacant, h.address⟩

theorem formatting_of_ready_none [NameStorage] [Runtime] (hd : Mentions env prop d)
    (hneed : need env u d = .make (provider d))
    (hready : Importer.ready env u (provider d) = none) : Formatting env prop u d :=
  ⟨hd, pending_of_ready_none hneed hready, (ready_eq_none.mp hready).2.2⟩

/-- A property that is computed does not have to be formatted. -/
theorem Formatting.not_derived [NameStorage] [Runtime]
    (hderived : ∀ d ∈ derivedNames, Mentions env prop d → env.hasScheme d = false)
    (h : Formatting env prop u d) : d ∉ derivedNames := by
  intro hd
  have hscheme := hderived d hd h.mentioned
  have hwrites := h.pending.writes
  have hprovider : ∀ name ∈ derivedNames, provider name = .makeUdmProperty name := by
    decide
  rw [hprovider d hd] at hwrites
  simp only [writes, schemaWriteCheck, decide_eq_true_eq] at hwrites
  exact absurd hwrites.1 (by rw [hscheme]; exact Bool.false_ne_true)

/-- A method that is not for the email address leaves it. -/
theorem email_of_frame (hframe : Frame (provider d) u u') (hne : provider d ≠ .makeEmail) :
    u'.values .email = u.values .email :=
  hframe.values .email (by decide) fun hown => hne (Method.own_injective hown rfl)

theorem ready_of_email [Runtime] (hemail : u.values .email ≠ .null)
    (h : Importer.ready env u .makeEmail = some (.ok u')) : u' = u := by
  rw [Importer.ready, makeEmail, if_pos hemail] at h
  cases h
  rfl

/-- Where the email address is set, it stays. -/
theorem address_of_ready [NameStorage] [Runtime]
    (h : Address env prop u) (hready : Importer.ready env u (provider d) = some (.ok u')) :
    Address env prop u' := by
  refine h.imp_left fun hemail => ?_
  by_cases hne : provider d = .makeEmail
  · rw [hne] at hready
    rwa [ready_of_email hemail hready]
  · rwa [email_of_frame (frame_of_ready hready) hne]

/-- Where a property mentioned makes `mailPrimaryAddress`, the email address is set. -/
theorem email_of_makes_address [NameStorage] [Runtime]
    (h : Address env prop u) (hd : Mentions env prop d)
    (hprovider : provider d = .makeUdmProperty "mailPrimaryAddress") : u.values .email ≠ .null := by
  obtain rfl := eq_of_provider_udm hprovider
  exact h.resolve_right (not_not.mpr hd)

/-- Another method leaves a property to be formatted. -/
theorem Formatting.of_frame [NameStorage] [Runtime]
    (haddress : Address env prop u)
    (hderived : ∀ d ∈ derivedNames, Mentions env prop d → env.hasScheme d = false)
    (hd' : Mentions env prop d') (hframe : Frame (provider d') u u')
    (hne : provider d ≠ provider d') (h : Formatting env prop u d) : Formatting env prop u' d := by
  refine ⟨h.mentioned, ?_, fun hemail => ?_⟩
  · exact h.pending.of_frame hframe hne fun hd => absurd hd (h.not_derived hderived)
  · have hvacant := h.pending.vacant
    rw [hemail] at hvacant
    rw [ImportUser.hasUdm, hframe.absent _ (fun heq => ?_) (h.address hemail)]
    · exact h.address hemail
    · exact email_of_makes_address haddress hd' heq hvacant

/-- What has to be formatted after another method had to be before. -/
theorem Formatting.of_frame_after [NameStorage] [Runtime]
    (haddress : Address env prop u)
    (hderived : ∀ d ∈ derivedNames, Mentions env prop d → env.hasScheme d = false)
    (hd' : Mentions env prop d') (hframe : Frame (provider d') u u')
    (hne : provider d ≠ provider d')
    (hemail : provider d' = .makeEmail → u.values .email = .null)
    (h : Formatting env prop u' d) : Formatting env prop u d := by
  refine ⟨h.mentioned, ?_, fun hmake => ?_⟩
  · refine h.pending.of_frame_after hframe hne (fun hmake heq => ?_) (h.not_derived hderived)
    rcases haddress with hset | hno
    · exact hset (hemail hmake)
    · exact hno (heq ▸ h.mentioned)
  · have hvacant := h.pending.vacant
    rw [hmake] at hvacant
    have hother : provider d' ≠ .makeEmail := fun heq => hne (hmake.trans heq.symm)
    have hnull : u.values .email = .null := (email_of_frame hframe hother).symm.trans hvacant
    have hfind := hframe.udm "mailPrimaryAddress" fun hkey => by
      cases hprovider : provider d' with
      | makeEmail => exact hother hprovider
      | makeUsername =>
        rw [hprovider] at hkey
        exact absurd (Option.some.inj hkey) (by decide)
      | makeUdmProperty q =>
        rw [hprovider] at hkey
        obtain rfl := Option.some.inj hkey
        exact email_of_makes_address haddress hd' hprovider hnull
      | _ => rw [hprovider] at hkey; cases hkey
    rw [ImportUser.hasUdm, ← hfind]
    exact h.address hmake

/-- Where no property gets its value in a roundabout way, the properties to be formatted are
locked. -/
theorem stable_of_regular [NameStorage] [Runtime]
    (hderived : ∀ d ∈ derivedNames, Mentions env prop d → env.hasScheme d = false) :
    Stable (schemes env) {p | Relation.ReflTransGen (Refers env) prop p} (Address env prop)
      (fun _ => 0) (Formatting env prop) provider where
  make _ _ hneed := (need_eq_make hneed).1
  inside hp hd _ _ _ := hp.tail ⟨_, hd, rfl⟩
  lock hp hd _ hneed hready := formatting_of_ready_none ⟨_, hp, hd⟩ hneed hready
  need_ne h heq := by
    have hmake := h.pending.need.symm.trans heq
    cases hmake
  ready_ne h hready := by
    have hnone := h.ready.symm.trans hready
    cases hnone
  done {p d u u'} hp hd haddress _ hready := by
    refine ⟨address_of_ready haddress hready, le_refl _, .inr fun d' h => ?_⟩
    refine h.of_frame haddress hderived ⟨p, hp, hd⟩ (frame_of_ready hready) fun heq => ?_
    have hnone := h.ready.symm.trans (heq ▸ hready)
    cases hnone
  finish {p d u u'} hp hd haddress hfinish := by
    refine ⟨haddress.imp_left (grows_of_finish hfinish).email, le_refl _, .inr fun d' h hne => ?_⟩
    exact h.of_frame haddress hderived ⟨p, hp, hd⟩ (frame_of_finish hfinish) hne

/-- A method that did not format does not format afterwards. -/
theorem ready_ne_none_after [Runtime] (hunset : hasValue env u d = false)
    (hready : ready env u (provider d) = some (.ok u')) : ready env u' (provider d) ≠ none := by
  intro hnone
  obtain ⟨hwrites, hvacant, -⟩ := ready_eq_none.mp hnone
  have hbefore : Vacant u (provider d) → (provider d = .makeEmail →
      u.hasUdm "mailPrimaryAddress" = false) → False := by
    intro hvacant haddress
    rw [ready_eq_none.mpr ⟨hwrites, hvacant, haddress⟩] at hready
    cases hready
  cases hprovider : provider d with
  | makeEmail =>
    rw [hprovider] at hready hvacant hbefore
    by_cases hnull : u.values .email = .null
    · cases hudm : u.hasUdm "mailPrimaryAddress" with
      | false => exact hbefore hnull fun _ => hudm
      | true =>
        rw [ready, makeEmail, if_neg (not_not.mpr hnull), if_pos hudm] at hready
        cases hready
        have htruthy := getD_of_hasUdm hudm
        have hvalue : (u.udmProperties.find? "mailPrimaryAddress").getD .null = .null := hvacant
        rw [hvalue] at htruthy
        cases htruthy
    · obtain rfl := ready_of_email hnull hready
      exact hnull hvacant
  | makeUsername =>
    have hname := has_of_unset hunset (by rw [hprovider]; rfl)
    rw [hprovider] at hready hvacant hbefore
    cases hudm : u.hasUdm "username" with
    | false => exact hbefore ⟨hname, hudm⟩ fun heq => absurd heq (by decide)
    | true =>
      rw [ready, makeUsername, if_neg (by rw [hname]; exact Bool.false_ne_true), if_pos hudm]
        at hready
      cases hready
      have htruthy := getD_of_hasUdm hudm
      have hfalse : truthy ((u.udmProperties.find? "username").getD .null) = false := hvacant.1
      rw [hfalse] at htruthy
      cases htruthy
  | makeUdmProperty name =>
    rw [hprovider] at hready hvacant hbefore
    cases hfind : u.udmProperties.find? name with
    | none => exact hbefore hfind fun heq => Method.noConfusion heq
    | some value =>
      rw [ready, makeUdmProperty, hfind] at hready
      cases hready
      have hnone : u.udmProperties.find? name = none := hvacant
      rw [hfind] at hnone
      cases hnone
  | makeBirthday =>
    rw [hprovider] at hbefore
    exact hbefore (has_of_unset hunset (by rw [hprovider]; rfl)) fun heq => absurd heq (by decide)
  | makeExpirationDate =>
    rw [hprovider] at hbefore
    exact hbefore (has_of_unset hunset (by rw [hprovider]; rfl)) fun heq => absurd heq (by decide)
  | makeFirstname =>
    rw [hprovider] at hbefore
    exact hbefore (has_of_unset hunset (by rw [hprovider]; rfl)) fun heq => absurd heq (by decide)
  | makeLastname =>
    rw [hprovider] at hbefore
    exact hbefore (has_of_unset hunset (by rw [hprovider]; rfl)) fun heq => absurd heq (by decide)
  | makeRecordUid =>
    rw [hprovider] at hbefore
    exact hbefore (has_of_unset hunset (by rw [hprovider]; rfl)) fun heq => absurd heq (by decide)
  | _ =>
    rw [hprovider] at hbefore
    exact hbefore trivial fun heq => absurd heq (by decide)

theorem provider_injective (h : provider d = provider d') :
    d = d' ∨ provider d = .makeUsername := by
  have htable : ∀ e ∈ propProviders, ∀ e' ∈ propProviders, e.2 = e'.2 →
      e.1 = e'.1 ∨ e.2 = .makeUsername := by
    decide
  rcases provider_cases d with hd | ⟨-, hd⟩
  · rcases provider_cases d' with hd' | ⟨-, hd'⟩
    · exact htable _ hd _ hd' h
    · exact .inl (eq_of_provider_udm (h.trans hd')).symm
  · exact .inl (eq_of_provider_udm (h.symm.trans hd))

theorem has_name_of_finish [NameStorage] [Runtime] (h : finish env .makeUsername u = .ok u') :
    u'.has .name = true := by
  obtain ⟨text, -, hassign⟩ := bind_eq_ok.mp h
  rw [assign, finishUsername] at hassign
  split at hassign
  · cases hassign
  · split at hassign
    · cases hassign
    · cases hassign
      simp [ImportUser.has, truthy]
    · cases hassign

theorem shrinking_of_regular [NameStorage] [Runtime]
    (hderived : ∀ d ∈ derivedNames, Mentions env prop d → env.hasScheme d = false) :
    Shrinking (schemes env) {p | Relation.ReflTransGen (Refers env) prop p} (Address env prop)
      (Formatting env prop) provider where
  done {p d u u' q r} hp hd haddress hneed hready hq := by
    rintro ⟨d', hd', m, hneed', hready', rfl⟩
    obtain rfl := (need_eq_make hneed').1
    have hformatting := formatting_of_ready_none ⟨q, hq, hd'⟩ hneed' hready'
    have hbefore : Formatting env prop u d' := by
      by_cases hne : provider d' = provider d
      · exact absurd (hne ▸ hready') (ready_ne_none_after (need_eq_make hneed).2 hready)
      · by_cases hsame : u' = u
        · exact hsame ▸ hformatting
        · refine hformatting.of_frame_after haddress hderived ⟨p, hp, hd⟩ (frame_of_ready hready)
            hne fun hmake => ?_
          by_contra hset
          exact hsame (ready_of_email hset (hmake ▸ hready))
    exact ⟨d', hd', _, hbefore.pending.need, hbefore.ready, rfl⟩
  finish {p d u u' q r} hp hd haddress hlocked hfinish hq := by
    rintro ⟨d', hd', m, hneed', hready', rfl⟩
    obtain rfl := (need_eq_make hneed').1
    have hformatting := formatting_of_ready_none ⟨q, hq, hd'⟩ hneed' hready'
    have hbefore : Formatting env prop u d' := by
      by_cases hne : provider d' = provider d
      · rcases provider_injective hne.symm with rfl | husername
        · exact hlocked
        · have hvacant := hformatting.pending.vacant
          rw [hne, husername] at hvacant
          rw [husername] at hfinish
          have hname := hvacant.1
          rw [has_name_of_finish hfinish] at hname
          cases hname
      · refine hformatting.of_frame_after haddress hderived ⟨p, hp, hd⟩ (frame_of_finish hfinish)
          hne fun hmake => ?_
        have hvacant := hlocked.pending.vacant
        rwa [hmake] at hvacant
    exact ⟨d', hd', _, hbefore.pending.need, hbefore.ready, rfl⟩

/-! ## The end of a formatting -/

/-- A formatting ends in one way, however deep it may go. -/
theorem formatFromScheme_stable [NameStorage] [Runtime] (env : Environment) (prop : String)
    (u : ImportUser) (usedMethods : String → List Method) {n : ℕ} (hn : maxDepth env prop ≤ n) :
    formatFromScheme env n prop u usedMethods =
      formatFromScheme env (maxDepth env prop) prop u usedMethods := by
  have hrun := run_of_le (solve_ne_outOfFuel (le_refl (maxDepth env prop)) :
    solveFormatDependencies env _ prop u usedMethods ≠ _) hn
  unfold formatFromScheme
  exact congrArg (· >>= _) hrun

theorem formatFromScheme_eq_ok [NameStorage] [Runtime] {n : ℕ}
    {usedMethods : String → List Method} {text : String}
    (h : formatFromScheme env n prop u usedMethods = .ok (text, u')) :
    ∃ used, Solved (schemes env) prop ((schemes env).deps prop) u usedMethods u' used ∧
      env.replace prop (schemeOf env prop) u' = .ok text := by
  obtain ⟨⟨u₁, used⟩, hsolve, hrest⟩ := bind_eq_ok.mp h
  obtain ⟨text', hreplace, heq⟩ := bind_eq_ok.mp hrest
  cases heq
  exact ⟨used, solved_of_run hsolve, raising_eq_ok.mp hreplace⟩

/-- The formatting stops where the properties are made, unless the text raises. -/
theorem formatFromScheme_error [NameStorage] [Runtime] {n : ℕ}
    {usedMethods : String → List Method} {stop : Stop String ImportExc}
    (h : formatFromScheme env n prop u usedMethods = .error stop) :
    solveFormatDependencies env n prop u usedMethods = .error stop ∨ ∃ e, stop = .raised e := by
  unfold formatFromScheme at h
  cases hsolve : solveFormatDependencies env n prop u usedMethods with
  | error stop' =>
    rw [hsolve] at h
    cases h
    exact .inl rfl
  | ok solved =>
    rw [hsolve] at h
    cases hreplace : env.replace prop (schemeOf env prop) solved.1 with
    | ok text =>
      change (raising (env.replace prop (schemeOf env prop) solved.1) >>= _) = _ at h
      rw [hreplace] at h
      cases h
    | error e =>
      change (raising (env.replace prop (schemeOf env prop) solved.1) >>= _) = _ at h
      rw [hreplace] at h
      cases h
      exact .inr ⟨e, rfl⟩

/-- Every formatting ends. A text is made from properties that were made before. A cycle is never
passed, and a recursion is found only at a cycle or a scheme that refers twice to what one method
makes. -/
theorem formatFromScheme_settled [NameStorage] [Runtime] (env : Environment) (prop : String)
    (u : ImportUser) (usedMethods : String → List Method) :
    ∃ r, (∀ n, maxDepth env prop ≤ n → formatFromScheme env n prop u usedMethods = r) ∧
      r ≠ .error .outOfFuel ∧
      (∀ text u', r = .ok (text, u') → Resolved (schemes env) ((schemes env).deps prop) u u' ∧
        env.replace prop (schemeOf env prop) u' = .ok text) ∧
      (Regular env prop u → Cyclic ((schemes env).Edge u) prop → ∀ text u', r ≠ .ok (text, u')) ∧
      (Regular env prop u → (∀ q, usedMethods q = []) → ∀ q, r = .error (.recursion q) →
        Cyclic ((schemes env).Edge u) prop ∨
          Repeats (schemes env) provider ((schemes env).Edge u) prop) := by
  refine ⟨_, fun n hn => formatFromScheme_stable env prop u usedMethods hn, ?_, ?_, ?_, ?_⟩
  · intro h
    rcases formatFromScheme_error h with hsolve | ⟨e, he⟩
    · exact solve_ne_outOfFuel (le_refl _) hsolve
    · cases he
  · intro text u' h
    obtain ⟨used, hsolved, hreplace⟩ := formatFromScheme_eq_ok h
    exact ⟨hsolved.resolved, hreplace⟩
  · intro hregular hcyclic text u' h
    obtain ⟨used, hsolved, -⟩ := formatFromScheme_eq_ok h
    exact not_solved_of_cyclic (stable_of_regular hregular.derived) .refl hregular.address hcyclic
      hsolved
  · intro hregular hused q h
    rcases formatFromScheme_error h with hsolve | ⟨e, he⟩
    · refine cycle_of_recursion (stable_of_regular hregular.derived)
        (shrinking_of_regular hregular.derived) .refl hregular.address (fun _ _ _ => id)
        (fun k hk => absurd hk (Set.notMem_empty k)) (fun p hp => absurd (hused p) hp) hsolve
    · cases he

end Resolution

section Concrete

attribute [local instance] asciiRuntime memoryStorage

/-- A configuration for a new user. -/
def newUserEnvironment (scheme : Table String String) : Environment where
  scheme := scheme
  usernameSchemes := none
  roleString := "teacher"
  defaultRoles := ["teacher"]
  configSourceUid := "Kelvin"
  skipsGlobalSourceUid := false
  configSchool := ""
  normalizesFirstname := false
  normalizesLastname := false
  maildomain := some "example.com"
  emailMandatory := false
  allowedSpecialChars := ['.']
  usernameMaxLength := 20
  noOverwrite := []
  oldUser := none
  hasOldDn := false
  hasPosition := false
  otherAttribute _ := false
  ldapMapping := id
  searchDn _ := []
  strip := id
  normalize := id
  parseDate _ := none
  replace _ _ _ := .ok "a@example.com"

def nobody : ImportUser where
  values _ := .null
  udmProperties := .empty
  counters _ := none

def addressed : ImportUser where
  values := Function.update (fun _ => .null) .email (.str "a@example.com")
  udmProperties := .empty
  counters _ := none

/-- A cycle is not reported where another reference has no provider, or where the email address is
made on the way. A reference that is made twice is reported as a recursion. -/
theorem other_errors_and_repetitions :
    (∃ env u n prop e, Cyclic ((schemes env).Edge u) prop ∧
      formatFromScheme env n prop u (fun _ => []) = .error (.raised e)) ∧
    (∃ env u n prop text u', Cyclic ((schemes env).Edge u) prop ∧
      formatFromScheme env n prop u (fun _ => []) = .ok (text, u')) ∧
    (∃ env u n prop, ¬ Cyclic ((schemes env).Edge u) prop ∧
      formatFromScheme env n prop u (fun _ => []) = .error (.recursion prop)) := by
  refine ⟨?_, ?_, ?_⟩
  · let env := newUserEnvironment (Table.empty.insert "lastname" "<nickname><lastname>")
    have hdeps : (schemes env).deps "lastname" = ["nickname", "lastname"] := by decide
    refine ⟨env, nobody, 1, "lastname", noProvider env "lastname" "nickname", ?_, ?_⟩
    · refine ⟨"lastname", .refl, .single ⟨"lastname", ?_, .makeLastname, rfl, rfl, rfl⟩⟩
      rw [hdeps]
      exact List.mem_cons_of_mem _ (List.mem_cons_self ..)
    · unfold formatFromScheme solveFormatDependencies System.run
      rw [hdeps]
      rfl
  · let env := newUserEnvironment ((Table.empty.insert "email" "<mailPrimaryAddress><email>").insert
      "mailPrimaryAddress" "a@example.com")
    have hdeps : (schemes env).deps "email" = ["mailPrimaryAddress", "email"] := by decide
    have hnone : (schemes env).deps "mailPrimaryAddress" = [] := by decide
    obtain ⟨used, hmade⟩ : ∃ used, solveFormatDependencies env 2 "email" nobody (fun _ => []) =
        .ok (addressed, used) := by
      unfold solveFormatDependencies
      have hrun : ∀ u used, (schemes env).run 1 "mailPrimaryAddress" u used =
          .ok (u, Function.update used "mailPrimaryAddress" []) := by
        intro u used
        rw [System.run, hnone]
        rfl
      have hcall : ∀ used, (schemes env).call ((schemes env).run 1)
          (.makeUdmProperty "mailPrimaryAddress") nobody used = .ok ({ nobody with
            udmProperties := Table.empty.insert "mailPrimaryAddress" (.str "a@example.com") },
            Function.update used "mailPrimaryAddress" []) := by
        intro used
        unfold System.call
        change (schemes env).run 1 "mailPrimaryAddress" nobody used >>= _ = _
        rw [hrun]
        rfl
      rw [System.run, hdeps]
      refine ⟨Function.update (note (Function.update (note (fun _ => []) "email"
        (.makeUdmProperty "mailPrimaryAddress")) "mailPrimaryAddress" []) "email" .makeEmail)
        "email" [], ?_⟩
      change (schemes env).call ((schemes env).run 1) (.makeUdmProperty "mailPrimaryAddress")
        nobody _ >>= _ = _
      rw [hcall]
      rfl
    refine ⟨env, nobody, 2, "email", "a@example.com", addressed, ?_, ?_⟩
    · refine ⟨"email", .refl, .single ⟨"email", ?_, .makeEmail, rfl, rfl, rfl⟩⟩
      rw [hdeps]
      exact List.mem_cons_of_mem _ (List.mem_cons_self ..)
    · unfold formatFromScheme
      rw [hmade]
      rfl
  · let env := newUserEnvironment (Table.empty.insert "email" "<lastname><lastname>")
    have hdeps : (schemes env).deps "email" = ["lastname", "lastname"] := by decide
    refine ⟨env, nobody, 1, "email", ?_, ?_⟩
    · rintro ⟨q, hpath, hcycle⟩
      have hedge : ∀ q, ¬ (schemes env).Edge nobody "email" q := by
        rintro q ⟨d, hd, m, hneed, hready, -⟩
        rw [hdeps] at hd
        obtain rfl : d = "lastname" := by simpa using hd
        have hmake : need env nobody "lastname" = .make m := hneed
        obtain rfl := (need_eq_make hmake).1
        cases hready
      obtain rfl : "email" = q := by
        rcases hpath.cases_head with heq | ⟨r, hr, -⟩
        · exact heq
        · exact absurd hr (hedge r)
      obtain ⟨r, hr, -⟩ := Relation.TransGen.head'_iff.mp hcycle
      exact hedge r hr
    · unfold formatFromScheme solveFormatDependencies System.run
      rw [hdeps]
      rfl

end Concrete

end Importer

end Kelvin
