import Kelvin.Api.RoleRequests
import Kelvin.Lib.RoleParsers

/-!
# The validation of role strings

The model of a `POST` or `PUT` reads every role string of the request, but an unknown role ends the
loop. The model of a `PATCH` reads none. The handlers read them all, and fail where one does not
have three parts.

* `RoleRequest.validates`: what the model of a request says about the role strings.
* `validateUcsschoolRoles_eq_true_iff`: the lists that the loop accepts.
* `validationComplete_iff`: when the model finds every string that does not have three parts.
* `given_of_accepted`: no request succeeds with such a string.
-/

namespace Kelvin

/-- The model of the request accepts its role strings. That of a `PATCH` has no check for them. -/
def RoleRequest.validates : RoleRequest → Bool
  | .post _ req => validateUcsschoolRoles req.ucsschoolRoles
  | .put req _ => validateUcsschoolRoles req.ucsschoolRoles
  | .patch _ _ => true

/-- The role strings of the request. -/
def RoleRequest.given (request : RoleRequest) : List String := request.texts.getD []

/-- A text has three parts. -/
def HasThreeParts (text : String) : Prop :=
  ∃ role contextType context, splitThree text = some (role, contextType, context)

theorem hasThreeParts_iff {text : String} : HasThreeParts text ↔ splitThree text ≠ none := by
  cases h : splitThree text with
  | none => simp [HasThreeParts, h]
  | some parts =>
    obtain ⟨role, contextType, context⟩ := parts
    simp [HasThreeParts, h]

theorem getRoleInfo_eq_invalid {text : String} :
    getRoleInfo text = .error .invalidUcsschoolRoleString ↔ ¬ HasThreeParts text := by
  rw [hasThreeParts_iff, not_not]
  unfold getRoleInfo
  split
  · next h => simp [h]
  · next h =>
    simp only [h, reduceCtorEq, iff_false]
    split <;> simp

theorem isSchoolRoleString_ne_none {text : String} :
    isSchoolRoleString text ≠ none ↔ HasThreeParts text := by
  rw [← not_iff_not, not_not, ← getRoleInfo_eq_invalid]
  unfold isSchoolRoleString
  split
  · next h => simp [h]
  · next h => simp [h]
  · next h => simp [h]

theorem hasThreeParts_of_ne_invalid {text : String}
    (h : getRoleInfo text ≠ .error .invalidUcsschoolRoleString) : HasThreeParts text :=
  not_not.mp (fun hnot => h (getRoleInfo_eq_invalid.mpr hnot))

/-- A text without three parts comes after an unknown role, and none comes before. -/
def HidesMalformed (texts : List String) : Prop :=
  ∃ before text after, texts = before ++ text :: after ∧ (∀ t ∈ before, HasThreeParts t) ∧
    getRoleInfo text = .error .unknownRole ∧ ∃ t ∈ after, ¬ HasThreeParts t

theorem hidesMalformed_cons {text : String} {texts : List String} :
    HidesMalformed (text :: texts) ↔
      getRoleInfo text = .error .unknownRole ∧ (∃ t ∈ texts, ¬ HasThreeParts t) ∨
        HasThreeParts text ∧ HidesMalformed texts := by
  constructor
  · rintro ⟨before, text', after, heq, hbefore, hunknown, hafter⟩
    cases before with
    | nil =>
      obtain ⟨rfl, rfl⟩ := List.cons.inj heq
      exact .inl ⟨hunknown, hafter⟩
    | cons first before =>
      obtain ⟨rfl, rfl⟩ := List.cons.inj heq
      have hrest : ∀ t ∈ before, HasThreeParts t :=
        fun t ht => hbefore t (List.mem_cons_of_mem _ ht)
      exact .inr ⟨hbefore _ List.mem_cons_self, before, text', after, rfl, hrest, hunknown, hafter⟩
  · rintro (⟨hunknown, hafter⟩ | ⟨hthree, before, text', after, rfl, hbefore, hunknown, hafter⟩)
    · exact ⟨[], text, texts, rfl, fun t ht => absurd ht List.not_mem_nil, hunknown, hafter⟩
    · refine ⟨text :: before, text', after, rfl, ?_, hunknown, hafter⟩
      intro t ht
      rcases List.mem_cons.mp ht with rfl | ht
      · exact hthree
      · exact hbefore t ht

/-- The loop accepts a list if all texts have three parts, or if an unknown role comes before the
first text that has not. -/
theorem validateUcsschoolRoles_eq_true_iff {texts : List String} :
    validateUcsschoolRoles texts = true ↔
      (∀ text ∈ texts, HasThreeParts text) ∨ HidesMalformed texts := by
  induction texts with
  | nil => simp [validateUcsschoolRoles]
  | cons text texts ih =>
    rw [List.forall_mem_cons, hidesMalformed_cons]
    cases h : getRoleInfo text with
    | ok info =>
      have hthree : HasThreeParts text := hasThreeParts_of_ne_invalid (by rw [h]; simp)
      simp only [validateUcsschoolRoles, h, ih, hthree, true_and, reduceCtorEq, false_and, false_or]
    | error e =>
      cases e with
      | unknownRole =>
        have hthree : HasThreeParts text := hasThreeParts_of_ne_invalid (by rw [h]; simp)
        simp only [validateUcsschoolRoles, h, hthree, true_and, true_iff]
        by_cases hall : ∀ t ∈ texts, HasThreeParts t
        · exact .inl hall
        · push Not at hall
          exact .inr (.inl hall)
      | invalidUcsschoolRoleString =>
        have hnot : ¬ HasThreeParts text := getRoleInfo_eq_invalid.mp h
        simp [validateUcsschoolRoles, h, hnot]

/-! ## Requests -/

/-- The model accepts the role strings that have three parts, and no reader of an accepted one
raises `InvalidUcsschoolRoleString`. -/
structure RoleRequest.ValidationComplete (request : RoleRequest) : Prop where
  accepts_iff : request.validates = true ↔ ∀ text ∈ request.given, HasThreeParts text
  readable : request.validates = true → ∀ text ∈ request.given, isSchoolRoleString text ≠ none

/-- No text without three parts is overlooked: in a `POST` or `PUT` none comes after an unknown
role, but for an earlier one, and in a `PATCH` there is none. -/
def RoleRequest.NoneOverlooked : RoleRequest → Prop
  | .post _ req => ¬ HidesMalformed req.ucsschoolRoles
  | .put req _ => ¬ HidesMalformed req.ucsschoolRoles
  | .patch req _ => ∀ texts ∈ req.ucsschoolRoles, ∀ text ∈ texts, HasThreeParts text

theorem HidesMalformed.exists_malformed {texts : List String} (h : HidesMalformed texts) :
    ∃ text ∈ texts, ¬ HasThreeParts text := by
  obtain ⟨before, text, after, rfl, -, -, t, ht, hnot⟩ := h
  exact ⟨t, List.mem_append_right _ (List.mem_cons_of_mem _ ht), hnot⟩

theorem validateUcsschoolRoles_complete_iff {texts : List String} :
    (validateUcsschoolRoles texts = true ↔ ∀ text ∈ texts, HasThreeParts text) ↔
      ¬ HidesMalformed texts := by
  rw [validateUcsschoolRoles_eq_true_iff]
  constructor
  · intro h hhides
    obtain ⟨text, htext, hnot⟩ := hhides.exists_malformed
    exact hnot (h.mp (.inr hhides) text htext)
  · intro hnone
    exact or_iff_left hnone

/-- The model of a request finds every text without three parts if and only if none is
overlooked. -/
theorem validationComplete_iff (request : RoleRequest) :
    request.ValidationComplete ↔ request.NoneOverlooked := by
  have haccepts : request.ValidationComplete ↔
      (request.validates = true ↔ ∀ text ∈ request.given, HasThreeParts text) := by
    constructor
    · exact RoleRequest.ValidationComplete.accepts_iff
    · intro h
      refine ⟨h, fun hvalid text htext => ?_⟩
      exact isSchoolRoleString_ne_none.mpr (h.mp hvalid text htext)
  rw [haccepts]
  cases request with
  | post ctx req => exact validateUcsschoolRoles_complete_iff
  | put req u => exact validateUcsschoolRoles_complete_iff
  | patch req u =>
    cases hroles : req.ucsschoolRoles with
    | none => simp [RoleRequest.validates, RoleRequest.given, RoleRequest.texts,
        RoleRequest.NoneOverlooked, hroles]
    | some texts => simp [RoleRequest.validates, RoleRequest.given, RoleRequest.texts,
        RoleRequest.NoneOverlooked, hroles]

/-! ## The handlers -/

theorem roleStringsValid_iff {texts : List String} :
    roleStringsValid texts = true ↔ ∀ text ∈ texts, HasThreeParts text := by
  simp only [roleStringsValid, List.all_eq_true, Option.isSome_iff_ne_none,
    isSchoolRoleString_ne_none]

/-- A request that succeeds gave role strings of three parts only: the handlers read those that the
model has overlooked. -/
theorem given_of_accepted [Runtime] {dir : Directory} {request : RoleRequest} {roles : List String}
    (h : request.Accepted dir roles) : ∀ text ∈ request.given, HasThreeParts text := by
  cases request with
  | post ctx req =>
    obtain ⟨new, hnew, -⟩ := h
    unfold createUser at hnew
    simp only [require_bind_eq_ok] at hnew
    exact roleStringsValid_iff.mp hnew.2.1
  | put req u =>
    obtain ⟨after, hafter, -⟩ := h
    obtain ⟨hpasses, -⟩ := Action.run_eq_none.mp hafter
    unfold completeUpdate at hpasses
    simp only [List.append_assoc, List.cons_append] at hpasses
    exact roleStringsValid_iff.mp (requireThat_passes (requireThat_passes hpasses).2).1
  | patch req u =>
    obtain ⟨after, hafter, -⟩ := h
    obtain ⟨hpasses, -⟩ := Action.run_eq_none.mp hafter
    unfold partialUpdate at hpasses
    extract_lets steps v at hpasses
    have hguarded := (Action.passes_append.mp (Action.passes_append.mp hpasses).1).1
    have hvalid := (requireThat_passes (Action.passes_append.mp hguarded).2).1
    intro text htext
    cases hroles : req.ucsschoolRoles with
    | none =>
      rw [RoleRequest.given, RoleRequest.texts, hroles] at htext
      exact absurd htext List.not_mem_nil
    | some texts =>
      rw [RoleRequest.given, RoleRequest.texts, hroles] at htext
      rw [hroles, Option.all_some, decide_eq_true_eq] at hvalid
      exact roleStringsValid_iff.mp hvalid.1 text htext

section Concrete

/-- A `PUT` with role strings. -/
def putRoles (texts : List String) : UserCreateModel where
  name := none
  school := some ouNamedA
  schools := []
  roles := [.student]
  schoolClasses := .empty
  workgroups := none
  ucsschoolRoles := texts
  attributes := []
  references := true
  school_or_schools := .inl (Option.some_ne_none _)

/-- A role without a context is overlooked after an unknown role, and everywhere in a `PATCH`. -/
theorem overlooked_malformed :
    (∃ req u, (RoleRequest.put req u).texts = some ["foo:school:A", "bar"] ∧
      ¬ (RoleRequest.put req u).ValidationComplete) ∧
    ∃ req u, (RoleRequest.patch req u).texts = some ["bar"] ∧
      ¬ (RoleRequest.patch req u).ValidationComplete := by
  have hbar : ¬ HasThreeParts "bar" := by
    rw [hasThreeParts_iff]
    decide
  constructor
  · refine ⟨putRoles ["foo:school:A", "bar"], anna, rfl, fun h => ?_⟩
    have hvalid : validateUcsschoolRoles ["foo:school:A", "bar"] = true := by decide
    exact hbar (h.accepts_iff.mp hvalid "bar" (by decide))
  · refine ⟨patchRoles ["bar"], anna, rfl, fun h => ?_⟩
    exact hbar (h.accepts_iff.mp rfl "bar" (by decide))

end Concrete

end Kelvin
