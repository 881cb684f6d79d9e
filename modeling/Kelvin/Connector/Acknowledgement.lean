import Mathlib.Order.WellFounded
import Kelvin.Connector.Consumer

/-!
# Acknowledgement of messages

A failed handler is retried until the deliveries are used up, and a malformed event is dropped at
once. The relevance filter runs outside of this error handling: where it raises, the message is
never acknowledged, however often it is delivered.

* `Filterable`: the bodies that the filter reads without an exception.
* `isRelevant_isOk_iff`: the filter raises exactly on the other bodies.
* `neverBlocks_iff`: a message is always acknowledged in the end if and only if its body is
  filterable and, when it is relevant, the library has a hook for it.
-/

namespace Kelvin

namespace KelvinConnectorEventHandler

/-! ## Bodies that the filter can read -/

/-- The test of the loop holds of a text. -/
def passes (test : String → Bool) : Json → Bool
  | .str role => test role
  | _ => false

/-- The loop meets only texts up to the first one that passes. -/
def TextsUntil (test : String → Bool) (items : List Json) : Prop :=
  ∀ j ∈ items.takeWhile (fun j => !passes test j), ∃ role, j = .str role

theorem textsUntil_cons_str {test : String → Bool} {role : String} {items : List Json} :
    TextsUntil test (.str role :: items) ↔ test role = true ∨ TextsUntil test items := by
  cases h : test role <;> simp [TextsUntil, passes, h]

theorem not_textsUntil_cons {test : String → Bool} {j : Json} {items : List Json}
    (hj : ∀ role, j ≠ .str role) : ¬ TextsUntil test (j :: items) := by
  intro h
  have hpasses : passes test j = false := by
    cases j <;> first | rfl | exact absurd rfl (hj _)
  obtain ⟨role, hrole⟩ := h j (by simp [hpasses])
  exact hj role hrole

theorem anyItem_isOk_iff {test : String → Bool} {items : List Json} :
    (∃ b, anyItem test items = .ok b) ↔ TextsUntil test items := by
  induction items with
  | nil => simp [anyItem, TextsUntil]
  | cons j items ih =>
    cases j with
    | str role =>
      rw [textsUntil_cons_str, ← ih, anyItem]
      cases h : test role <;> simp
    | null | bool _ | int _ | float _ | arr _ | obj _ =>
      refine iff_of_false (by simp [anyItem]) (not_textsUntil_cons ?_)
      simp

/-- The roles can be gone through with the test. -/
def Scannable (test : String → Bool) (roles : Json) : Prop :=
  ∃ items, iterate roles = some items ∧ TextsUntil test items

theorem anyRole_isOk_iff {test : String → Bool} {roles : Json} :
    (∃ b, anyRole test roles = .ok b) ↔ Scannable test roles := by
  unfold anyRole Scannable
  cases iterate roles with
  | some items =>
    rw [anyItem_isOk_iff]
    simp
  | none => simp

/-- The roles that the filter goes through for the topic. -/
def RolesReadable (topic : String) (roles : Json) : Prop :=
  (topic = "groups/group" → Scannable isClassRole roles) ∧
    (topic = "users/user" → Scannable isExamRole roles)

theorem filter_isOk_iff {topic name : String} {roles : Json} :
    (∃ b, filter topic roles name = .ok b) ↔ RolesReadable topic roles := by
  unfold filter RolesReadable
  by_cases hgroup : topic = "groups/group"
  · subst hgroup
    simp only [↓reduceIte, true_imp_iff, ← anyRole_isOk_iff, bind_eq_ok, pure_eq_ok]
    constructor
    · rintro ⟨-, isClass, h, -⟩
      exact ⟨⟨isClass, h⟩, by simp⟩
    · rintro ⟨⟨isClass, h⟩, -⟩
      exact ⟨_, isClass, h, rfl⟩
  · by_cases huser : topic = "users/user"
    · subst huser
      simp only [hgroup, ↓reduceIte, false_imp_iff, true_and, true_imp_iff, ← anyRole_isOk_iff,
        bind_eq_ok, pure_eq_ok]
      constructor
      · rintro ⟨-, isExam, h, -⟩
        exact ⟨isExam, h⟩
      · rintro ⟨isExam, h⟩
        exact ⟨_, isExam, h, rfl⟩
    · simp [hgroup, huser]

/-- A side of the body in which the filter can look for properties. -/
def SideReadable : Option Json → Prop
  | none | some (.obj _) => True
  | some (.arr items) => .str "properties" ∉ items
  | some (.str s) => ¬ "properties".toList <:+: s.toList
  | some _ => False

/-- The properties of a readable side. -/
def propertiesOf : Option Json → Json
  | some (.obj fields) => (Json.field? "properties" fields).getD .null
  | _ => .null

theorem sideProperties_eq_ok {side : Option Json} {properties : Json} :
    sideProperties side = .ok properties ↔ SideReadable side ∧ properties = propertiesOf side := by
  unfold sideProperties SideReadable propertiesOf
  split
  case h_3 items =>
    by_cases h : Json.str "properties" ∈ items <;> simp [h, eq_comm]
  case h_4 s =>
    by_cases h : "properties".toList <:+: s.toList <;> simp only [h] <;> simp [eq_comm]
  all_goals simp_all [eq_comm]

/-- The side that the filter takes the DN for the log from. -/
def dnHolder (body : Dict) : Json :=
  pyOr ((body.find? "new").getD .null) (pyOr ((body.find? "old").getD .null) (.obj []))

theorem requireGet_eq_ok {j : Json} {fields : Fields} : requireGet j = .ok fields ↔ j = .obj fields := by
  cases j <;> simp [requireGet]

variable [Runtime]

/-- A body that the filter reads without an exception. -/
structure Filterable (topic : String) (body : Dict) : Prop where
  old : SideReadable (body.find? "old")
  new : SideReadable (body.find? "new")
  dn : ∃ fields, dnHolder body = .obj fields
  roles : ∀ roles properties, matchRoles (propertiesOf (body.find? "old"))
    (propertiesOf (body.find? "new")) = some (roles, properties) → RolesReadable topic roles

theorem isRelevant_isOk_iff {topic : String} {body : Dict} :
    (∃ relevant, isRelevant topic body = .ok relevant) ↔ Filterable topic body := by
  unfold isRelevant
  simp only [bind_eq_ok, sideProperties_eq_ok, requireGet_eq_ok]
  constructor
  · rintro ⟨relevant, _, ⟨hold, rfl⟩, _, ⟨hnew, rfl⟩, fields, hdn, h⟩
    refine ⟨hold, hnew, ⟨fields, hdn⟩, fun roles properties hm => ?_⟩
    rw [hm] at h
    exact filter_isOk_iff.mp ⟨relevant, h⟩
  · rintro ⟨hold, hnew, ⟨fields, hdn⟩, hroles⟩
    cases hm : matchRoles (propertiesOf (body.find? "old")) (propertiesOf (body.find? "new")) with
    | none => exact ⟨false, _, ⟨hold, rfl⟩, _, ⟨hnew, rfl⟩, fields, hdn, by rw [hm]⟩
    | some judged =>
      obtain ⟨roles, properties⟩ := judged
      obtain ⟨relevant, h⟩ := filter_isOk_iff.mpr (hroles roles properties hm)
      exact ⟨relevant, _, ⟨hold, rfl⟩, _, ⟨hnew, rfl⟩, fields, hdn, by rw [hm]; exact h⟩

end KelvinConnectorEventHandler

namespace KelvinConsumerModule

open KelvinConnectorEventHandler

section NeverBlocks

variable [Runtime] [Library] {maxDeliveries : Nat}

/-! ## The retry policy -/

/-- What the retry policy promises of a message, whatever the database is. -/
structure NeverBlocks (maxDeliveries : Nat) (topic : String) (body : Dict) : Prop where
  irrelevant : isRelevant topic body = .ok false → ∀ db numDelivered,
    (processOneEvent maxDeliveries db ⟨topic, body, numDelivered⟩).acknowledged = true
  malformed : isRelevant topic body = .ok true → ∀ db numDelivered model field,
    handleEvent db body = .error (.validationError model field) →
      (processOneEvent maxDeliveries db ⟨topic, body, numDelivered⟩).acknowledged = true
  handled : isRelevant topic body = .ok true → ∀ db db' numDelivered,
    handleEvent db body = .ok (db', true) →
      (processOneEvent maxDeliveries db ⟨topic, body, numDelivered⟩).acknowledged = true
  exhausted : ∀ db numDelivered, maxDeliveries ≤ numDelivered →
    (processOneEvent maxDeliveries db ⟨topic, body, numDelivered⟩).acknowledged = true
  /-- While the counter grows from delivery to delivery, one of them is acknowledged. -/
  finite : ∀ (dbs : Nat → Database) (numDelivered : Nat → Nat), StrictMono numDelivered →
    ∃ i, (processOneEvent maxDeliveries (dbs i) ⟨topic, body, numDelivered i⟩).acknowledged = true

theorem handleEvent_eq_ok_false {db db' : Database} {body : Dict} :
    handleEvent db body = .ok (db', false) ↔ Library.dispatch body = .ok none ∧ db' = db := by
  unfold handleEvent
  constructor
  · intro h
    obtain ⟨hook, hdispatch, h⟩ := bind_eq_ok.mp h
    cases hook with
    | none =>
      cases h
      exact ⟨hdispatch, rfl⟩
    | some hook =>
      obtain ⟨event, -, h⟩ := bind_eq_ok.mp h
      cases event with
      | none => cases h
      | some e =>
        obtain ⟨_, -, h⟩ := bind_eq_ok.mp h
        cases h
  · rintro ⟨hdispatch, rfl⟩
    rw [hdispatch]
    rfl

/-- The last delivery is acknowledged when the message is filterable and has a hook. -/
theorem acknowledged_of_exhausted {db : Database} {m : Message}
    (hreadable : Filterable m.topic m.body)
    (hhook : isRelevant m.topic m.body = .ok true → Library.dispatch m.body ≠ .ok none)
    (hmax : maxDeliveries ≤ m.numDelivered) :
    (processOneEvent maxDeliveries db m).acknowledged = true := by
  obtain ⟨relevant, hrelevant⟩ := isRelevant_isOk_iff.mpr hreadable
  cases relevant with
  | false => rw [processOneEvent_irrelevant hrelevant]
  | true =>
    cases hh : handleEvent db m.body with
    | ok result =>
      obtain ⟨db', handled⟩ := result
      rw [processOneEvent_ok hrelevant hh]
      cases handled with
      | true => rfl
      | false => exact absurd (handleEvent_eq_ok_false.mp hh).1 (hhook hrelevant)
    | error e =>
      by_cases he : ∃ model field, e = .validationError model field
      · obtain ⟨model, field, rfl⟩ := he
        rw [processOneEvent_malformed hrelevant hh]
      · have hother : ∀ model field, e ≠ .validationError model field :=
          fun model field heq => he ⟨model, field, heq⟩
        rw [processOneEvent_failed hrelevant hh hother]
        exact decide_eq_true hmax

/-- A message is acknowledged in the end if and only if the filter can read its body, and the
library has a hook for a relevant one. -/
theorem neverBlocks_iff (maxDeliveries : Nat) (topic : String) (body : Dict) :
    NeverBlocks maxDeliveries topic body ↔ Filterable topic body ∧
      (isRelevant topic body = .ok true → Library.dispatch body ≠ .ok none) := by
  constructor
  · intro h
    have hack := h.exhausted (Database.initial .empty) maxDeliveries le_rfl
    constructor
    · rw [← isRelevant_isOk_iff]
      cases hrelevant : isRelevant topic body with
      | ok relevant => exact ⟨relevant, rfl⟩
      | error e =>
        rw [processOneEvent_unreadable hrelevant] at hack
        cases hack
    · intro hrelevant hdispatch
      have hh := handleEvent_eq_ok_false.mpr ⟨hdispatch, Eq.refl (Database.initial .empty)⟩
      rw [processOneEvent_ok hrelevant hh] at hack
      cases hack
  · rintro ⟨hreadable, hhook⟩
    refine ⟨fun h db n => ?_, fun h db n model field hh => ?_, fun h db db' n hh => ?_,
      fun db n hmax => acknowledged_of_exhausted hreadable hhook hmax,
      fun dbs numDelivered hmono => ⟨maxDeliveries, ?_⟩⟩
    · rw [processOneEvent_irrelevant h]
    · rw [processOneEvent_malformed h hh]
    · rw [processOneEvent_ok h hh]
    · exact acknowledged_of_exhausted hreadable hhook hmono.le_apply

end NeverBlocks

/-! ## A body that the filter cannot read -/

/-- A new user whose roles are null. -/
def nullRoles : Dict :=
  Table.empty.insert "new" (.obj [("properties", .obj [("ucsschoolRole", .null)])])

section

attribute [local instance] asciiRuntime sidesLibrary

/-- The message of this user is not acknowledged after the last delivery. -/
theorem nullRoles_blocks : ¬ NeverBlocks defaultMaxDeliveries "users/user" nullRoles := by
  intro h
  have hack := h.exhausted (Database.initial .empty) defaultMaxDeliveries le_rfl
  revert hack
  decide

end

end KelvinConsumerModule

end Kelvin
