import Kelvin.Connector.Consumer
import Kelvin.Connector.Mapping

/-!
# The relevance filter over runs

The filter decides on a message before any handler runs, so an irrelevant message leaves the
database as it is. This keeps objects out that were never relevant. An object that is stored
already stays, also when the message says that it is no longer relevant.

* `processAll_eq_replay`: a run of messages is the replay of the events that pass the filter.
* `stored_processAll`: what is stored was stored before, or by a relevant message of its own.
* `irrelevant_run`: what is stored after the latest message of an object was irrelevant.
-/

namespace Kelvin

open KelvinConnectorEventHandler KelvinConsumerModule

section Relevance

variable [Runtime] [Library]

/-- The event that a hook makes, if it makes one. -/
def Hook.event? (hook : Hook) : Option Event :=
  match hookEvent hook with
  | .ok e => e
  | .error _ => none

namespace Message

/-- The event that the hook of the message makes. -/
def event? (m : Message) : Option Event :=
  match Library.dispatch m.body with
  | .ok (some hook) => hook.event?
  | _ => none

/-- The event that reaches the synchronization manager. -/
def delivered? (m : Message) : Option Event :=
  match isRelevant m.topic m.body with
  | .ok true => m.event?
  | _ => none

/-- The message is a create or modify event of the object. -/
def IsAbout (t : ObjectType) (id : PublicId) (m : Message) : Prop :=
  ∃ e, m.event? = some e ∧ About t id e

theorem isAbout_iff {m : Message} {t : ObjectType} {id : PublicId} :
    m.IsAbout t id ↔ ∃ dn, m.event?.bind Event.object = some (t, id, dn) := by
  simp only [IsAbout, About, Option.bind_eq_some_iff]
  exact ⟨fun ⟨e, he, dn, hdn⟩ => ⟨dn, e, he, hdn⟩, fun ⟨dn, e, he, hdn⟩ => ⟨e, he, dn, hdn⟩⟩

theorem delivered?_eq_some {m : Message} {e : Event} :
    m.delivered? = some e ↔ isRelevant m.topic m.body = .ok true ∧ m.event? = some e := by
  unfold delivered?
  split <;> simp_all

end Message

variable {maxDeliveries : Nat} {db : Database}

/-! ## Messages and events -/

/-- The handling of a message is the delivery of its event. -/
theorem handleEvent_eq_ok {db' : Database} {m : Message} {handled : Bool}
    (h : handleEvent db m.body = .ok (db', handled)) :
    (m.event? = none ∧ db' = db) ∨ ∃ e, m.event? = some e ∧ handle db e = .ok db' := by
  unfold handleEvent at h
  obtain ⟨hook, hdispatch, h⟩ := bind_eq_ok.mp h
  cases hook with
  | none =>
    cases h
    exact .inl ⟨by simp [Message.event?, hdispatch], rfl⟩
  | some hook =>
    obtain ⟨event, hevent, h⟩ := bind_eq_ok.mp h
    have hm : m.event? = event := by simp [Message.event?, Hook.event?, hdispatch, hevent]
    cases event with
    | none =>
      cases h
      exact .inl ⟨hm, rfl⟩
    | some e =>
      obtain ⟨db₁, hh, h⟩ := bind_eq_ok.mp h
      cases h
      exact .inr ⟨e, hm, hh⟩

theorem handle_of_event? {m : Message} {e : Event} {x : Exc} (hm : m.event? = some e)
    (h : handleEvent db m.body = .error x) : handle db e = .error x := by
  unfold Message.event? at hm
  split at hm
  · next hook hdispatch =>
    unfold Hook.event? at hm
    split at hm
    · next event hevent =>
      subst hm
      rw [handleEvent, hdispatch] at h
      simp only [bind, Except.bind, hevent] at h
      split at h
      · next hh => rw [hh, Except.error.inj h]
      · cases h
    · cases hm
  · cases hm

/-- One message: its event, if it passes the filter, is delivered. -/
theorem db_processOneEvent (m : Message) :
    (processOneEvent maxDeliveries db m).db = (m.delivered?.map (deliver handle db)).getD db := by
  unfold processOneEvent Message.delivered?
  cases isRelevant m.topic m.body with
  | error x => rfl
  | ok relevant =>
    cases relevant with
    | false => rfl
    | true =>
      dsimp only
      cases hh : handleEvent db m.body with
      | ok result =>
        obtain ⟨db', handled⟩ := result
        rcases handleEvent_eq_ok hh with ⟨hm, rfl⟩ | ⟨e, hm, he⟩
        · simp [hm]
        · simp [hm, deliver_of_ok he]
      | error x =>
        have hdb : (m.event?.map (deliver handle db)).getD db = db := by
          cases hm : m.event? with
          | none => rfl
          | some e => simp [deliver_of_error (handle_of_event? hm hh)]
        rw [hdb]
        cases x <;> rfl

/-- A run of messages is the replay of the events that pass the filter. -/
theorem processAll_eq_replay (ms : List Message) :
    processAll maxDeliveries db ms = replay handle db (ms.filterMap Message.delivered?) := by
  induction ms generalizing db with
  | nil => rfl
  | cons m ms ih =>
    rw [processAll_cons, ih, db_processOneEvent, List.filterMap_cons]
    cases m.delivered? <;> rfl

/-- Runs of messages reach what runs of events reach. -/
theorem reachable_processAll (roles : Table PublicId RoleModel) (ms : List Message) :
    Reachable (processAll maxDeliveries (Database.initial roles) ms) :=
  ⟨roles, ms.filterMap Message.delivered?, processAll_eq_replay ms⟩

/-! ## What a run stores -/

omit [Runtime] [Library] in
/-- A handled event stores no other object than its own. -/
theorem MappingStep.stored {db' : Database} {e : Event} {t : ObjectType} {id : PublicId}
    (hs : MappingStep db e db') (h : id ∈ db'.ids t) : id ∈ db.ids t ∨ About t id e := by
  cases hs with
  | written t' id' dn hobject _ _ hids =>
    rcases (hids t id).mp h with h | ⟨rfl, rfl⟩
    · exact .inl h
    · exact .inr ⟨dn, hobject⟩
  | kept _ _ hids =>
    rw [hids] at h
    exact .inl h
  | erased _ _ _ _ hids => exact .inl ((hids t id).mp h).1

/-- The message passes the filter and stores the object. -/
structure Stores (maxDeliveries : Nat) (t : ObjectType) (id : PublicId) (db : Database)
    (m : Message) : Prop where
  relevant : isRelevant m.topic m.body = .ok true
  about : m.IsAbout t id
  stored : id ∈ (processOneEvent maxDeliveries db m).db.ids t

theorem stored_processOneEvent {t : ObjectType} {id : PublicId} {m : Message}
    (h : id ∈ (processOneEvent maxDeliveries db m).db.ids t) :
    id ∈ db.ids t ∨ Stores maxDeliveries t id db m := by
  have hdb := h
  rw [db_processOneEvent] at hdb
  cases hm : m.delivered? with
  | none =>
    rw [hm] at hdb
    exact .inl hdb
  | some e =>
    rw [hm, Option.map_some, Option.getD_some] at hdb
    obtain ⟨hrelevant, hevent⟩ := Message.delivered?_eq_some.mp hm
    cases hh : handle db e with
    | error x =>
      rw [deliver_of_error hh] at hdb
      exact .inl hdb
    | ok db' =>
      rw [deliver_of_ok hh] at hdb
      rcases (handle_mapping hh).stored hdb with hold | habout
      · exact .inl hold
      · exact .inr ⟨hrelevant, ⟨e, hevent, habout⟩, h⟩

/-- What is stored after a run was stored before, or by a relevant message of its own. -/
theorem stored_processAll {t : ObjectType} {id : PublicId} {ms : List Message}
    (h : id ∈ (processAll maxDeliveries db ms).ids t) :
    id ∈ db.ids t ∨ ∃ pre m post, ms = pre ++ m :: post ∧
      Stores maxDeliveries t id (processAll maxDeliveries db pre) m := by
  induction ms generalizing db with
  | nil => exact .inl h
  | cons m ms ih =>
    rcases ih h with hstored | ⟨pre, m', post, rfl, hstores⟩
    · rcases stored_processOneEvent hstored with hold | hstores
      · exact .inl hold
      · exact .inr ⟨[], m, ms, rfl, hstores⟩
    · exact .inr ⟨m :: pre, m', post, rfl, hstores⟩

/-- An irrelevant message is acknowledged and changes nothing. When it is the latest message of
an object, the object is stored afterwards only if it had been stored before, by an earlier message
that was relevant. -/
theorem irrelevant_run (maxDeliveries : Nat) (roles : Table PublicId RoleModel)
    (pre post : List Message) (m : Message) (t : ObjectType) (id : PublicId)
    (hirrelevant : isRelevant m.topic m.body = .ok false)
    (hlatest : ∀ m' ∈ post, ¬ m'.IsAbout t id) :
    processOneEvent maxDeliveries (processAll maxDeliveries (Database.initial roles) pre) m =
        ⟨processAll maxDeliveries (Database.initial roles) pre, true, none⟩ ∧
      (id ∈ (processAll maxDeliveries (Database.initial roles) (pre ++ m :: post)).ids t →
        id ∈ (processAll maxDeliveries (Database.initial roles) pre).ids t ∧
          ∃ m' ∈ pre, isRelevant m'.topic m'.body = .ok true ∧ m'.IsAbout t id) := by
  refine ⟨processOneEvent_irrelevant hirrelevant, fun h => ?_⟩
  have hpre : id ∈ (processAll maxDeliveries (Database.initial roles) pre).ids t := by
    rw [processAll_append, processAll_cons, processOneEvent_irrelevant hirrelevant] at h
    rcases stored_processAll h with hstored | ⟨before, m', after, rfl, hstores⟩
    · exact hstored
    · exact absurd hstores.about (hlatest m' (by simp))
  refine ⟨hpre, ?_⟩
  rcases stored_processAll hpre with hnone | ⟨before, m', after, rfl, hstores⟩
  · cases t <;> simp [Objects.ids, Database.initial] at hnone
  · exact ⟨m', by simp, hstores.relevant, hstores.about⟩

end Relevance

/-! ## A student that becomes an exam user -/

section

attribute [local instance] asciiRuntime sidesLibrary

def studentMessages : List Message :=
  [createMessage "container/ou" (payloadOf "container/ou" "ou=A" (schoolFields "1" "A")),
    createMessage "users/user" (payloadOf "users/user" "uid=u,ou=A"
      (userFields "11" "u" "student:school:A" "A"))]

def examMessage : Message :=
  modifyMessage "users/user"
    (payloadOf "users/user" "uid=u,ou=A" (userFields "11" "u" "student:school:A" "A"))
    (payloadOf "users/user" "uid=u,ou=A" (userFields "11" "u" "exam_user:school:A" "A"))

/-- The exam user is irrelevant, and nothing of it is stored when it was not stored before. -/
theorem irrelevant_run_exam :
    isRelevant examMessage.topic examMessage.body = .ok false ∧
      2 ∉ (processAll defaultMaxDeliveries (Database.initial someRoles) [examMessage]).ids .user := by
  have hirrelevant : isRelevant examMessage.topic examMessage.body = .ok false := by decide
  refine ⟨hirrelevant, fun h => ?_⟩
  have hrun := irrelevant_run defaultMaxDeliveries someRoles [] [] examMessage .user 2 hirrelevant
    (by simp)
  obtain ⟨-, m', hm', -⟩ := hrun.2 h
  cases hm'

/-- The student stays in the cache after it has become an exam user. -/
theorem exam_user_stays :
    isRelevant examMessage.topic examMessage.body = .ok false ∧
      (processOneEvent defaultMaxDeliveries
        (processAll defaultMaxDeliveries (Database.initial someRoles) studentMessages)
        examMessage).acknowledged = true ∧
      examMessage.IsAbout .user 2 ∧
      2 ∈ (processAll defaultMaxDeliveries (Database.initial someRoles)
        (studentMessages ++ [examMessage])).ids .user := by
  refine ⟨by decide, by decide, ?_, by decide⟩
  exact Message.isAbout_iff.mpr ⟨"uid=u,ou=A", by decide⟩

end

end Kelvin
