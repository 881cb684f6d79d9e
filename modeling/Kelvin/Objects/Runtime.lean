import Kelvin.Data.Json
import Kelvin.Data.Table

/-!
# What the program takes from outside the repository

The text functions of the language that depend on Unicode tables, the parsing of
distinguished names, and the readers of identifiers and dates are parameters, collected in
the class `Runtime`. No result assumes anything about them: every theorem holds for every
runtime.

`Exc` lists the exceptions of the modelled code, with their texts.
-/

namespace Kelvin

/-- A UUID, as its number. Objects are listed in the order of their public ids. -/
abbrev PublicId := Nat

structure Date where
  year : Nat
  month : Nat
  day : Nat
deriving DecidableEq

/-- A parsed distinguished name: its first RDN, and the first RDN of its parent. -/
structure DN where
  rdn : String × String
  parent : Option (String × String)

/-- A JSON object with its fields in the order of their names. -/
abbrev Dict := Table String Json

class Runtime where
  /-- `str.lower`. -/
  lower : String → String
  /-- `str.upper`. -/
  upper : String → String
  /-- `repr` of a string. -/
  repr : String → String
  /-- `str` of a JSON value that is not a string. -/
  str : Json → String
  /-- `DN(text)`; a `ValueError` is `none`. -/
  parseDN : String → Option DN
  /-- The text of a UUID. -/
  uuidText : PublicId → String
  /-- The UUID a text stands for, if it is one of version 4. -/
  uuid4 : String → Option PublicId
  /-- `date.isoformat`. -/
  isoformat : Date → String
  /-- The date a JSON value stands for. -/
  date : Json → Option Date

/-- The first RDN of a DN text without escapes. -/
def asciiRdn (text : List Char) : Option (String × String) :=
  if '=' ∈ text then
    some (String.ofList (text.takeWhile (· ≠ '=')),
      String.ofList (((text.dropWhile (· ≠ '=')).drop 1).takeWhile (· ≠ ',')))
  else none

/-- A runtime to evaluate the model with: ASCII letter case, DNs without escapes, and UUIDs
written in unary. -/
@[reducible] def asciiRuntime : Runtime where
  lower s := String.ofList (s.toList.map Char.toLower)
  upper s := String.ofList (s.toList.map Char.toUpper)
  repr s := "'" ++ s ++ "'"
  str _ := ""
  parseDN s := (asciiRdn s.toList).map (fun rdn =>
    { rdn := rdn, parent := asciiRdn ((s.toList.dropWhile (· ≠ ',')).drop 1) })
  uuidText n := String.ofList (List.replicate n '1')
  uuid4 s := if s.toList.all (· == '1') then some s.toList.length else none
  isoformat _ := ""
  date _ := none

/-- A runtime with the documented letter case of hyphens and of ASCII texts: a hyphen has no
case and no letter looks beyond it, and an ASCII text is lowered letter by letter. -/
class CaseRuntime extends Runtime where
  lower_hyphen : ∀ a b, lower (a ++ "-" ++ b) = lower a ++ "-" ++ lower b
  lower_ascii : ∀ s : String, (∀ c ∈ s.toList, c.toNat < 128) →
    lower s = String.ofList (s.toList.map Char.toLower)

theorem asciiRuntime_lower_hyphen (a b : String) :
    asciiRuntime.lower (a ++ "-" ++ b) = asciiRuntime.lower a ++ "-" ++ asciiRuntime.lower b := by
  have hlower : ∀ s, asciiRuntime.lower s = String.ofList (s.toList.map Char.toLower) := fun _ => rfl
  simp only [hlower, String.toList_append, List.map_append, String.ofList_append]
  rfl

@[reducible] def asciiCaseRuntime : CaseRuntime where
  toRuntime := asciiRuntime
  lower_hyphen := asciiRuntime_lower_hyphen
  lower_ascii _ _ := rfl

/-- A runtime with the reader of UUIDs, which reads the text of a UUID back. -/
class UuidRuntime extends Runtime where
  /-- `UUID(text)`; a `ValueError` is `none`. -/
  uuid : String → Option PublicId
  uuid_uuidText : ∀ id, uuid (uuidText id) = some id

theorem asciiRuntime_uuidText (id : PublicId) :
    (if (asciiRuntime.uuidText id).toList.all (fun c => c == '1' || c == 'I') then
      some (asciiRuntime.uuidText id).toList.length else none) = some id := by
  have htext : (asciiRuntime.uuidText id).toList = List.replicate id '1' := String.toList_ofList
  rw [htext]
  simp

/-- UUIDs in unary, in which an `I` is read like a `1`. -/
@[reducible] def asciiUuidRuntime : UuidRuntime where
  toRuntime := asciiRuntime
  uuid s := if s.toList.all (fun c => c == '1' || c == 'I') then some s.toList.length else none
  uuid_uuidText := asciiRuntime_uuidText

/-- The exceptions of the modelled code. -/
inductive Exc where
  /-- `NotFound`; the source names one of the missing public ids. -/
  | notFound (objectType : String) (publicIds : Finset PublicId)
  /-- A unique constraint, a foreign key or a primary slot violated at a flush. -/
  | integrityError (table : String)
  | valueError (message : String)
  | noResultFound
  | recursionError
  | synchronizationException (message : String)
  /-- pydantic's `ValidationError` for a model, at a field. -/
  | validationError (model field : String)
  | typeError (message : String)
  | attributeError (message : String)
  | keyError (key : String)
  | unsupportedOperation (message : String)
  /-- An operation that `jsonpatch` cannot apply. -/
  | jsonPatchException
deriving DecidableEq

/-- `str(value)`. -/
def pyStr [Runtime] : Json → String
  | .str s => s
  | j => Runtime.str j

/-! ## `core/domain/json.py` -/

section Normalise

variable [Runtime]

mutual

/-- Item lists sorted by the text of their items, at every depth. -/
def normalise : Json → Json
  | .arr items => .arr (Json.sortItems pyStr (normaliseItems items))
  | .obj fields => .obj (normaliseFields fields)
  | .null => .null
  | .bool b => .bool b
  | .int n => .int n
  | .float t => .float t
  | .str s => .str s

def normaliseItems : List Json → List Json
  | [] => []
  | x :: xs => normalise x :: normaliseItems xs

def normaliseFields : List (String × Json) → List (String × Json)
  | [] => []
  | (k, x) :: fs => (k, normalise x) :: normaliseFields fs

end

theorem normaliseItems_eq_map (xs : List Json) : normaliseItems xs = xs.map normalise := by
  induction xs with
  | nil => rfl
  | cons x xs ih => rw [normaliseItems, ih, List.map_cons]

theorem normaliseItems_eq_self {xs : List Json} (h : ∀ x ∈ xs, normalise x = x) :
    normaliseItems xs = xs := by
  rw [normaliseItems_eq_map]
  exact (List.map_congr_left h).trans (List.map_id xs)

mutual

/-- A normalised value is its own normal form. -/
theorem normalise_idem : ∀ j : Json, normalise (normalise j) = normalise j
  | .arr items => by
    have hitems : ∀ x ∈ Json.sortItems pyStr (normaliseItems items), normalise x = x := by
      intro x hx
      exact normaliseItems_idem items x (Json.mem_sortItems.mp hx)
    rw [normalise, normalise, normaliseItems_eq_self hitems, Json.sortItems_idem]
  | .obj fields => by rw [normalise, normalise, normaliseFields_idem fields]
  | .null | .bool _ | .int _ | .float _ | .str _ => by simp [normalise]

theorem normaliseItems_idem : ∀ xs : List Json, ∀ x ∈ normaliseItems xs, normalise x = x
  | [], x, hx => by simp [normaliseItems] at hx
  | y :: ys, x, hx => by
    rw [normaliseItems, List.mem_cons] at hx
    rcases hx with rfl | hx
    · exact normalise_idem y
    · exact normaliseItems_idem ys x hx

theorem normaliseFields_idem : ∀ fs : List (String × Json),
    normaliseFields (normaliseFields fs) = normaliseFields fs
  | [] => rfl
  | (k, x) :: fs => by
    rw [normaliseFields, normaliseFields, normalise_idem x, normaliseFields_idem fs]

end

/-- `normalise` of a dictionary. -/
def Dict.normalise (d : Dict) : Dict := d.mapVals (fun _ j => Kelvin.normalise j)

@[simp] theorem Dict.normalise_idem (d : Dict) : d.normalise.normalise = d.normalise := by
  ext1 k
  simp only [Dict.normalise, Table.find?_mapVals, Option.map_map]
  congr 1
  funext j
  exact Kelvin.normalise_idem j

end Normalise

end Kelvin
