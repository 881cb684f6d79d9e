import Kelvin.Data.Trim
import Kelvin.Objects.Runtime

/-!
# Generated names

`username_handler.py`: user names and email addresses from templates with at most one counter
variable. The numbers are kept in a store, by the name without the variable.

* `pieces`, `search`, `sub`: the expression that finds the counter variables.
* `removeBadChars`, `removeWhitespace`: the characters that a name must not have.
* `formatName`, `emailFormatName`: the two `format_name`.
-/

namespace Kelvin

namespace Importer

open Text

/-! ## Counter variables -/

inductive CounterVariable where
  | alwaysCounter
  | counter2
deriving DecidableEq

def CounterVariable.text : CounterVariable → List Char
  | .alwaysCounter => "[ALWAYSCOUNTER]".toList
  | .counter2 => "[COUNTER2]".toList

/-- The value that the function of the variable starts with. -/
def CounterVariable.initialValue : CounterVariable → List Char
  | .alwaysCounter => ['1']
  | .counter2 => []

/-- Upper case as `re.I` compares letters. The long s is the one other letter in it. -/
def upper (c : Char) : Char := if c = 'ſ' then 'S' else c.toUpper

def CounterVariable.startsAt (v : CounterVariable) (text : List Char) : Bool :=
  (text.take v.text.length).map upper = v.text

/-- The variable that `replacement_variable_pattern` matches at the beginning of the text. -/
def variableAt (text : List Char) : Option CounterVariable :=
  [.alwaysCounter, .counter2].find? (·.startsAt text)

/-- A character of a template, or a variable in it as it is written. -/
inductive Piece where
  | char (c : Char)
  | counter (v : CounterVariable) (group : List Char)
deriving DecidableEq

/-- The pieces of a text, with the number of characters that are still to be skipped. -/
def piecesFrom : Nat → List Char → List Piece
  | _, [] => []
  | skip + 1, _ :: cs => piecesFrom skip cs
  | 0, c :: cs =>
    match variableAt (c :: cs) with
    | some v => .counter v ((c :: cs).take v.text.length) :: piecesFrom (v.text.length - 1) cs
    | none => .char c :: piecesFrom 0 cs

def pieces (text : List Char) : List Piece := piecesFrom 0 text

def Piece.text : Piece → List Char
  | .char c => [c]
  | .counter _ group => group

def Piece.fill (counter : List Char) : Piece → List Char
  | .char c => [c]
  | .counter _ _ => counter

def Piece.isCounter : Piece → Bool
  | .char _ => false
  | .counter _ _ => true

/-- `replacement_variable_pattern.sub(counter, text)`. -/
def sub (counter text : List Char) : List Char := (pieces text).flatMap (Piece.fill counter)

/-- `replacement_variable_pattern.findall(text)`. -/
def findall (text : List Char) : List Piece := (pieces text).filter Piece.isCounter

/-- A match of `replacement_variable_pattern`. -/
structure Match where
  start : Nat
  kind : CounterVariable
  group : List Char
deriving DecidableEq

def searchFrom (start : Nat) : List Piece → Option Match
  | [] => none
  | .char _ :: ps => searchFrom (start + 1) ps
  | .counter v group :: _ => some ⟨start, v, group⟩

/-- `replacement_variable_pattern.search(text)`. -/
def search (text : List Char) : Option Match := searchFrom 0 (pieces text)

/-! ## Counters -/

/-- The store of the counters. Names with one key share a counter: equal names in memory, names
that are equal up to case in the directory. -/
class NameStorage where
  key : List Char → List Char

/-- The store of a dry run. -/
@[reducible] def memoryStorage : NameStorage where
  key name := name

/-- A stored value, or a text that is no number. -/
inductive StoredValue where
  | number (n : Nat)
  | bad (message : String)
deriving DecidableEq

abbrev Counters := List Char → Option StoredValue

inductive NameExc where
  | formatError (message : String) (name : List Char)
  | badValueStored (message : String)
deriving DecidableEq

/-- `str` of a number. -/
def digits (n : Nat) : List Char := Nat.toDigits 10 n

section Storage

variable [NameStorage]

/-- `get_and_raise`. -/
def getAndRaise (nameBase initialValue : List Char) (store : Counters) :
    Except NameExc (List Char × Counters) :=
  match store (NameStorage.key nameBase) with
  | some (.number n) =>
    .ok (digits n, Function.update store (NameStorage.key nameBase) (some (.number (n + 1))))
  | some (.bad message) => .error (.badValueStored message)
  | none => .ok (initialValue, Function.update store (NameStorage.key nameBase) (some (.number 2)))

/-! ## Handlers -/

/-- What the two classes of handlers differ in. -/
structure Handler where
  attributeName : String
  maxLength : Nat
  removeBadChars : List Char → List Char

/-- The argument `max_length`, if it is given and not zero. -/
def Handler.limit (h : Handler) : Option Nat → Nat
  | some (n + 1) => n + 1
  | _ => h.maxLength

/-- `PATTERN_FUNC_MAXLENGTH`. -/
def patternFuncMaxLength : Nat := 3

/-- `without_pattern`, before it is cut. -/
def Handler.withoutPattern (h : Handler) (name : List Char) : List Char :=
  h.removeBadChars (sub [] name)

/-- `without_pattern` as the counters are kept by. -/
def Handler.nameBase (h : Handler) (name : List Char) (limit : Nat) : List Char :=
  if limit - patternFuncMaxLength < (h.withoutPattern name).length then
    (h.withoutPattern name).take (limit - patternFuncMaxLength)
  else h.withoutPattern name

/-- The name in which the variable is replaced. -/
def Handler.template (h : Handler) (name : List Char) (limit : Nat) (m : Match) : List Char :=
  if limit - patternFuncMaxLength < (h.withoutPattern name).length then
    (h.nameBase name limit).take m.start ++ m.group ++ (h.nameBase name limit).drop m.start
  else name

/-- The name with a counter in the place of its variable. -/
def Handler.fill (h : Handler) (name : List Char) (limit : Nat) (m : Match) (counter : List Char) :
    List Char := sub counter (h.template name limit m)

/-- The counter for the base of a name. -/
def Handler.counter (h : Handler) (name : List Char) (limit : Nat) (m : Match) (store : Counters) :
    Except NameExc (List Char × Counters) :=
  if h.nameBase name limit = [] then .ok ([], store)
  else getAndRaise (h.nameBase name limit) m.kind.initialValue store

variable [Runtime]

def Handler.moreThanOne (h : Handler) (name : List Char) : String :=
  "More than one counter variable found in " ++ h.attributeName ++ " scheme " ++
    Runtime.repr (String.ofList name) ++ "."

/-- `format_name`. -/
def formatName (h : Handler) (name : List Char) (maxLength : Option Nat) (store : Counters) :
    Except NameExc (List Char × Counters) :=
  match search name with
  | none =>
    let username := h.removeBadChars name
    let username :=
      if h.limit maxLength < name.length then username.take (h.limit maxLength) else username
    .ok (strip '.' username, store)
  | some m =>
    if 2 ≤ (findall name).length then .error (.formatError (h.moreThanOne name) name)
    else do
      let counted ← h.counter name (h.limit maxLength) m store
      let username := h.fill name (h.limit maxLength) m counted.1
      return (strip '.' (h.removeBadChars username), counted.2)

end Storage

/-! ## User names -/

/-- `c in self.allowed_chars`. -/
def isAllowed (special : List Char) (c : Char) : Bool := c.isAlphanum || c ∈ special

/-- `remove_bad_chars` of `UsernameHandler`. -/
def removeBadChars (special name : List Char) : List Char :=
  let badChars := name.filter (fun c => !isAllowed special c)
  (stripEach special name).filter (fun c => c ∉ badChars)

/-- `UsernameHandler(max_length)`, for the configured `allowed_special_chars`. -/
def usernameHandler (special : List Char) (maxLength : Nat) : Handler where
  attributeName := "username"
  maxLength := maxLength
  removeBadChars := removeBadChars special

/-! ## Email addresses -/

/-- `string.whitespace`. -/
def whitespace : List Char := [' ', '\t', '\n', '\r', '\x0b', '\x0c']

/-- `remove_bad_chars` of `EmailHandler`. -/
def removeWhitespace (name : List Char) : List Char :=
  let badChars := name.filter (fun c => c ∈ whitespace)
  name.filter (fun c => c ∉ badChars)

/-- `EmailHandler(max_length)`. -/
def emailHandler (maxLength : Nat) : Handler where
  attributeName := "email"
  maxLength := maxLength
  removeBadChars := removeWhitespace

/-- The local part and the domain of `name.rpartition("@")`. -/
def rpartitionAt (name : List Char) : List Char × List Char :=
  if '@' ∈ name then
    ((name.reverse.dropWhile (· ≠ '@')).tail.reverse, (name.reverse.takeWhile (· ≠ '@')).reverse)
  else ([], name)

/-- The length that is left for the local part. -/
def emailLimit (maxLength : Nat) (domain : List Char) : Option Nat → Nat
  | some (n + 1) => n + 1
  | _ => maxLength - domain.length - 1

/-- `format_name` of `EmailHandler`. -/
def emailFormatName [NameStorage] [Runtime] (maxLength : Nat) (name : List Char)
    (override : Option Nat) (store : Counters) : Except NameExc (List Char × Counters) :=
  if emailLimit maxLength (rpartitionAt name).2 override < 1 then
    .error (.formatError "Maximum email length is to small." name)
  else do
    let result ← formatName (emailHandler maxLength) (rpartitionAt name).1
      (some (emailLimit maxLength (rpartitionAt name).2 override)) store
    return (result.1 ++ '@' :: (rpartitionAt name).2, result.2)

end Importer

end Kelvin
