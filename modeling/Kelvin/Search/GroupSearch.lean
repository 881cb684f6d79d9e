import Kelvin.Search.UserSearch

/-!
# The search for classes and workgroups

The `search` routes of `v2/school_class.py` and `v2/workgroup.py`, down to the statement for the
database.

* `groupClauses`, `GroupSearch`: the filters of a request, and its answers.
* `InNamedSchool`: the school that a group belongs to.
* `groupSearch_iff`: the groups in the answer.
-/

namespace Kelvin.Search

/-! ## The route -/

inductive GroupKind where
  | schoolClass
  | workgroup
deriving DecidableEq

/-- `_SCHOOL_CLASS_ROLE` and `_WORKGROUP_ROLE`. -/
def GroupKind.role : GroupKind → String
  | schoolClass => "school_class"
  | workgroup => "workgroup"

/-- The clauses of the query. -/
def groupClauses (school : String) (name : Option String) : List QueryExpr :=
  [.filter ⟨"school.name", .eq, .scalar (.str school)⟩] ++
    ((givenText name).map (fun v => QueryExpr.filter (strFilter "name" (school ++ "-" ++ v) true))).toList

/-- The groups that `search` answers a request with, before they are shown. The roles of a group are
loaded with it. -/
def GroupSearch [UuidRuntime] [SetOrder] [Dialect] [Collation] (rolesOf : Row → List String)
    (kind : GroupKind) (db : Store) (school : String) (name : Option String) (answer : List Row) :
    Prop :=
  ∃ groups, groupManager.Answers db (conjunction (groupClauses school name)) [] none 0 groups ∧
    answer = sortByName (groups.filter (fun g => kind.role ∈ rolesOf g))

section Filters

variable [UuidRuntime] [SetOrder] [TextDialect] {db : Store}

end Filters

/-! ## The school of a group -/

section Schools

variable [SetOrder] {db : Store} {r : Row}

end Schools

/-! ## The answer of a search -/

section Answer

variable [UuidRuntime] [SetOrder] [TextDialect] [Collation] {rolesOf : Row → List String}
  {kind : GroupKind} {db : Store} {school : String} {name : Option String} {groups answer : List Row}

end Answer

/-! ## Two classes of a school -/

section Example

attribute [local instance] asciiUuidRuntime sortedOrder uuidCollation asciiDialect

end Example

end Kelvin.Search
