import Kelvin.Search.TextSearch

/-!
# The search of the v2 user resource

The parameters of a request become filters: those on the columns of a user, one on the names of
the schools, and those on the UDM properties. Their conjunction is the query, and the users that
it finds are sorted by name.

* `strFilter`, `SearchParams.clauses`, `buildQuery`: the query of a request.
* `UserSearch`: the users that a request is answered with.
* `Wanted`: the users that a request asks for, parameter by parameter.
* `userSearch_iff`: the answer consists of the wanted users.
-/

namespace Kelvin.Search

/-! ## The query of a request -/

/-- `make_wildcard_filter`, for a field that is not empty. -/
def makeWildcardFilter (field userValue : String) (caseInsensitive : Bool) : Filter :=
  ⟨field, if caseInsensitive then .matchesCi else .matches, .scalar (.str userValue)⟩

/-- `str_filter`. -/
def strFilter (field value : String) (caseInsensitive : Bool) : Filter :=
  if caseInsensitive then makeWildcardFilter field value true
  else if '*' ∈ value.toList then makeWildcardFilter field value false
  else ⟨field, .eq, .scalar (.str value)⟩

/-- The parameters of `search` that are not properties. -/
structure SearchParams where
  school : Option String
  name : Option String
  firstname : Option String
  lastname : Option String
  email : Option String
  recordUid : Option String
  sourceUid : Option String
  birthday : Option Date
  expirationDate : Option Date
  disabled : Option Bool

/-- A text that is not empty. -/
def givenText (value : Option String) : Option String := value.filter (fun text => text ≠ "")

/-- The filters that `_build_query` collects. -/
def SearchParams.clauses (p : SearchParams) (extraClauses : List QueryExpr) : List QueryExpr :=
  extraClauses ++
    ((givenText p.name).map (fun v => .filter (strFilter "name" v true))).toList ++
    ((givenText p.school).map (fun v => .filter (strFilter "schools.name" v true))).toList ++
    ((givenText p.firstname).map (fun v => .filter (strFilter "firstname" v true))).toList ++
    ((givenText p.lastname).map (fun v => .filter (strFilter "lastname" v true))).toList ++
    ((givenText p.email).map (fun v => .filter (strFilter "email" v true))).toList ++
    ((givenText p.recordUid).map (fun v => .filter (strFilter "record_uid" v false))).toList ++
    ((givenText p.sourceUid).map (fun v => .filter (strFilter "source_uid" v false))).toList ++
    (p.birthday.map (fun d => .filter ⟨"birthday", .eq, .scalar (.date d)⟩)).toList ++
    (p.expirationDate.map (fun d => .filter ⟨"expiration_date", .eq, .scalar (.date d)⟩)).toList ++
    (p.disabled.map (fun b => .filter ⟨"active", .eq, .scalar (.bool (!b))⟩)).toList

/-- `_build_query`. -/
def buildQuery (p : SearchParams) (extraClauses : List QueryExpr) : Option QueryExpr :=
  conjunction (p.clauses extraClauses)

/-- The text in a column. -/
def Row.text (r : Row) (column : String) : String :=
  match r.cell column with
  | .str text => text
  | _ => ""

/-- `users.sort(key=lambda u: u.name)`. -/
def sortByName (users : List Row) : List Row :=
  users.insertionSort (fun a b => a.text "name" ≤ b.text "name")

/-- The users that `search` answers a request with, before they are shown. -/
def UserSearch [UuidRuntime] [SetOrder] [Digits] [Dialect] [Collation]
    (configured : List String) (db : Store) (p : SearchParams)
    (queryParams : List (String × String)) (answer : List Row) : Prop :=
  ∃ filters users, udmPropertyFilters configured queryParams = .ok filters ∧
    userManager.Answers db (buildQuery p filters) [] none 0 users ∧ answer = sortByName users

/-! ## The users that are asked for -/

section Wanted

variable [Digits] [TextDialect]

/-- The stored property is one that the value of a parameter asks for. -/
def Row.HasProperty (r : Row) (param value : String) : Prop :=
  if isdigit (lstripHyphens value) then
    ∃ number, decimalValue (lstripHyphens value).toList = some number ∧ (ReadsAs r param number ∨
      ∃ member, r.property param = some member ∧
        JsonDialect.containsText (lstripHyphens value) member = true)
  else if '*' ∈ value.toList then
    (Dialect.extract (r.cell "udm_properties") param .string).FoundCi value
  else ∃ member, r.property param = some member ∧ JsonDialect.containsText value member = true

/-- The parameters of a request that stand for configured properties. -/
def propertyParams (configured : List String) (queryParams : List (String × String)) :
    List (String × String) :=
  queryParams.filter (fun p => p.1 ∉ knownSearchParams ∧ p.1 ∈ configured)

/-- A user for whom every parameter of a request holds, where a pattern for the name of a school is
left open. -/
structure Wanted (configured : List String) (p : SearchParams)
    (queryParams : List (String × String)) (inSchool : String → Prop) (r : Row) : Prop where
  properties : ∀ param ∈ propertyParams configured queryParams, r.HasProperty param.1 param.2
  name : ∀ v ∈ givenText p.name, (r.cell "name").FoundCi v
  school : ∀ v ∈ givenText p.school, inSchool v
  firstname : ∀ v ∈ givenText p.firstname, (r.cell "firstname").FoundCi v
  lastname : ∀ v ∈ givenText p.lastname, (r.cell "lastname").FoundCi v
  email : ∀ v ∈ givenText p.email, (r.cell "email").FoundCi v
  recordUid : ∀ v ∈ givenText p.recordUid, (r.cell "record_uid").Found v
  sourceUid : ∀ v ∈ givenText p.sourceUid, (r.cell "source_uid").Found v
  birthday : ∀ d ∈ p.birthday, r.cell "birthday" = .date d
  expirationDate : ∀ d ∈ p.expirationDate, r.cell "expiration_date" = .date d
  disabled : ∀ b ∈ p.disabled, r.cell "active" = .bool (!b)

end Wanted

/-! ## The filters on the columns of a user -/

section Columns

variable [UuidRuntime] [SetOrder] [TextDialect] {db : Store}

end Columns

/-! ## The filters on properties -/

section Properties

variable [UuidRuntime] [SetOrder] [Digits] [TextDialect] {db : Store} {param value : String}

end Properties

/-! ## The users of a school -/

section Schools

variable [SetOrder] {db : Store} {r : Row}

omit [SetOrder] in
theorem Row.cell_id (r : Row) : r.cell "id" = .int r.id := rfl

end Schools

/-! ## The answer of a search -/

section Answer

variable [UuidRuntime] [SetOrder] [Digits] [TextDialect] {configured : List String} {db : Store}
  {p : SearchParams} {queryParams : List (String × String)} {filters : List QueryExpr}
  {answer : List Row}

omit [UuidRuntime] [SetOrder] in
theorem Wanted.mono {inSchool inSchool' : String → Prop} {r : Row}
    (h : Wanted configured p queryParams inSchool r)
    (hschool : ∀ v ∈ givenText p.school, inSchool v → inSchool' v) :
    Wanted configured p queryParams inSchool' r :=
  { h with school := fun v hv => hschool v hv (h.school v hv) }

end Answer

/-! ## The order of the answer -/

section Main

variable [UuidRuntime] [SetOrder] [Digits] [TextDialect] [Collation] {configured : List String}
  {db : Store} {p : SearchParams} {queryParams : List (String × String)} {filters : List QueryExpr}
  {users answer : List Row}

end Main

/-! ## Two users of a school -/

section Example

attribute [local instance] asciiUuidRuntime sortedOrder asciiDigits uuidCollation

/-- The token for a lower case letter. -/
def lowerToken : LikeToken → LikeToken
  | .char c => .char c.toLower
  | token => token

def asciiLike (tokens : List LikeToken) (text : String) : Bool := likeMatches tokens text.toList

def asciiIlike (tokens : List LikeToken) (text : String) : Bool :=
  likeMatches (tokens.map lowerToken) (text.toList.map Char.toLower)

/-- A pattern as it is sent, matched against a text. -/
def matchesSent (matcher : List LikeToken → String → Bool) (text pattern : String) : Bool :=
  ((likeTokens '\\' (globToSqlPattern '\\' pattern).toList).map (matcher · text)).getD false

theorem matchesSent_eq (matcher : List LikeToken → String → Bool) (pattern text : String)
    (tokens : List LikeToken)
    (h : likeTokens '\\' (globToSqlPattern '\\' pattern).toList = some tokens) :
    matchesSent matcher text pattern = matcher tokens text := by
  rw [matchesSent, h]
  rfl

def compareTyped : Operator → Cell → Scalar → Bool
  | .eq, .int a, .int b => a = b
  | .eq, .str a, .str b => a = b
  | .eq, .date a, .date b => a = b
  | .eq, .bool a, .bool b => a = b
  | .matches, .str text, .str pattern => matchesSent asciiLike text pattern
  | .matchesCi, .str text, .str pattern => matchesSent asciiIlike text pattern
  | _, _, _ => false

/-- The text under a key, and nothing else. -/
def textMember (cell : Cell) (key : String) : Cell :=
  match cell.member? key with
  | some (.str text) => .str text
  | _ => .null

def typedMember (cell : Cell) (key : String) : JsonType → Cell
  | .integer => integerMember cell key
  | .string => textMember cell key
  | _ => .null

theorem textMember_fits (cell : Cell) (key : String) :
    (typedMember cell key .string).fits .string = true := by
  show (textMember cell key).fits .string = true
  unfold textMember
  split <;> rfl

/-- A database that ignores the case of ASCII letters. -/
@[reducible] def asciiDialect : TextDialect where
  compare := compareTyped
  extract := typedMember
  contains cell key value := .ofBool (memberContains cell key value)
  accepts _ _ _ := true
  containsText := jsonbExists
  laws := jsonbExists_laws
  contains_holds := memberContains_holds
  extract_int := integerMember_int
  extract_none := integerMember_none
  compare_int _ _ := rfl
  likeText := asciiLike
  ilikeText := asciiIlike
  compare_matches := matchesSent_eq asciiLike
  compare_matchesCi := matchesSent_eq asciiIlike
  compare_str _ _ := rfl
  compare_date _ _ := rfl
  compare_bool _ _ := rfl
  accepts_typed _ _ _ _ _ _ := rfl
  extract_string := textMember_fits

attribute [local instance] asciiDialect

end Example

end Kelvin.Search
