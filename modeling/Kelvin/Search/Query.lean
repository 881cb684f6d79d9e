import Kelvin.Data.Outcome
import Kelvin.Objects.Runtime

/-!
# Queries and their statements

The query expressions of `core/domain/query.py`, the field maps of the managers, and the
translation of a query and of sort specifications into a statement (`query_filter.py`). A
statement is kept as what it was built from: its tables, its condition and its order.

* `QueryExpr`, `SortSpec`: what a search asks for.
* `Manager`: the fields of a manager and the relations that it joins for nested fields;
  `userManager` and its companions.
* `buildExpression`, `applySearchQuery`, `applySort`: the translation.
* `searchStatement`: the statement of `search`.
-/

namespace Kelvin.Search

/-! ## Query expressions -/

inductive Operator where
  | eq
  | ne
  | isIn
  | matches
  | matchesCi
  | gt
  | gte
  | lt
  | lte
  | contains
deriving DecidableEq

/-- `FilterScalarValue`. -/
inductive Scalar where
  | none
  | str (s : String)
  | int (n : Int)
  | float (text : String)
  | bool (b : Bool)
  | date (d : Date)
  | datetime (text : String)
  | decimal (text : String)
  | uuid (id : PublicId)
deriving DecidableEq

/-- `FilterValue`: a scalar or an iterable of scalars. -/
inductive FilterValue where
  | scalar (v : Scalar)
  | many (vs : List Scalar)
deriving DecidableEq

structure Filter where
  field : String
  op : Operator
  value : FilterValue
deriving DecidableEq

inductive QueryExpr where
  | filter (f : Filter)
  | and (clauses : List QueryExpr)
  | or (clauses : List QueryExpr)
  | not (clause : QueryExpr)

@[induction_eliminator]
theorem QueryExpr.induction {P : QueryExpr → Prop} (filter : ∀ f, P (.filter f))
    (and : ∀ clauses, (∀ q ∈ clauses, P q) → P (.and clauses))
    (or : ∀ clauses, (∀ q ∈ clauses, P q) → P (.or clauses))
    (not : ∀ clause, P clause → P (.not clause)) : ∀ q, P q
  | .filter f => filter f
  | .and clauses => and clauses (fun q _ => QueryExpr.induction filter and or not q)
  | .or clauses => or clauses (fun q _ => QueryExpr.induction filter and or not q)
  | .not clause => not clause (QueryExpr.induction filter and or not clause)

structure SortSpec where
  field : String
  ascending : Bool
deriving DecidableEq

/-- The errors of `core/domain/errors.py` that a search raises. -/
inductive QueryError where
  | unsupportedFilterField (field : String)
  | unsupportedSortField (field : String)
  | invalidInFilter (field : String) (value : FilterValue)
  | invalidJsonFilter (field : String) (value : FilterValue)
  | invalidUuidFilter (field : String) (value : String)
  | invalidPatternFilter (field : String) (value : FilterValue)
  | invalidRangeFilter (field : String) (op : Operator) (value : FilterValue)
  | unsupportedFilterOperator (field : String) (op : Operator)
  | unknownRelation (nestedField root : String) (allowed : List String)
  | unsupportedNestedField (nestedField reason : String) (supported : List String)
  | emptyAndClause
  | emptyOrClause
deriving DecidableEq

/-! ## Columns and managers -/

/-- The tables that a search reads. -/
inductive TableName where
  | school
  | group
  | user
  | role
  | schoolMembership
deriving DecidableEq

structure Column where
  table : TableName
  name : String
deriving DecidableEq

inductive ColumnType where
  | string
  | uuid
  | integer
  | float
  | boolean
  | date
  | json
deriving DecidableEq

/-- The mapped columns of a model (`column_attrs`). -/
def columnAttrs : TableName → List (String × ColumnType)
  | .school =>
    [("id", .integer), ("public_id", .uuid), ("record_uid", .string), ("source_uid", .string),
      ("name", .string), ("display_name", .string), ("educational_servers", .json),
      ("administrative_servers", .json), ("class_share_file_server", .string),
      ("home_share_file_server", .string), ("udm_properties", .json)]
  | .group =>
    [("id", .integer), ("public_id", .uuid), ("record_uid", .string), ("source_uid", .string),
      ("name", .string), ("display_name", .string), ("has_share", .boolean), ("email", .string),
      ("description", .string), ("udm_properties", .json), ("school_id", .integer)]
  | .user =>
    [("id", .integer), ("public_id", .uuid), ("record_uid", .string), ("source_uid", .string),
      ("name", .string), ("firstname", .string), ("lastname", .string), ("email", .string),
      ("birthday", .date), ("expiration_date", .date), ("active", .boolean),
      ("udm_properties", .json)]
  | .role =>
    [("id", .integer), ("public_id", .uuid), ("name", .string), ("display_name", .json)]
  | .schoolMembership =>
    [("id", .integer), ("is_primary", .boolean), ("primary_user_constraint", .integer),
      ("user_id", .integer), ("school_id", .integer)]

def Column.type? (c : Column) : Option ColumnType := (columnAttrs c.table).lookup c.name

/-- `JoinSpec`. All specifications are left outer joins. -/
structure JoinSpec where
  targetModel : TableName
  joinPath : List TableName

/-- `get_exposed_fields(target_model)`. -/
def JoinSpec.exposedFields (spec : JoinSpec) : List String :=
  (columnAttrs spec.targetModel).map Prod.fst

/-- The class attributes of a manager that a search uses. -/
structure Manager where
  model : TableName
  scalarFieldMap : List String
  nestedFieldRegistry : List (String × JoinSpec)
  jsonFieldMap : List String

/-- `_FIELD_MAP`: the base fields and the fields of the joined relations. -/
def Manager.fieldMap (m : Manager) : List (String × Column) :=
  ("public_id" :: m.scalarFieldMap).map (fun name => (name, ⟨m.model, name⟩)) ++
    m.nestedFieldRegistry.flatMap (fun entry => entry.2.exposedFields.map (fun name =>
      (entry.1 ++ "." ++ name, ⟨entry.2.targetModel, name⟩)))

def userManager : Manager where
  model := .user
  scalarFieldMap :=
    ["record_uid", "source_uid", "name", "firstname", "lastname", "email", "active", "birthday",
      "expiration_date"]
  nestedFieldRegistry :=
    [("groups", ⟨.group, [.schoolMembership, .group]⟩),
      ("roles", ⟨.role, [.schoolMembership, .role]⟩),
      ("schools", ⟨.school, [.schoolMembership, .school]⟩)]
  jsonFieldMap := ["udm_properties"]

def groupManager : Manager where
  model := .group
  scalarFieldMap := ["record_uid", "source_uid", "name", "email"]
  nestedFieldRegistry := [("school", ⟨.school, [.school]⟩)]
  jsonFieldMap := ["udm_properties"]

def schoolManager : Manager where
  model := .school
  scalarFieldMap :=
    ["record_uid", "source_uid", "name", "class_share_file_server", "home_share_file_server"]
  nestedFieldRegistry := []
  jsonFieldMap := ["udm_properties"]

def roleManager : Manager where
  model := .role
  scalarFieldMap := ["name"]
  nestedFieldRegistry := []
  jsonFieldMap := []

/-- A manager of the objects that can be searched. -/
inductive Manager.Known : Manager → Prop where
  | user : Known userManager
  | group : Known groupManager
  | school : Known schoolManager
  | role : Known roleManager

/-! ## Conditions -/

/-- The type of an extraction from a JSON column. -/
inductive JsonType where
  | boolean
  | integer
  | float
  | string
deriving DecidableEq

/-- A column, or the typed extraction of a key from a JSON column. -/
inductive FieldColumn where
  | column (c : Column)
  | json (c : Column) (key : String) (as : JsonType)
deriving DecidableEq

def FieldColumn.base : FieldColumn → Column
  | .column c => c
  | .json c _ _ => c

/-- The type of a column, as far as the validation of filters looks at it. -/
def FieldColumn.type? : FieldColumn → Option ColumnType
  | .column c => c.type?
  | .json _ _ .boolean => some .boolean
  | .json _ _ .integer => some .integer
  | .json _ _ .float => some .float
  | .json _ _ .string => some .string

/-- The condition of a statement. -/
inductive Condition where
  | test (column : FieldColumn) (op : Operator) (value : FilterValue)
  | contains (column : Column) (key value : String)
  | and (cs : List Condition)
  | or (cs : List Condition)
  | not (c : Condition)

@[induction_eliminator]
theorem Condition.induction {P : Condition → Prop} (test : ∀ column op value, P (.test column op value))
    (contains : ∀ column key value, P (.contains column key value))
    (and : ∀ cs, (∀ c ∈ cs, P c) → P (.and cs)) (or : ∀ cs, (∀ c ∈ cs, P c) → P (.or cs))
    (not : ∀ c, P c → P (.not c)) : ∀ c, P c
  | .test column op value => test column op value
  | .contains column key value => contains column key value
  | .and cs => and cs (fun c _ => Condition.induction test contains and or not c)
  | .or cs => or cs (fun c _ => Condition.induction test contains and or not c)
  | .not c => not c (Condition.induction test contains and or not c)

/-- `field.partition(".")`, if there is a dot. -/
def partitionDot (field : String) : Option (String × String) :=
  if '.' ∈ field.toList then
    some (String.ofList (field.toList.takeWhile (· ≠ '.')),
      String.ofList ((field.toList.dropWhile (· ≠ '.')).drop 1))
  else none

/-- The column of a JSON field. -/
def Manager.jsonColumn? (m : Manager) (root : String) : Option Column :=
  if root ∈ m.jsonFieldMap then some ⟨m.model, root⟩ else none

/-- `_build_json_contains_expression`. -/
def buildJsonContainsExpression (m : Manager) (f : Filter) : Except QueryError Condition :=
  match (partitionDot f.field).bind (fun p => (m.jsonColumn? p.1).map (·, p.2)) with
  | none => .error (.unsupportedFilterOperator f.field f.op)
  | some (column, key) =>
    match f.value with
    | .scalar (.str value) => .ok (.contains column key value)
    | value => .error (.invalidJsonFilter f.field value)

/-- `_json_extracted_column`: the type of the extraction follows the value of the filter. -/
def jsonExtractedColumn (column : Column) (key : String) (f : Filter) :
    Except QueryError FieldColumn :=
  match f.value with
  | .scalar (.bool _) => .ok (.json column key .boolean)
  | .scalar (.int _) => .ok (.json column key .integer)
  | .scalar (.float _) => .ok (.json column key .float)
  | .scalar (.str _) => .ok (.json column key .string)
  | value => .error (.invalidJsonFilter f.field value)

/-- The error for a nested field that is not in the field map. -/
def nestedFieldError (m : Manager) (field root part : String) : QueryError :=
  match m.nestedFieldRegistry.lookup root with
  | none => .unknownRelation field root (m.nestedFieldRegistry.map Prod.fst)
  | some spec =>
    let supported := spec.exposedFields.insertionSort (· ≤ ·)
    if part ∉ spec.exposedFields then
      .unsupportedNestedField field
        ("Field '" ++ part ++ "' not supported on relation '" ++ root ++ "'") supported
    else
      .unsupportedNestedField field
        ("Field '" ++ part ++ "' is not mapped for relation '" ++ root ++ "'") supported

/-- `_get_filter_column`. -/
def getFilterColumn (m : Manager) (f : Filter) : Except QueryError FieldColumn :=
  match m.fieldMap.lookup f.field with
  | some column => .ok (.column column)
  | none => match partitionDot f.field with
    | none => .error (.unsupportedFilterField f.field)
    | some (root, part) => match m.jsonColumn? root with
      | some column => jsonExtractedColumn column part f
      | none =>
        if m.nestedFieldRegistry.isEmpty then .error (.unsupportedFilterField f.field)
        else .error (nestedFieldError m f.field root part)

/-- `RANGE_CAPABLE_TYPES`, as far as there are columns of them. -/
def rangeCapable (type : Option ColumnType) : Bool :=
  type = some .date || type = some .float || type = some .integer

/-- `RANGE_OPERATORS`. -/
def Operator.isRange (op : Operator) : Bool := op = .gt || op = .gte || op = .lt || op = .lte

/-- `_validate_filter_value`. -/
def validateFilterValue (f : Filter) (column : FieldColumn) : Except QueryError Unit :=
  if f.op = .isIn then
    match f.value with
    | .many _ => .ok ()
    | value => .error (.invalidInFilter f.field value)
  else if f.op = .matches ∨ f.op = .matchesCi then
    match f.value with
    | .scalar (.str _) => .ok ()
    | value => .error (.invalidPatternFilter f.field value)
  else if f.op.isRange ∧ (f.value = .scalar .none ∨ rangeCapable column.type? = false) then
    .error (.invalidRangeFilter f.field f.op f.value)
  else .ok ()

section Coerce

variable [UuidRuntime]

/-- `_coerce_uuid`. -/
def coerceUuid (field : String) : Scalar → Except QueryError Scalar
  | .str text => match UuidRuntime.uuid text with
    | some id => .ok (.uuid id)
    | none => .error (.invalidUuidFilter field text)
  | value => .ok value

/-- `_coerce_filter_value`. -/
def coerceFilterValue (f : Filter) (column : FieldColumn) : Except QueryError FilterValue :=
  if (f.op = .eq ∨ f.op = .ne ∨ f.op = .isIn) ∧ column.type? = some .uuid then
    match f.value with
    | .many vs => (vs.mapM (coerceUuid f.field)).map .many
    | .scalar v => (coerceUuid f.field v).map .scalar
  else .ok f.value

/-- `_build_filter_expression`. -/
def buildFilterExpression (m : Manager) (f : Filter) : Except QueryError Condition :=
  if f.op = .contains then buildJsonContainsExpression m f
  else do
    let column ← getFilterColumn m f
    validateFilterValue f column
    let value ← coerceFilterValue f column
    pure (.test column f.op value)

mutual

/-- `build_expression`. -/
def buildExpression (m : Manager) : QueryExpr → Except QueryError Condition
  | .filter f => buildFilterExpression m f
  | .and clauses =>
    if clauses.isEmpty then .error .emptyAndClause else (buildClauses m clauses).map .and
  | .or clauses =>
    if clauses.isEmpty then .error .emptyOrClause else (buildClauses m clauses).map .or
  | .not clause => (buildExpression m clause).map .not

def buildClauses (m : Manager) : List QueryExpr → Except QueryError (List Condition)
  | [] => .ok []
  | clause :: clauses => do
    let c ← buildExpression m clause
    let cs ← buildClauses m clauses
    pure (c :: cs)

end

theorem buildFilterExpression_eq_ok {m : Manager} {f : Filter} {c : Condition} :
    buildFilterExpression m f = .ok c ↔
      if f.op = .contains then buildJsonContainsExpression m f = .ok c
      else ∃ column, getFilterColumn m f = .ok column ∧ validateFilterValue f column = .ok () ∧
        ∃ value, coerceFilterValue f column = .ok value ∧ c = .test column f.op value := by
  unfold buildFilterExpression
  split
  · rfl
  · simp only [bind_eq_ok, pure_eq_ok]
    constructor
    · rintro ⟨column, hcolumn, _, hvalid, value, hvalue, rfl⟩
      exact ⟨column, hcolumn, hvalid, value, hvalue, rfl⟩
    · rintro ⟨column, hcolumn, hvalid, value, hvalue, rfl⟩
      exact ⟨column, hcolumn, (), hvalid, value, hvalue, rfl⟩

theorem buildExpression_and_eq_ok {m : Manager} {clauses : List QueryExpr} {c : Condition} :
    buildExpression m (.and clauses) = .ok c ↔
      clauses ≠ [] ∧ ∃ cs, buildClauses m clauses = .ok cs ∧ c = .and cs := by
  rw [buildExpression]
  cases clauses with
  | nil => simp
  | cons clause clauses => simp [map_eq_ok]

theorem buildExpression_or_eq_ok {m : Manager} {clauses : List QueryExpr} {c : Condition} :
    buildExpression m (.or clauses) = .ok c ↔
      clauses ≠ [] ∧ ∃ cs, buildClauses m clauses = .ok cs ∧ c = .or cs := by
  rw [buildExpression]
  cases clauses with
  | nil => simp
  | cons clause clauses => simp [map_eq_ok]

theorem buildExpression_not_eq_ok {m : Manager} {clause : QueryExpr} {c : Condition} :
    buildExpression m (.not clause) = .ok c ↔
      ∃ c', buildExpression m clause = .ok c' ∧ c = .not c' := by
  rw [buildExpression, map_eq_ok]

/-- The clauses are translated one by one. -/
theorem buildClauses_eq_ok {m : Manager} {clauses : List QueryExpr} {cs : List Condition} :
    buildClauses m clauses = .ok cs ↔
      List.Forall₂ (fun q c => buildExpression m q = .ok c) clauses cs := by
  induction clauses generalizing cs with
  | nil =>
    rw [buildClauses, List.forall₂_nil_left_iff]
    exact ⟨fun h => by cases h; rfl, fun h => by rw [h]⟩
  | cons clause clauses ih =>
    rw [buildClauses]
    simp only [bind_eq_ok, pure_eq_ok, List.forall₂_cons_left_iff]
    constructor
    · rintro ⟨c, hc, rest, hrest, rfl⟩
      exact ⟨c, rest, hc, ih.mp hrest, rfl⟩
    · rintro ⟨c, rest, hc, hrest, rfl⟩
      exact ⟨c, hc, rest, ih.mpr hrest, rfl⟩

end Coerce

/-! ## Joins -/

mutual

/-- `_collect_query_fields`. -/
def queryFields : QueryExpr → Finset String
  | .filter f => {f.field}
  | .and clauses => clauseFields clauses
  | .or clauses => clauseFields clauses
  | .not clause => queryFields clause

def clauseFields : List QueryExpr → Finset String
  | [] => ∅
  | clause :: clauses => queryFields clause ∪ clauseFields clauses

end

theorem mem_clauseFields {clauses : List QueryExpr} {field : String} :
    field ∈ clauseFields clauses ↔ ∃ q ∈ clauses, field ∈ queryFields q := by
  induction clauses with
  | nil => simp [clauseFields]
  | cons clause clauses ih => simp [clauseFields, ih]

/-- `_collect_sort_fields`; a field without a dot names no relation. -/
def sortFields (specs : List SortSpec) : Finset String := (specs.map SortSpec.field).toFinset

/-- The registered relation that a field goes through. -/
def Manager.root? (m : Manager) (field : String) : Option String :=
  (partitionDot field).bind (fun p =>
    if (m.nestedFieldRegistry.lookup p.1).isSome then some p.1 else none)

/-- `_extract_registered_nested_roots`. -/
def Manager.requiredJoins (m : Manager) (fields : Finset String) : Finset String :=
  fields.biUnion (fun field => ((m.root? field).map ({·})).getD ∅)

/-- The order in which a set is iterated. -/
class SetOrder where
  toList : Finset String → List String
  nodup : ∀ s, (toList s).Nodup
  mem : ∀ s x, x ∈ toList s ↔ x ∈ s

/-- A statement that selects the objects of a model. All joins are left outer joins. -/
structure Select where
  model : TableName
  joins : List TableName
  distinct : Bool
  condition : Option Condition
  orderBy : List (Column × Bool)
  limit : Option Nat
  offset : Nat

/-- `select(model)`. -/
def select (model : TableName) : Select where
  model := model
  joins := []
  distinct := false
  condition := none
  orderBy := []
  limit := none
  offset := 0

section Statements

variable [SetOrder]

/-- The tables that are joined for some relations. -/
def Manager.joinPaths (m : Manager) (required : Finset String) : List TableName :=
  (SetOrder.toList required).flatMap (fun root =>
    ((m.nestedFieldRegistry.lookup root).map JoinSpec.joinPath).getD [])

/-- `apply_nested_joins`. -/
def applyNestedJoins (m : Manager) (stmt : Select) (required : Finset String) : Select :=
  if required = ∅ then stmt
  else { stmt with joins := stmt.joins ++ m.joinPaths required, distinct := true }

/-- `apply_search_query`. -/
def applySearchQuery [UuidRuntime] (m : Manager) (stmt : Select) (query : Option QueryExpr) :
    Except QueryError Select :=
  match query with
  | none => .ok stmt
  | some q => do
    let stmt := applyNestedJoins m stmt (m.requiredJoins (queryFields q))
    let condition ← buildExpression m q
    pure { stmt with condition := some condition }

/-- The sort specifications with the default behind them, unless they name it. -/
def withDefault (specs : List SortSpec) : List SortSpec :=
  if specs.all (fun spec => spec.field ≠ "public_id") then specs ++ [⟨"public_id", true⟩]
  else specs

def orderColumn (m : Manager) (spec : SortSpec) : Except QueryError (Column × Bool) :=
  match m.fieldMap.lookup spec.field with
  | some column => .ok (column, spec.ascending)
  | none => .error (.unsupportedSortField spec.field)

/-- `apply_sort`. -/
def applySort (m : Manager) (stmt : Select) (sortBy : List SortSpec) : Except QueryError Select := do
  let specs := if sortBy.isEmpty then [⟨"public_id", true⟩] else sortBy
  let stmt := applyNestedJoins m stmt (m.requiredJoins (sortFields specs))
  let columns ← (withDefault specs).mapM (orderColumn m)
  pure { stmt with orderBy := stmt.orderBy ++ columns }

/-- The statement of `search`. An offset of zero is not written. -/
def searchStatement [UuidRuntime] (m : Manager) (query : Option QueryExpr) (sortBy : List SortSpec)
    (limit : Option Nat) (offset : Nat) : Except QueryError Select := do
  let stmt ← applySearchQuery m (select m.model) query
  let stmt ← applySort m stmt sortBy
  pure { stmt with limit := limit, offset := offset }

end Statements

end Kelvin.Search
