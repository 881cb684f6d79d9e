import Kelvin.Data.Like
import Kelvin.Data.Relational
import Kelvin.Search.Patterns
import Kelvin.Search.Statements

/-!
# What a statement selects

The tables as the database holds them, and the rows that a statement selects from them:
left outer joins along the foreign keys, and conditions in three-valued logic. What the
database itself decides (comparisons of present values, the reading of JSON columns) is
the parameter `Dialect`.

* `Store`: the tables, with their primary keys and their public ids.
* `Condition.eval`: the truth value of a condition on a joined row; it depends on the
  tables of the condition only (`Condition.eval_congr`).
* `Select.selected`: the joined rows that a statement selects, if the statement is valid.
* `Manager.found`: the objects that a search finds.
-/

namespace Kelvin.Search

/-! ## Stored rows -/

/-- The value of a column in a row. -/
inductive Cell where
  | null
  | int (n : Int)
  | bool (b : Bool)
  | str (s : String)
  | date (d : Date)
  | uuid (id : PublicId)
  | json (j : Json)
deriving DecidableEq

structure Row where
  id : Nat
  cells : List (String × Cell)
deriving DecidableEq

/-- The value of a column; the primary key is a column too. -/
def Row.cell (r : Row) (name : String) : Cell :=
  if name = "id" then .int r.id else (r.cells.lookup name).getD .null

def Cell.isUuid : Cell → Bool
  | .uuid _ => true
  | _ => false

/-- The tables of the database. Rows are told apart by their primary keys, and objects by their
public ids as well. -/
structure Store where
  rows : TableName → List Row
  ids_nodup : ∀ t, ((rows t).map Row.id).Nodup
  publicId : ∀ t, t ≠ .schoolMembership → ∀ r ∈ rows t, (r.cell "public_id").isUuid = true
  publicIds_nodup : ∀ t, t ≠ .schoolMembership → ((rows t).map (Row.cell · "public_id")).Nodup

/-- What the database decides. -/
class Dialect where
  /-- A comparison of a value that is present with a value that is not `None`. -/
  compare : Operator → Cell → Scalar → Bool
  /-- The typed extraction of a key from a JSON column. -/
  extract : Cell → String → JsonType → Cell
  /-- The `contains` operator on a JSON column. -/
  contains : Cell → String → String → Truth
  /-- The database accepts the comparison of a column with a value. -/
  accepts : FieldColumn → Operator → FilterValue → Bool

/-! ## Conditions -/

section Conditions

variable [Dialect]

/-- The value of a column in a joined row. -/
def cellOf (env : Joined TableName Row) (c : Column) : Cell :=
  match env c.table with
  | some r => r.cell c.name
  | none => .null

def fieldCell (env : Joined TableName Row) : FieldColumn → Cell
  | .column c => cellOf env c
  | .json c key as => Dialect.extract (cellOf env c) key as

/-- A comparison; it is unknown as soon as one side is missing. -/
def compareTruth (op : Operator) (cell : Cell) (v : Scalar) : Truth :=
  if cell = .null ∨ v = .none then .unknown else .ofBool (Dialect.compare op cell v)

/-- `FILTER_OPERATOR_BUILDERS`: equality with `None` is `IS NULL`. -/
def testTruth (op : Operator) (cell : Cell) : FilterValue → Truth
  | .many vs => Truth.any (vs.map (compareTruth .eq cell))
  | .scalar v =>
    if op = .eq ∧ v = .none then .ofBool (decide (cell = .null))
    else if op = .ne ∧ v = .none then .ofBool (decide (cell ≠ .null))
    else if op = .ne then (compareTruth .eq cell v).not
    else compareTruth op cell v

mutual

/-- The truth value of a condition on a joined row. -/
def Condition.eval (env : Joined TableName Row) : Condition → Truth
  | .test column op value => testTruth op (fieldCell env column) value
  | .contains column key value => Dialect.contains (cellOf env column) key value
  | .and cs => Truth.all (evalConditions env cs)
  | .or cs => Truth.any (evalConditions env cs)
  | .not c => (c.eval env).not

def evalConditions (env : Joined TableName Row) : List Condition → List Truth
  | [] => []
  | c :: cs => c.eval env :: evalConditions env cs

end

mutual

/-- The database accepts every comparison of a condition. -/
def Condition.accepted : Condition → Bool
  | .test column op value => Dialect.accepts column op value
  | .contains _ _ _ => true
  | .and cs => conditionsAccepted cs
  | .or cs => conditionsAccepted cs
  | .not c => c.accepted

def conditionsAccepted : List Condition → Bool
  | [] => true
  | c :: cs => c.accepted && conditionsAccepted cs

end

theorem evalConditions_eq_map (env : Joined TableName Row) (cs : List Condition) :
    evalConditions env cs = cs.map (Condition.eval env) := by
  induction cs with
  | nil => rfl
  | cons c cs ih => rw [evalConditions, ih, List.map_cons]

@[simp] theorem eval_and {env : Joined TableName Row} {cs : List Condition} :
    (Condition.and cs).eval env = .holds ↔ ∀ c ∈ cs, c.eval env = .holds := by
  rw [Condition.eval, evalConditions_eq_map, Truth.all_eq_holds, List.forall_mem_map]

@[simp] theorem eval_not {env : Joined TableName Row} {c : Condition} :
    (Condition.not c).eval env = .holds ↔ c.eval env = .fails := by
  rw [Condition.eval, Truth.not_eq_holds]

/-- A condition looks only at the tables of its columns. -/
theorem Condition.eval_congr {env env' : Joined TableName Row} {cond : Condition}
    (h : ∀ c ∈ cond.columns, env c.table = env' c.table) : cond.eval env = cond.eval env' := by
  have hclauses : ∀ cs : List Condition,
      (∀ c ∈ cs, (∀ col ∈ c.columns, env col.table = env' col.table) → c.eval env = c.eval env') →
      (∀ col ∈ conditionsColumns cs, env col.table = env' col.table) →
      evalConditions env cs = evalConditions env' cs := by
    intro cs ih hcs
    rw [evalConditions_eq_map, evalConditions_eq_map]
    refine List.map_congr_left fun c hc => ih c hc fun col hcol => ?_
    exact hcs col (mem_conditionsColumns.mpr ⟨c, hc, hcol⟩)
  induction cond with
  | test column op value =>
    have hcell : cellOf env column.base = cellOf env' column.base := by
      unfold cellOf
      rw [h column.base List.mem_cons_self]
    cases column with
    | column c => rw [Condition.eval, Condition.eval, fieldCell, fieldCell, show cellOf env c = _ from hcell]; rfl
    | json c key as => rw [Condition.eval, Condition.eval, fieldCell, fieldCell, show cellOf env c = _ from hcell]; rfl
  | contains column key value =>
    have hcell : cellOf env column = cellOf env' column := by
      unfold cellOf
      rw [h column List.mem_cons_self]
    rw [Condition.eval, Condition.eval, hcell]
  | and cs ih => rw [Condition.eval, Condition.eval, hclauses cs ih h]
  | or cs ih => rw [Condition.eval, Condition.eval, hclauses cs ih h]
  | not c ih => rw [Condition.eval, Condition.eval, ih h]

end Conditions

/-! ## Joins along foreign keys -/

/-- The foreign keys of `database_models.py` between the tables of a search. -/
def foreignKeys : List (Column × Column) :=
  [(⟨.schoolMembership, "user_id"⟩, ⟨.user, "id"⟩),
    (⟨.schoolMembership, "school_id"⟩, ⟨.school, "id"⟩),
    (⟨.group, "school_id"⟩, ⟨.school, "id"⟩)]

/-- The foreign keys between some tables and a further one. -/
def keysBetween (tables : List TableName) (t : TableName) : List (Column × Column) :=
  foreignKeys.filter (fun fk =>
    decide (fk.1.table = t ∧ fk.2.table ∈ tables ∨ fk.2.table = t ∧ fk.1.table ∈ tables))

/-- The condition of `join(t)` without an explicit one: the foreign key to the last table, else
the one to any table before. It must be the only one. -/
def onClause (tables : List TableName) (t : TableName) : Option (Column × Column) :=
  match keysBetween (tables.take 1) t with
  | [fk] => some fk
  | _ :: _ :: _ => none
  | [] => match keysBetween tables t with
    | [fk] => some fk
    | _ => none

/-- The tables to join with their conditions; `tables` are those before, the last one first. -/
def joinClauses (tables : List TableName) :
    List TableName → Option (List (TableName × (Column × Column)))
  | [] => some []
  | t :: ts => do
    let fk ← onClause tables t
    let clauses ← joinClauses (t :: tables) ts
    pure ((t, fk) :: clauses)

/-- `ON a = b` for a further row. -/
def onHolds (t : TableName) (fk : Column × Column) (env : Joined TableName Row) (r : Row) : Bool :=
  let env' := Function.update env t (some r)
  decide (cellOf env' fk.1 ≠ .null ∧ cellOf env' fk.1 = cellOf env' fk.2)

/-- The joined row of an object alone. -/
def rootRow (model : TableName) (r : Row) : Joined TableName Row :=
  Function.update (fun _ => none) model (some r)

/-- The joined rows of a model and further tables. -/
def Store.joined (db : Store) (model : TableName)
    (clauses : List (TableName × (Column × Column))) : List (Joined TableName Row) :=
  clauses.foldl (fun envs clause =>
    leftJoin clause.1 (onHolds clause.1 clause.2) (db.rows clause.1) envs)
    ((db.rows model).map (rootRow model))


/-- What a statement selects before it is ordered: the joined rows on which its condition holds.
There is nothing if a table has no foreign key to join it by, if a table occurs twice, or if
the database does not accept a comparison. -/
def Select.selected [Dialect] (db : Store) (stmt : Select) : Option (List (Joined TableName Row)) :=
  if stmt.tables.Nodup ∧ (∀ c ∈ stmt.condition, c.accepted = true) then
    (joinClauses [stmt.model] stmt.joins).map (fun clauses =>
      (db.joined stmt.model clauses).filter (fun env =>
        decide (∀ c ∈ stmt.condition, c.eval env = .holds)))
  else none

/-- The objects that a search finds, in no order; a search that fails finds nothing. -/
def Manager.found [UuidRuntime] [SetOrder] [Dialect] (m : Manager) (db : Store) (q : QueryExpr) :
    Option (Finset Row) :=
  match searchStatement m (some q) [] none 0 with
  | .ok stmt => (stmt.selected db).map (fun envs => (envs.filterMap (· m.model)).toFinset)
  | .error _ => none

/-! ## Joined rows and their objects -/

section JoinedRows

variable {db : Store} {model : TableName}

/-- Further joins keep every joined row. -/
theorem foldl_leftJoin_extends (db : Store) {clauses : List (TableName × (Column × Column))}
    {envs : List (Joined TableName Row)} {env : Joined TableName Row} (h : env ∈ envs) :
    ∃ env' ∈ clauses.foldl (fun envs clause =>
        leftJoin clause.1 (onHolds clause.1 clause.2) (db.rows clause.1) envs) envs,
      ∀ t, t ∉ clauses.map Prod.fst → env' t = env t := by
  induction clauses generalizing envs env with
  | nil => exact ⟨env, h, fun _ _ => rfl⟩
  | cons clause clauses ih =>
    obtain ⟨next, hnext, hagree⟩ :=
      leftJoin_extends clause.1 (onHolds clause.1 clause.2) (db.rows clause.1) h
    obtain ⟨env', henv', hagree'⟩ := ih hnext
    refine ⟨env', henv', fun t ht => ?_⟩
    rw [List.map_cons, List.mem_cons, not_or] at ht
    rw [hagree' t ht.2, hagree t ht.1]

/-- Further joins make up no joined row. -/
theorem foldl_leftJoin_restricts {clauses : List (TableName × (Column × Column))}
    {envs : List (Joined TableName Row)} {env' : Joined TableName Row}
    (h : env' ∈ clauses.foldl (fun envs clause =>
        leftJoin clause.1 (onHolds clause.1 clause.2) (db.rows clause.1) envs) envs) :
    ∃ env ∈ envs, ∀ t, t ∉ clauses.map Prod.fst → env' t = env t := by
  induction clauses generalizing envs with
  | nil => exact ⟨env', h, fun _ _ => rfl⟩
  | cons clause clauses ih =>
    obtain ⟨next, hnext, hagree'⟩ := ih h
    obtain ⟨env, henv, hagree⟩ := leftJoin_restricts hnext
    refine ⟨env, henv, fun t ht => ?_⟩
    rw [List.map_cons, List.mem_cons, not_or] at ht
    rw [hagree' t ht.2, hagree t ht.1]

/-- The objects in the joined rows are those of the model. -/
theorem stored_of_joined {clauses : List (TableName × (Column × Column))}
    (hmodel : model ∉ clauses.map Prod.fst) {env : Joined TableName Row} {r : Row}
    (henv : env ∈ db.joined model clauses) (hr : env model = some r) : r ∈ db.rows model := by
  obtain ⟨start, hstart, hagree⟩ := foldl_leftJoin_restricts henv
  obtain ⟨r', hr', rfl⟩ := List.mem_map.mp hstart
  have hroot := hagree model hmodel
  rw [hr, rootRow, Function.update_self, Option.some.injEq] at hroot
  rw [hroot]
  exact hr'

end JoinedRows

end Kelvin.Search
