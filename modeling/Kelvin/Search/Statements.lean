import Mathlib.Data.Finset.Card
import Mathlib.Data.List.Sort
import Kelvin.Search.Query

/-!
# The tables of a statement

`search` joins the relations of the filter and then, once more, the relations of the sort
specifications (`apply_search_query`, `apply_sort`). The relations of a manager share their
first join, so a statement is valid only if at most one of them is joined, once.

* `Select.columns`, `Select.tables`: what a statement refers to and what it joins.
* `buildExpression_columns`: a condition refers to the model and to the required joins.
* `nodup_joinPaths_iff`: no table is joined twice iff at most one relation is joined.
* `searchStatement_wellFormed_iff`: the two together, for every accepted search.
-/

namespace Kelvin.Search

/-! ## Columns and tables -/

mutual

/-- The columns that a condition refers to. -/
def Condition.columns : Condition → List Column
  | .test column _ _ => [column.base]
  | .contains column _ _ => [column]
  | .and cs => conditionsColumns cs
  | .or cs => conditionsColumns cs
  | .not c => c.columns

def conditionsColumns : List Condition → List Column
  | [] => []
  | c :: cs => c.columns ++ conditionsColumns cs

end

theorem mem_conditionsColumns {cs : List Condition} {column : Column} :
    column ∈ conditionsColumns cs ↔ ∃ c ∈ cs, column ∈ c.columns := by
  induction cs with
  | nil => simp [conditionsColumns]
  | cons c cs ih => simp [conditionsColumns, ih]

/-- The columns that a statement refers to in its filter and its order. -/
def Select.columns (stmt : Select) : List Column :=
  (stmt.condition.map Condition.columns).getD [] ++ stmt.orderBy.map Prod.fst

def Select.tables (stmt : Select) : List TableName := stmt.model :: stmt.joins

/-- A statement in which no table occurs twice and every column belongs to a table. -/
structure Select.WellFormed (stmt : Select) : Prop where
  tables : stmt.tables.Nodup
  columns : ∀ c ∈ stmt.columns, c.table ∈ stmt.tables

/-! ## The fields of a manager -/

/-- The tables that a field goes through. -/
def Manager.pathOf (m : Manager) (field : String) : List TableName :=
  (((m.root? field).bind (m.nestedFieldRegistry.lookup ·)).map JoinSpec.joinPath).getD []

/-- The field map and the registry agree: a field's column belongs to the model or to a table
that the field goes through, and all relations share a join. -/
structure Manager.Coherent (m : Manager) : Prop where
  fields : ∀ entry ∈ m.fieldMap, entry.2.table ∈ m.model :: m.pathOf entry.1
  paths : ∀ entry ∈ m.nestedFieldRegistry, (m.model :: entry.2.joinPath).Nodup
  shared : ∃ hub, ∀ entry ∈ m.nestedFieldRegistry, hub ∈ entry.2.joinPath

theorem Manager.Known.coherent {m : Manager} (h : m.Known) : m.Coherent := by
  cases h with
  | user => exact ⟨by decide, by decide, .schoolMembership, by decide⟩
  | group => exact ⟨by decide, by decide, .school, by decide⟩
  | school => exact ⟨by decide, by decide, .school, by decide⟩
  | role => exact ⟨by decide, by decide, .role, by decide⟩

theorem mem_of_lookup {α β : Type} [BEq α] [LawfulBEq α] {a : α} {b : β} {l : List (α × β)}
    (h : l.lookup a = some b) : (a, b) ∈ l := by
  obtain ⟨before, after, rfl, -⟩ := List.lookup_eq_some_iff.mp h
  exact List.mem_append_right before List.mem_cons_self

theorem Manager.Coherent.table_mem {m : Manager} (hm : m.Coherent) {field : String} {c : Column}
    (h : m.fieldMap.lookup field = some c) : c.table ∈ m.model :: m.pathOf field :=
  hm.fields (field, c) (mem_of_lookup h)

/-- A column that belongs to the model or to the relation of one of some fields. -/
def Manager.Reaches (m : Manager) (fields : Finset String) (c : Column) : Prop :=
  ∃ field ∈ fields, c.table ∈ m.model :: m.pathOf field

theorem Manager.Reaches.mono {m : Manager} {fields fields' : Finset String} {c : Column}
    (h : m.Reaches fields c) (hsub : fields ⊆ fields') : m.Reaches fields' c := by
  obtain ⟨field, hfield, hc⟩ := h
  exact ⟨field, hsub hfield, hc⟩

theorem jsonColumn?_table {m : Manager} {root : String} {c : Column}
    (h : m.jsonColumn? root = some c) : c.table = m.model := by
  unfold Manager.jsonColumn? at h
  split at h
  · cases h
    rfl
  · cases h

theorem buildJsonContainsExpression_columns {m : Manager} {f : Filter} {cond : Condition}
    (h : buildJsonContainsExpression m f = .ok cond) :
    ∀ c ∈ cond.columns, c.table = m.model := by
  unfold buildJsonContainsExpression at h
  split at h
  · cases h
  · rename_i column key hcolumn
    obtain ⟨p, -, hp⟩ := Option.bind_eq_some_iff.mp hcolumn
    obtain ⟨c', hc', heq⟩ := Option.map_eq_some_iff.mp hp
    obtain ⟨rfl, -⟩ := Prod.mk.inj heq
    split at h
    · cases h
      intro c hc
      rw [List.mem_singleton.mp hc]
      exact jsonColumn?_table hc'
    · cases h

theorem jsonExtractedColumn_base {column : Column} {key : String} {f : Filter} {c : FieldColumn}
    (h : jsonExtractedColumn column key f = .ok c) : c.base = column := by
  unfold jsonExtractedColumn at h
  split at h <;> cases h <;> rfl

theorem getFilterColumn_table {m : Manager} (hm : m.Coherent) {f : Filter} {c : FieldColumn}
    (h : getFilterColumn m f = .ok c) : c.base.table ∈ m.model :: m.pathOf f.field := by
  unfold getFilterColumn at h
  split at h
  · rename_i column hcolumn
    cases h
    exact hm.table_mem hcolumn
  · split at h
    · cases h
    · split at h
      · rename_i root part _ column hcolumn
        rw [jsonExtractedColumn_base h, jsonColumn?_table hcolumn]
        exact List.mem_cons_self
      · split at h <;> cases h

/-! ## The columns of a condition -/

section Columns

variable [UuidRuntime] {m : Manager}

theorem buildFilterExpression_columns (hm : m.Coherent) {f : Filter} {cond : Condition}
    (h : buildFilterExpression m f = .ok cond) : ∀ c ∈ cond.columns, m.Reaches {f.field} c := by
  intro c hc
  refine ⟨f.field, Finset.mem_singleton_self _, ?_⟩
  rw [buildFilterExpression_eq_ok] at h
  split at h
  · rw [buildJsonContainsExpression_columns h c hc]
    exact List.mem_cons_self
  · obtain ⟨column, hcolumn, -, value, -, rfl⟩ := h
    rw [Condition.columns, List.mem_singleton] at hc
    rw [hc]
    exact getFilterColumn_table hm hcolumn

theorem forall₂_columns {clauses : List QueryExpr} {cs : List Condition}
    (ih : ∀ q ∈ clauses, ∀ cond, buildExpression m q = .ok cond →
      ∀ c ∈ cond.columns, m.Reaches (queryFields q) c)
    (h : List.Forall₂ (fun q c => buildExpression m q = .ok c) clauses cs) :
    ∀ c ∈ conditionsColumns cs, m.Reaches (clauseFields clauses) c := by
  intro column hcolumn
  obtain ⟨cond, hcond, hmem⟩ := mem_conditionsColumns.mp hcolumn
  obtain ⟨q, hq, hbuild⟩ := exists_of_mem_right h hcond
  refine (ih q hq cond hbuild column hmem).mono ?_
  intro field hfield
  exact mem_clauseFields.mpr ⟨q, hq, hfield⟩

/-- A condition refers to the model and to the relations of its own fields only. -/
theorem buildExpression_columns (hm : m.Coherent) (q : QueryExpr) :
    ∀ cond, buildExpression m q = .ok cond →
      ∀ c ∈ cond.columns, m.Reaches (queryFields q) c := by
  induction q with
  | filter f =>
    intro cond h
    exact buildFilterExpression_columns hm h
  | and clauses ih =>
    intro cond h
    obtain ⟨-, cs, hcs, rfl⟩ := buildExpression_and_eq_ok.mp h
    exact forall₂_columns ih (buildClauses_eq_ok.mp hcs)
  | or clauses ih =>
    intro cond h
    obtain ⟨-, cs, hcs, rfl⟩ := buildExpression_or_eq_ok.mp h
    exact forall₂_columns ih (buildClauses_eq_ok.mp hcs)
  | not clause ih =>
    intro cond h
    obtain ⟨c, hc, rfl⟩ := buildExpression_not_eq_ok.mp h
    exact ih c hc

end Columns

/-! ## The statement of a search -/

/-- The relations that the filter needs. -/
def Manager.filterJoins (m : Manager) (query : Option QueryExpr) : Finset String :=
  m.requiredJoins ((query.map queryFields).getD ∅)

/-- The relations that the sort specifications need. -/
def Manager.sortJoins (m : Manager) (sortBy : List SortSpec) : Finset String :=
  m.requiredJoins (sortFields sortBy)

/-- The sort specifications that `apply_sort` writes. -/
def sortSpecs (sortBy : List SortSpec) : List SortSpec :=
  withDefault (if sortBy.isEmpty then [⟨"public_id", true⟩] else sortBy)

section Joins

variable [SetOrder] {m : Manager}

theorem joinPaths_empty : m.joinPaths ∅ = [] := by
  have hempty : SetOrder.toList ∅ = [] := by
    apply List.eq_nil_iff_forall_not_mem.mpr
    intro x hx
    exact absurd ((SetOrder.mem ∅ x).mp hx) (Finset.notMem_empty x)
  rw [Manager.joinPaths, hempty, List.flatMap_nil]

theorem applyNestedJoins_eq {stmt : Select} {required : Finset String} :
    applyNestedJoins m stmt required =
      { stmt with
        joins := stmt.joins ++ m.joinPaths required
        distinct := stmt.distinct || decide (required ≠ ∅) } := by
  unfold applyNestedJoins
  by_cases h : required = ∅
  · rw [if_pos h, h, joinPaths_empty]
    simp
  · rw [if_neg h]
    simp [h]

omit [SetOrder] in
theorem pathOf_default : m.pathOf "public_id" = [] := by
  have hdot : partitionDot "public_id" = none := by decide
  simp [Manager.pathOf, Manager.root?, hdot]

omit [SetOrder] in
theorem sortJoins_default : m.sortJoins [⟨"public_id", true⟩] = ∅ := by
  have hdot : partitionDot "public_id" = none := by decide
  simp [Manager.sortJoins, sortFields, Manager.requiredJoins, Manager.root?, hdot]

omit [SetOrder] in
theorem sortJoins_specs {sortBy : List SortSpec} :
    m.requiredJoins (sortFields (if sortBy.isEmpty then [⟨"public_id", true⟩] else sortBy)) =
      m.sortJoins sortBy := by
  cases sortBy with
  | nil => exact sortJoins_default
  | cons spec specs => rfl

/-- What a search is compiled to. -/
structure Manager.Compiles [UuidRuntime] (m : Manager) (query : Option QueryExpr)
    (sortBy : List SortSpec) (limit : Option Nat) (offset : Nat) (stmt : Select) : Prop where
  model : stmt.model = m.model
  joins : stmt.joins = m.joinPaths (m.filterJoins query) ++ m.joinPaths (m.sortJoins sortBy)
  distinct : stmt.distinct = (decide (m.filterJoins query ≠ ∅) || decide (m.sortJoins sortBy ≠ ∅))
  condition : Option.Rel (fun q c => buildExpression m q = .ok c) query stmt.condition
  orderBy : (sortSpecs sortBy).mapM (orderColumn m) = .ok stmt.orderBy
  limit : stmt.limit = limit
  offset : stmt.offset = offset

theorem applySearchQuery_of_ok [UuidRuntime] {stmt stmt' : Select} {query : Option QueryExpr}
    (hstmt : stmt.condition = none) (h : applySearchQuery m stmt query = .ok stmt') :
    ∃ condition, Option.Rel (fun q c => buildExpression m q = .ok c) query condition ∧
      stmt' = { stmt with
        joins := stmt.joins ++ m.joinPaths (m.filterJoins query)
        distinct := stmt.distinct || decide (m.filterJoins query ≠ ∅)
        condition := condition } := by
  cases query with
  | none =>
    cases h
    refine ⟨none, .none, ?_⟩
    have hjoins : m.filterJoins none = ∅ := rfl
    rw [hjoins, joinPaths_empty, ← hstmt]
    simp
  | some q =>
    obtain ⟨condition, hcondition, h⟩ := bind_eq_ok.mp h
    refine ⟨some condition, .some hcondition, ?_⟩
    rw [← pure_eq_ok.mp h, applyNestedJoins_eq]
    rfl

theorem applySort_of_ok {stmt stmt' : Select} {sortBy : List SortSpec}
    (h : applySort m stmt sortBy = .ok stmt') :
    ∃ columns, (sortSpecs sortBy).mapM (orderColumn m) = .ok columns ∧
      stmt' = { stmt with
        joins := stmt.joins ++ m.joinPaths (m.sortJoins sortBy)
        distinct := stmt.distinct || decide (m.sortJoins sortBy ≠ ∅)
        orderBy := stmt.orderBy ++ columns } := by
  obtain ⟨columns, hcolumns, h⟩ := bind_eq_ok.mp h
  refine ⟨columns, hcolumns, ?_⟩
  rw [← pure_eq_ok.mp h, sortJoins_specs, applyNestedJoins_eq]

theorem searchStatement_compiles [UuidRuntime] {query : Option QueryExpr} {sortBy : List SortSpec}
    {limit : Option Nat} {offset : Nat} {stmt : Select}
    (h : searchStatement m query sortBy limit offset = .ok stmt) :
    m.Compiles query sortBy limit offset stmt := by
  obtain ⟨filtered, hfilter, h⟩ := bind_eq_ok.mp h
  obtain ⟨sorted, hsort, h⟩ := bind_eq_ok.mp h
  obtain ⟨condition, hcondition, rfl⟩ := applySearchQuery_of_ok rfl hfilter
  obtain ⟨columns, hcolumns, rfl⟩ := applySort_of_ok hsort
  rw [← pure_eq_ok.mp h]
  exact ⟨rfl, rfl, rfl, hcondition, hcolumns, rfl, rfl⟩

/-! ## Valid statements -/

omit [SetOrder] in
theorem mem_requiredJoins {fields : Finset String} {root : String} :
    root ∈ m.requiredJoins fields ↔ ∃ field ∈ fields, m.root? field = some root := by
  rw [Manager.requiredJoins, Finset.mem_biUnion]
  refine exists_congr fun field => and_congr_right fun _ => ?_
  cases m.root? field with
  | none => simp
  | some r => simp [eq_comm]

omit [SetOrder] in
/-- A relation that a search needs is registered. -/
theorem registered_of_mem {fields : Finset String} {root : String}
    (h : root ∈ m.requiredJoins fields) :
    ∃ spec, m.nestedFieldRegistry.lookup root = some spec := by
  obtain ⟨field, -, hroot⟩ := mem_requiredJoins.mp h
  obtain ⟨p, -, hp⟩ := Option.bind_eq_some_iff.mp hroot
  split at hp
  · rename_i hspec
    cases hp
    exact Option.isSome_iff_exists.mp hspec
  · cases hp

theorem pathOf_subset {fields : Finset String} {field : String} (hfield : field ∈ fields) :
    m.pathOf field ⊆ m.joinPaths (m.requiredJoins fields) := by
  intro table htable
  unfold Manager.pathOf at htable
  cases hroot : m.root? field with
  | none =>
    rw [hroot] at htable
    cases htable
  | some root =>
    rw [hroot] at htable
    refine List.mem_flatMap.mpr ⟨root, ?_, htable⟩
    rw [SetOrder.mem]
    exact mem_requiredJoins.mpr ⟨field, hfield, hroot⟩

theorem length_toList (s : Finset String) : (SetOrder.toList s).length = s.card := by
  have htoFinset : (SetOrder.toList s).toFinset = s := by
    ext x
    rw [List.mem_toFinset, SetOrder.mem]
  rw [← List.toFinset_card_of_nodup (SetOrder.nodup s), htoFinset]

theorem joinPaths_singleton (root : String) :
    m.joinPaths {root} = ((m.nestedFieldRegistry.lookup root).map JoinSpec.joinPath).getD [] := by
  have hlist : SetOrder.toList {root} = [root] := by
    have hlength := length_toList {root}
    rw [Finset.card_singleton] at hlength
    obtain ⟨x, hx⟩ := List.length_eq_one_iff.mp hlength
    have hmem : x ∈ SetOrder.toList {root} := by
      rw [hx]
      exact List.mem_singleton_self x
    rw [SetOrder.mem, Finset.mem_singleton] at hmem
    rw [hx, hmem]
  rw [Manager.joinPaths, hlist, List.flatMap_cons, List.flatMap_nil, List.append_nil]

omit [SetOrder] in
/-- Paths that share a table can be joined only if there is at most one of them. -/
theorem nodup_flatMap_iff {α : Type} {path : α → List TableName} {model : TableName}
    {roots : List α} (hub : TableName) (hpath : ∀ r ∈ roots, (model :: path r).Nodup)
    (hhub : ∀ r ∈ roots, hub ∈ path r) :
    (model :: roots.flatMap path).Nodup ↔ roots.length ≤ 1 := by
  rcases roots with _ | ⟨r, _ | ⟨r', roots⟩⟩
  · simp
  · simpa using hpath r List.mem_cons_self
  · constructor
    · intro h
      rw [List.flatMap_cons, List.flatMap_cons] at h
      have hr : hub ∈ path r := hhub r List.mem_cons_self
      have hr' : hub ∈ path r' ++ roots.flatMap path :=
        List.mem_append_left _ (hhub r' (List.mem_cons_of_mem _ List.mem_cons_self))
      exact absurd rfl ((List.nodup_append.mp (List.nodup_cons.mp h).2).2.2 hub hr hub hr')
    · intro h
      simp at h

/-- No table is joined twice iff at most one relation is joined. -/
theorem nodup_joinPaths_iff (hm : m.Coherent) (fields fields' : Finset String) :
    (m.model :: (m.joinPaths (m.requiredJoins fields) ++
        m.joinPaths (m.requiredJoins fields'))).Nodup ↔
      (m.requiredJoins fields).card + (m.requiredJoins fields').card ≤ 1 := by
  obtain ⟨hub, hshared⟩ := hm.shared
  have hregistered : ∀ r ∈ SetOrder.toList (m.requiredJoins fields) ++
      SetOrder.toList (m.requiredJoins fields'),
      ∃ spec, m.nestedFieldRegistry.lookup r = some spec := by
    intro r hr
    rcases List.mem_append.mp hr with hr | hr
    · exact registered_of_mem ((SetOrder.mem _ r).mp hr)
    · exact registered_of_mem ((SetOrder.mem _ r).mp hr)
  unfold Manager.joinPaths
  rw [← List.flatMap_append, nodup_flatMap_iff hub, List.length_append, length_toList,
    length_toList]
  · intro r hr
    obtain ⟨spec, hspec⟩ := hregistered r hr
    rw [hspec]
    exact hm.paths (r, spec) (mem_of_lookup hspec)
  · intro r hr
    obtain ⟨spec, hspec⟩ := hregistered r hr
    rw [hspec]
    exact hshared (r, spec) (mem_of_lookup hspec)

omit [SetOrder] in
theorem sortSpecs_field {sortBy : List SortSpec} {spec : SortSpec} (h : spec ∈ sortSpecs sortBy) :
    spec.field ∈ sortFields sortBy ∨ spec.field = "public_id" := by
  have hdefault : ∀ specs, spec ∈ withDefault specs →
      spec ∈ specs ∨ spec.field = "public_id" := by
    intro specs hspec
    unfold withDefault at hspec
    split at hspec
    · rcases List.mem_append.mp hspec with hspec | hspec
      · exact Or.inl hspec
      · rw [List.mem_singleton.mp hspec]
        exact Or.inr rfl
    · exact Or.inl hspec
  rcases hdefault _ h with h | h
  · cases sortBy with
    | nil =>
      rw [List.mem_singleton.mp h]
      exact Or.inr rfl
    | cons first specs =>
      exact Or.inl (List.mem_toFinset.mpr (List.mem_map_of_mem h))
  · exact Or.inr h

theorem Manager.Reaches.mem_tables {fields : Finset String} {c : Column}
    (h : m.Reaches fields c) : c.table ∈ m.model :: m.joinPaths (m.requiredJoins fields) := by
  obtain ⟨field, hfield, hc⟩ := h
  rcases List.mem_cons.mp hc with hc | hc
  · exact List.mem_cons.mpr (Or.inl hc)
  · exact List.mem_cons_of_mem _ (pathOf_subset hfield hc)

/-- Every column of a statement belongs to one of its tables. -/
theorem Manager.Compiles.columns_mem [UuidRuntime] {query : Option QueryExpr}
    {sortBy : List SortSpec} {limit : Option Nat} {offset : Nat} {stmt : Select} (hm : m.Coherent)
    (h : m.Compiles query sortBy limit offset stmt) : ∀ c ∈ stmt.columns, c.table ∈ stmt.tables := by
  intro c hc
  rw [Select.tables, h.model, h.joins]
  rcases List.mem_append.mp hc with hc | hc
  · have hreaches : m.Reaches ((query.map queryFields).getD ∅) c := by
      have hcond := h.condition
      generalize stmt.condition = condition at hcond hc
      cases hcond with
      | none => cases hc
      | some hbuild => exact buildExpression_columns hm _ _ hbuild c hc
    rcases List.mem_cons.mp hreaches.mem_tables with htable | htable
    · exact List.mem_cons.mpr (Or.inl htable)
    · exact List.mem_cons_of_mem _ (List.mem_append_left _ htable)
  · obtain ⟨column, hcolumn, rfl⟩ := List.mem_map.mp hc
    obtain ⟨spec, hspec, horder⟩ := exists_of_mem_right (mapM_eq_ok.mp h.orderBy) hcolumn
    unfold orderColumn at horder
    split at horder
    · rename_i target htarget
      cases horder
      rcases sortSpecs_field hspec with hfield | hfield
      · have hreaches : m.Reaches (sortFields sortBy) target :=
          ⟨spec.field, hfield, hm.table_mem htarget⟩
        rcases List.mem_cons.mp hreaches.mem_tables with htable | htable
        · exact List.mem_cons.mpr (Or.inl htable)
        · exact List.mem_cons_of_mem _ (List.mem_append_right _ htable)
      · have htable := hm.table_mem htarget
        have hpath : m.pathOf spec.field = [] := by
          rw [hfield]
          exact pathOf_default
        rw [hpath, List.mem_singleton] at htable
        exact List.mem_cons.mpr (Or.inl htable)
    · cases horder

/-- The statement of an accepted search is valid iff the filter and the sort specifications need
at most one relation, a relation that both need counted twice. -/
theorem searchStatement_wellFormed_iff [UuidRuntime] {query : Option QueryExpr}
    {sortBy : List SortSpec} {limit : Option Nat} {offset : Nat} {stmt : Select} (hm : m.Known)
    (h : searchStatement m query sortBy limit offset = .ok stmt) :
    stmt.WellFormed ↔ (m.filterJoins query).card + (m.sortJoins sortBy).card ≤ 1 := by
  have hcompiles := searchStatement_compiles h
  have hnodup :=
    nodup_joinPaths_iff hm.coherent ((query.map queryFields).getD ∅) (sortFields sortBy)
  have htables : stmt.tables =
      m.model :: (m.joinPaths (m.filterJoins query) ++ m.joinPaths (m.sortJoins sortBy)) := by
    rw [Select.tables, hcompiles.model, hcompiles.joins]
  constructor
  · intro hstmt
    refine hnodup.mp ?_
    have := hstmt.tables
    rwa [htables] at this
  · intro hcard
    refine ⟨?_, hcompiles.columns_mem hm.coherent⟩
    rw [htables]
    exact hnodup.mpr hcard

end Joins

/-! ## A relation in the filter and in the order -/

section Examples

attribute [local instance] asciiUuidRuntime

theorem insertionSort_perm {l l' : List String} (h : l.Perm l') :
    l.insertionSort (· ≤ ·) = l'.insertionSort (· ≤ ·) := by
  have hperm := ((List.perm_insertionSort (· ≤ ·) l).trans h).trans
    (List.perm_insertionSort (· ≤ ·) l').symm
  exact hperm.eq_of_pairwise' (List.pairwise_insertionSort (· ≤ ·) l)
    (List.pairwise_insertionSort (· ≤ ·) l')

/-- The names of a set in their alphabetical order. -/
def sortedNames (s : Finset String) : List String :=
  Quot.liftOn s.val (List.insertionSort (· ≤ ·)) (fun _ _ h => insertionSort_perm h)

theorem sortedNames_perm (s : Finset String) : (sortedNames s : Multiset String) = s.val := by
  obtain ⟨l, hl⟩ := s
  induction l using Quot.inductionOn with
  | _ l => exact Multiset.coe_eq_coe.mpr (List.perm_insertionSort (· ≤ ·) l)

theorem sortedNames_nodup (s : Finset String) : (sortedNames s).Nodup := by
  rw [← Multiset.coe_nodup, sortedNames_perm]
  exact s.nodup

theorem mem_sortedNames (s : Finset String) (x : String) : x ∈ sortedNames s ↔ x ∈ s := by
  rw [← Multiset.mem_coe, sortedNames_perm, Finset.mem_val]

@[reducible] def sortedOrder : SetOrder where
  toList := sortedNames
  nodup := sortedNames_nodup
  mem := mem_sortedNames

attribute [local instance] sortedOrder

/-- The groups of a school, as a query. -/
def groupsOfSchool (name : String) : QueryExpr := .filter ⟨"school.name", .eq, .scalar (.str name)⟩

/-- The groups of a school, in their default order: one join. -/
theorem groupsOfSchool_wellFormed : ∃ stmt,
    searchStatement groupManager (some (groupsOfSchool "DEMOSCHOOL")) [] none 0 = .ok stmt ∧
      stmt.WellFormed := by
  obtain ⟨stmt, h⟩ : ∃ stmt,
      searchStatement groupManager (some (groupsOfSchool "DEMOSCHOOL")) [] none 0 = .ok stmt :=
    ⟨_, rfl⟩
  exact ⟨stmt, h, (searchStatement_wellFormed_iff .group h).mpr (by decide)⟩

/-- The groups of a school, sorted by the name of the school: the school is joined twice. -/
theorem groupsOfSchool_joined_twice : ∃ stmt,
    searchStatement groupManager (some (groupsOfSchool "DEMOSCHOOL")) [⟨"school.name", true⟩]
        none 0 = .ok stmt ∧
      stmt.tables = [.group, .school, .school] ∧ ¬ stmt.WellFormed := by
  obtain ⟨stmt, h⟩ : ∃ stmt,
      searchStatement groupManager (some (groupsOfSchool "DEMOSCHOOL")) [⟨"school.name", true⟩]
        none 0 = .ok stmt :=
    ⟨_, rfl⟩
  have hcompiles := searchStatement_compiles h
  have hfilter : groupManager.filterJoins (some (groupsOfSchool "DEMOSCHOOL")) = {"school"} := by
    decide
  have hsort : groupManager.sortJoins [⟨"school.name", true⟩] = {"school"} := by decide
  have hpath : groupManager.joinPaths {"school"} = [.school] := by
    rw [joinPaths_singleton]
    rfl
  have htables : stmt.tables = [.group, .school, .school] := by
    rw [Select.tables, hcompiles.model, hcompiles.joins, hfilter, hsort, hpath]
    rfl
  refine ⟨stmt, h, htables, ?_⟩
  intro hstmt
  have hnodup := hstmt.tables
  rw [htables] at hnodup
  exact absurd hnodup (by decide)

end Examples

end Kelvin.Search
