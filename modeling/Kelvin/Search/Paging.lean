import Kelvin.Data.Pages
import Kelvin.Search.Boolean

/-!
# Sorted and paged searches

What the database may answer to a search with an order, a limit and an offset. The order
leaves open how rows that tie are arranged, so every answer is some arrangement of the
selected objects that the order allows, and two searches need not use the same one. The
default field `public_id`, which `apply_sort` puts behind the sort specifications, leaves
no ties.

* `Collation`: the order of the values of a column, NULL included.
* `Select.Arranges`: the arrangements that a statement allows, without duplicates if it is
  `DISTINCT`.
* `Manager.Answers`: the answers to a search.
* `Manager.Matches`: the objects that match a query.
* `pages_concat`: the pages of a search, one behind the other, are the unpaged search.
-/

namespace Kelvin.Search

/-- The order of column values; NULL is before or behind all others. Public ids are told apart. -/
class Collation where
  le : Cell → Cell → Bool
  order : KeyOrder le
  uuid : ∀ a b, le (.uuid a) (.uuid b) = true → le (.uuid b) (.uuid a) = true → a = b

section Paging

variable [UuidRuntime] [SetOrder] [Dialect] [Collation] {m : Manager} {db : Store}

/-- `ORDER BY`, for columns of the selected objects. -/
def orderKeys (orderBy : List (Column × Bool)) : List (Row → Row → Bool) :=
  orderBy.map (fun key a b =>
    if key.2 then Collation.le (a.cell key.1.name) (b.cell key.1.name)
    else Collation.le (b.cell key.1.name) (a.cell key.1.name))

/-- `LIMIT` and `OFFSET`. -/
def slice (limit : Option Nat) (offset : Nat) (rows : List Row) : List Row :=
  match limit with
  | some n => (rows.drop offset).take n
  | none => rows.drop offset

/-- An arrangement of the objects in the selected rows that the order of a statement allows. -/
structure Select.Arranges (stmt : Select) (db : Store) (all : List Row) : Prop where
  objects : ∃ envs, stmt.selected db = some envs ∧
    if stmt.distinct then all.Nodup ∧ ∀ r, r ∈ all ↔ r ∈ envs.filterMap (· stmt.model)
    else all.Perm (envs.filterMap (· stmt.model))
  sorted : all.Pairwise (fun a b => lexLe (orderKeys stmt.orderBy) a b = true)

/-- An answer of `search`. -/
def Manager.Answers (m : Manager) (db : Store) (query : Option QueryExpr) (sortBy : List SortSpec)
    (limit : Option Nat) (offset : Nat) (answer : List Row) : Prop :=
  ∃ stmt all, searchStatement m query sortBy limit offset = .ok stmt ∧ stmt.Arranges db all ∧
    answer = slice stmt.limit stmt.offset all

/-- An object with a joined row on which the query holds. -/
def Manager.Matches (m : Manager) (db : Store) (query : Option QueryExpr) (r : Row) : Prop :=
  ∃ env ∈ m.rowsOf db (m.filterJoins query) r, ∀ q ∈ query, m.truth q env = .holds

omit [UuidRuntime] [SetOrder] [Dialect] [Collation] in
/-- No scalar field goes through a relation. -/
theorem Manager.Known.scalar_root? (hm : m.Known) :
    ∀ field ∈ "public_id" :: m.scalarFieldMap, m.root? field = none := by
  cases hm <;> decide

omit [UuidRuntime] [SetOrder] [Dialect] [Collation] in
theorem sortJoins_scalar (hm : m.Known) {sortBy : List SortSpec}
    (h : ∀ spec ∈ sortBy, spec.field ∈ "public_id" :: m.scalarFieldMap) :
    m.sortJoins sortBy = ∅ := by
  apply Finset.eq_empty_of_forall_notMem
  intro root hroot
  obtain ⟨field, hfield, hsome⟩ := mem_requiredJoins.mp hroot
  obtain ⟨spec, hspec, rfl⟩ := List.mem_map.mp (List.mem_toFinset.mp hfield)
  rw [hm.scalar_root? spec.field (h spec hspec)] at hsome
  cases hsome

omit [UuidRuntime] [SetOrder] [Dialect] [Collation] in
theorem Manager.Known.model_ne (hm : m.Known) : m.model ≠ .schoolMembership := by
  cases hm <;> decide

omit [UuidRuntime] [SetOrder] [Dialect] [Collation] in
/-- The sort specifications include the public id. -/
theorem sortSpecs_publicId (sortBy : List SortSpec) :
    ∃ spec ∈ sortSpecs sortBy, spec.field = "public_id" := by
  unfold sortSpecs
  generalize (if sortBy.isEmpty then [⟨"public_id", true⟩] else sortBy) = specs
  unfold withDefault
  split
  · exact ⟨⟨"public_id", true⟩, List.mem_append_right _ (List.mem_singleton_self _), rfl⟩
  · rename_i h
    simp only [List.all_eq_true, decide_eq_true_eq, not_forall, not_not] at h
    obtain ⟨spec, hspec, hfield⟩ := h
    exact ⟨spec, hspec, hfield⟩

/-! ## Arrangements without ties -/

omit [UuidRuntime] [SetOrder] [Dialect] in
/-- Objects that tie on every key have the same public id. -/
theorem eq_of_ties (hm : m.Known) {sortBy : List SortSpec} {orderBy : List (Column × Bool)}
    (h : (sortSpecs sortBy).mapM (orderColumn m) = .ok orderBy) {a b : Row}
    (ha : a ∈ db.rows m.model) (hb : b ∈ db.rows m.model)
    (hties : ∀ le ∈ orderKeys orderBy, le a b = true ∧ le b a = true) : a = b := by
  obtain ⟨spec, hspec, hfield⟩ := sortSpecs_publicId sortBy
  obtain ⟨key, hkey, hcolumn⟩ := exists_of_mem_right (mapM_eq_ok.mp h).flip hspec
  have hname : key.1.name = "public_id" := by
    unfold orderColumn at hcolumn
    rw [hfield, publicId_lookup] at hcolumn
    cases hcolumn
    rfl
  have hle : Collation.le (a.cell "public_id") (b.cell "public_id") = true ∧
      Collation.le (b.cell "public_id") (a.cell "public_id") = true := by
    have htie := hties _ (List.mem_map_of_mem hkey)
    rw [hname] at htie
    cases hasc : key.2 with
    | true => simpa only [hasc, if_true] using htie
    | false =>
      simp only [hasc, Bool.false_eq_true, if_false] at htie
      exact htie.symm
  have hne := hm.model_ne
  have hcell : a.cell "public_id" = b.cell "public_id" := by
    have hua := db.publicId m.model hne a ha
    have hub := db.publicId m.model hne b hb
    cases hca : a.cell "public_id" with
    | uuid x =>
      cases hcb : b.cell "public_id" with
      | uuid y =>
        rw [hca, hcb] at hle
        rw [Collation.uuid x y hle.1 hle.2]
      | _ => rw [hcb] at hub; cases hub
    | _ => rw [hca] at hua; cases hua
  exact List.inj_on_of_nodup_map (db.publicIds_nodup m.model hne) ha hb hcell

omit [UuidRuntime] [SetOrder] [Dialect] [Collation] in
theorem rows_nodup (t : TableName) : (db.rows t).Nodup := List.Nodup.of_map _ (db.ids_nodup t)

omit [UuidRuntime] [SetOrder] [Dialect] [Collation] in
/-- Without joins every object is selected once at most. -/
theorem roots_nodup {model : TableName} {p : Joined TableName Row → Bool} :
    ((((db.rows model).map (rootRow model)).filter p).filterMap (fun env => env model)).Nodup := by
  have hroot : (fun env : Joined TableName Row => env model) ∘ rootRow model = some := by
    funext r
    exact Function.update_self model (some r) (fun _ => none)
  rw [List.filter_map, List.filterMap_map, hroot, List.filterMap_some]
  exact (rows_nodup model).filter _

/-- What a search selects, object by object. -/
theorem Select.Arranges.objects_iff {query : Option QueryExpr} {sortBy : List SortSpec}
    {limit : Option Nat} {offset : Nat} {stmt : Select} {all : List Row}
    (hcompiles : m.Compiles query sortBy limit offset stmt) (hsort : m.sortJoins sortBy = ∅)
    (h : stmt.Arranges db all) : all.Nodup ∧ (∀ r, r ∈ all ↔ m.Matches db query r) ∧
      ∀ r ∈ all, r ∈ db.rows m.model := by
  have hjoins : stmt.joins = m.joinPaths (m.filterJoins query) := by
    rw [hcompiles.joins, hsort, joinPaths_empty, List.append_nil]
  obtain ⟨envs, hselected, hobjects⟩ := h.objects
  unfold Select.selected at hselected
  split at hselected
  swap
  · cases hselected
  rename_i hvalid
  rw [Select.tables, hcompiles.model, hjoins] at hvalid
  rw [hcompiles.model, hjoins] at hselected
  obtain ⟨clauses, hclauses, henvs⟩ := Option.map_eq_some_iff.mp hselected
  have hmodel : m.model ∉ clauses.map Prod.fst := by
    rw [joinClauses_tables hclauses]
    exact (List.nodup_cons.mp hvalid.1).1
  have hcondition : ∀ env, (∀ c ∈ stmt.condition, c.eval env = .holds) ↔
      ∀ q ∈ query, m.truth q env = .holds := by
    intro env
    have hrel := hcompiles.condition
    generalize stmt.condition = condition at hrel
    cases hrel with
    | none => simp
    | some hbuild => simp [truth_of_build hbuild]
  have hroots : ∀ r, r ∈ envs.filterMap (· m.model) ↔ m.Matches db query r := by
    intro r
    have hrows : m.rowsOf db (m.filterJoins query) r =
        (db.joined m.model clauses).filter (fun env => decide (env m.model = some r)) := by
      rw [Manager.rowsOf, Manager.joinedFor, if_pos hvalid.1, hclauses]
      rfl
    rw [Manager.Matches, hrows, ← henvs]
    simp only [List.mem_filterMap, List.mem_filter, decide_eq_true_eq, hcondition]
    constructor
    · rintro ⟨env, ⟨henv, hholds⟩, hr⟩
      exact ⟨env, ⟨henv, hr⟩, hholds⟩
    · rintro ⟨env, ⟨henv, hr⟩, hholds⟩
      exact ⟨env, ⟨henv, hholds⟩, hr⟩
  have hstored : ∀ r ∈ envs.filterMap (· m.model), r ∈ db.rows m.model := by
    intro r hr
    obtain ⟨env, henv, hroot⟩ := List.mem_filterMap.mp hr
    rw [← henvs] at henv
    exact stored_of_joined hmodel (List.mem_filter.mp henv).1 hroot
  rw [hcompiles.model] at hobjects
  split at hobjects
  · refine ⟨hobjects.1, fun r => (hobjects.2 r).trans (hroots r), fun r hr => ?_⟩
    exact hstored r ((hobjects.2 r).mp hr)
  · rename_i hdistinct
    have hempty : m.filterJoins query = ∅ := by
      rw [hcompiles.distinct] at hdistinct
      simp only [Bool.or_eq_true, decide_eq_true_eq, not_or, not_not] at hdistinct
      exact hdistinct.1
    have hnodup : (envs.filterMap (· m.model)).Nodup := by
      rw [hempty, joinPaths_empty] at hclauses
      cases hclauses
      rw [← henvs]
      exact roots_nodup
    refine ⟨hobjects.nodup_iff.mpr hnodup, fun r => hobjects.mem_iff.trans (hroots r), ?_⟩
    exact fun r hr => hstored r (hobjects.mem_iff.mp hr)

/-! ## Pages -/

omit [Dialect] [Collation] in
/-- Another limit and offset change nothing else in the statement. -/
theorem searchStatement_slice {query : Option QueryExpr} {sortBy : List SortSpec}
    {limit : Option Nat} {offset : Nat} {stmt : Select} (limit' : Option Nat) (offset' : Nat)
    (h : searchStatement m query sortBy limit offset = .ok stmt) :
    searchStatement m query sortBy limit' offset' =
      .ok { stmt with limit := limit', offset := offset' } := by
  obtain ⟨filtered, hfilter, h⟩ := bind_eq_ok.mp h
  obtain ⟨sorted, hsort, h⟩ := bind_eq_ok.mp h
  rw [← pure_eq_ok.mp h]
  exact bind_eq_ok.mpr ⟨filtered, hfilter, bind_eq_ok.mpr ⟨sorted, hsort, rfl⟩⟩

omit [UuidRuntime] [SetOrder] in
theorem Select.Arranges.slice {stmt : Select} {all : List Row} (h : stmt.Arranges db all)
    (limit : Option Nat) (offset : Nat) :
    { stmt with limit := limit, offset := offset : Select }.Arranges db all :=
  ⟨h.objects, h.sorted⟩

/-- A search by scalar fields allows one arrangement. -/
theorem Select.Arranges.unique (hm : m.Known) {query : Option QueryExpr} {sortBy : List SortSpec}
    {limit : Option Nat} {offset : Nat} {stmt : Select} {all all' : List Row}
    (hcompiles : m.Compiles query sortBy limit offset stmt) (hsort : m.sortJoins sortBy = ∅)
    (h : stmt.Arranges db all) (h' : stmt.Arranges db all') : all = all' := by
  obtain ⟨hnodup, hmem, hstored⟩ := h.objects_iff hcompiles hsort
  obtain ⟨hnodup', hmem', hstored'⟩ := h'.objects_iff hcompiles hsort
  have hperm : all.Perm all' :=
    (List.perm_ext_iff_of_nodup hnodup hnodup').mpr (fun r => (hmem r).trans (hmem' r).symm)
  refine eq_of_sorted hperm h.sorted h'.sorted fun a ha b hb hties => ?_
  exact eq_of_ties hm hcompiles.orderBy (hstored a ha) (hstored' b hb) hties

/-- A page is a slice of the unpaged answer. -/
theorem Manager.Answers.page (hm : m.Known) {query : Option QueryExpr} {sortBy : List SortSpec}
    (hsort : m.sortJoins sortBy = ∅) {n offset : Nat} {all page : List Row}
    (hall : m.Answers db query sortBy none 0 all)
    (hpage : m.Answers db query sortBy (some n) offset page) : page = (all.drop offset).take n := by
  obtain ⟨stmt, arranged, hstmt, harranges, rfl⟩ := hall
  obtain ⟨stmt', arranged', hstmt', harranges', rfl⟩ := hpage
  rw [searchStatement_slice (some n) offset hstmt] at hstmt'
  cases hstmt'
  have hcompiles := searchStatement_compiles hstmt
  have hsame : arranged' = arranged :=
    Select.Arranges.unique hm hcompiles hsort ⟨harranges'.objects, harranges'.sorted⟩ harranges
  rw [hsame, hcompiles.limit, hcompiles.offset]
  rfl

/-- An accepted search over scalar fields has every page, and the pages one behind the other are
the unpaged answer, which has each matching object once. -/
theorem pages_concat (hm : m.Known) {query : Option QueryExpr} {sortBy : List SortSpec}
    (hsort : ∀ spec ∈ sortBy, spec.field ∈ "public_id" :: m.scalarFieldMap) {n : Nat} (hn : 0 < n)
    {all : List Row} (hall : m.Answers db query sortBy none 0 all) :
    (all.Nodup ∧ ∀ r, r ∈ all ↔ m.Matches db query r) ∧
      (∀ i, ∃ page, m.Answers db query sortBy (some n) (i * n) page) ∧
      ∀ pages : Nat → List Row, (∀ i, m.Answers db query sortBy (some n) (i * n) (pages i)) →
        ∀ k, all.length ≤ k → (List.range k).flatMap pages = all := by
  have hjoins := sortJoins_scalar hm hsort
  refine ⟨?_, fun i => ?_, fun pages hpages k hk => ?_⟩
  · obtain ⟨stmt, arranged, hstmt, harranges, rfl⟩ := hall
    have hcompiles := searchStatement_compiles hstmt
    obtain ⟨hnodup, hmem, -⟩ := harranges.objects_iff hcompiles hjoins
    rw [hcompiles.limit, hcompiles.offset]
    exact ⟨hnodup, hmem⟩
  · obtain ⟨stmt, arranged, hstmt, harranges, -⟩ := hall
    exact ⟨_, _, arranged, searchStatement_slice (some n) (i * n) hstmt,
      harranges.slice (some n) (i * n), rfl⟩
  · have hpage : ∀ i, pages i = (all.drop (i * n)).take n := fun i => hall.page hm hjoins (hpages i)
    have hlength : all.length ≤ k * n := hk.trans (Nat.le_mul_of_pos_right k hn)
    rw [funext hpage, flatMap_pages, List.take_of_length_le hlength]

end Paging

/-! ## The schools of `twoSchools`, one to a page -/

section Examples

attribute [local instance] asciiUuidRuntime sortedOrder textDialect

/-- The number that `uuidCollation` sorts by. -/
def Cell.rank : Cell → Nat
  | .uuid id => id + 1
  | _ => 0

theorem rank_order : KeyOrder (fun a b : Cell => decide (a.rank ≤ b.rank)) where
  total a b := by
    rw [decide_eq_true_eq, decide_eq_true_eq]
    omega
  trans a b c := by
    rw [decide_eq_true_eq, decide_eq_true_eq, decide_eq_true_eq]
    omega

theorem rank_uuid (a b : PublicId) (h : decide ((Cell.uuid a).rank ≤ (Cell.uuid b).rank) = true)
    (h' : decide ((Cell.uuid b).rank ≤ (Cell.uuid a).rank) = true) : a = b := by
  have hle : a + 1 ≤ b + 1 := of_decide_eq_true h
  have hge : b + 1 ≤ a + 1 := of_decide_eq_true h'
  exact Nat.le_antisymm (Nat.le_of_succ_le_succ hle) (Nat.le_of_succ_le_succ hge)

/-- Public ids by their numbers, behind all other values. -/
@[reducible] def uuidCollation : Collation where
  le a b := decide (a.rank ≤ b.rank)
  order := rank_order
  uuid := rank_uuid

attribute [local instance] uuidCollation

theorem twoSchools_answers :
    schoolManager.Answers twoSchools none [⟨"name", true⟩] none 0 (twoSchoolsRows .school) := by
  refine ⟨_, twoSchoolsRows .school, rfl, ⟨⟨_, rfl, ?_⟩, ?_⟩, rfl⟩
  · rw [if_neg (by decide)]
    exact List.Perm.refl _
  · decide

/-- There are pages of one school each, and they make up the whole answer. -/
theorem twoSchools_pages : ∃ pages : Nat → List Row,
    (∀ i, schoolManager.Answers twoSchools none [⟨"name", true⟩] (some 1) (i * 1) (pages i)) ∧
      (List.range 2).flatMap pages = twoSchoolsRows .school := by
  obtain ⟨-, hexists, hconcat⟩ :=
    pages_concat .school (by decide) Nat.one_pos twoSchools_answers
  choose pages hpages using hexists
  exact ⟨pages, hpages, hconcat pages hpages 2 le_rfl⟩

end Examples

end Kelvin.Search
