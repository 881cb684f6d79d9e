import Kelvin.Search.Semantics

/-!
# Compound queries

The objects found by a conjunction, a disjunction and a negation, against those found by
the single queries. A query is decided on joined rows, not on objects: all clauses of a
conjunction must hold on one joined row, and a negation needs a joined row on which the
query fails.

* `Manager.rowsOf`, `Manager.truth`: the joined rows of an object, and a query on one.
* `found_eq_some`: an object is found iff the query holds on one of its joined rows.
* `Manager.Homomorphic`, `Manager.Classical`: the Boolean laws, and the condition on the
  joined rows under which they hold.
* `homomorphic_iff`: the two are equivalent.
* `classical_of_no_joins`: without relations only unknown comparisons matter.
-/

namespace Kelvin.Search

section Boolean

variable [UuidRuntime] [SetOrder] [Dialect] {m : Manager} {db : Store}

/-- The joined rows that a search over some relations reads, if they can be joined. -/
def Manager.joinedFor (m : Manager) (db : Store) (roots : Finset String) :
    Option (List (Joined TableName Row)) :=
  if (m.model :: m.joinPaths roots).Nodup then
    (joinClauses [m.model] (m.joinPaths roots)).map (db.joined m.model)
  else none

/-- The joined rows of an object. -/
def Manager.rowsOf (m : Manager) (db : Store) (roots : Finset String) (r : Row) :
    List (Joined TableName Row) :=
  ((m.joinedFor db roots).getD []).filter (fun env => decide (env m.model = some r))

/-- The truth value of a query on a joined row. -/
def Manager.truth (m : Manager) (q : QueryExpr) (env : Joined TableName Row) : Truth :=
  match buildExpression m q with
  | .ok cond => cond.eval env
  | .error _ => .unknown

omit [SetOrder] in
theorem truth_of_build {q : QueryExpr} {cond : Condition} (h : buildExpression m q = .ok cond)
    (env : Joined TableName Row) : m.truth q env = cond.eval env := by
  unfold Manager.truth
  rw [h]

/-- A search that the managers and the database accept. -/
structure Manager.Accepts (m : Manager) (db : Store) (q : QueryExpr) : Prop where
  build : ∃ cond, buildExpression m q = .ok cond ∧ cond.accepted = true
  joined : (m.joinedFor db (m.requiredJoins (queryFields q))).isSome = true

omit [UuidRuntime] [SetOrder] [Dialect] in
theorem publicId_lookup {m : Manager} :
    m.fieldMap.lookup "public_id" = some ⟨m.model, "public_id"⟩ := by
  unfold Manager.fieldMap
  rw [List.map_cons, List.cons_append, List.lookup_cons_self]

omit [Dialect] in
/-- A query that is built is compiled, in the default order. -/
theorem searchStatement_of_build {q : QueryExpr} {cond : Condition}
    (h : buildExpression m q = .ok cond) : ∃ stmt,
    searchStatement m (some q) [] none 0 = .ok stmt := by
  have hcolumns : (sortSpecs []).mapM (orderColumn m) =
      .ok [(⟨m.model, "public_id"⟩, true)] := by
    have hspecs : sortSpecs [] = [⟨"public_id", true⟩] := by decide
    have hcolumn : orderColumn m ⟨"public_id", true⟩ = .ok (⟨m.model, "public_id"⟩, true) := by
      unfold orderColumn
      rw [publicId_lookup]
    rw [hspecs, List.mapM_cons, hcolumn]
    rfl
  have hfilter : ∃ stmt, applySearchQuery m (select m.model) (some q) = .ok stmt :=
    ⟨_, bind_eq_ok.mpr ⟨cond, h, rfl⟩⟩
  obtain ⟨filtered, hfilter⟩ := hfilter
  have hsort : ∃ stmt, applySort m filtered [] = .ok stmt :=
    ⟨_, bind_eq_ok.mpr ⟨_, hcolumns, rfl⟩⟩
  obtain ⟨sorted, hsort⟩ := hsort
  exact ⟨_, bind_eq_ok.mpr ⟨filtered, hfilter, bind_eq_ok.mpr ⟨sorted, hsort, rfl⟩⟩⟩

theorem found_of_build (db : Store) {q : QueryExpr} {cond : Condition} (h : buildExpression m q = .ok cond) :
    m.found db q =
      if cond.accepted = true then
        (m.joinedFor db (m.requiredJoins (queryFields q))).map (fun envs =>
          ((envs.filter (fun env => decide (cond.eval env = .holds))).filterMap (· m.model)).toFinset)
      else none := by
  obtain ⟨stmt, hstmt⟩ := searchStatement_of_build h
  have hcompiles := searchStatement_compiles hstmt
  have hcond : stmt.condition = some cond := by
    have hrel := hcompiles.condition
    generalize stmt.condition = condition at hrel
    cases hrel with
    | some hbuild =>
      rw [h] at hbuild
      cases hbuild
      rfl
  have hjoins : stmt.joins = m.joinPaths (m.requiredJoins (queryFields q)) := by
    have hsort : m.sortJoins [] = ∅ := rfl
    rw [hcompiles.joins, hsort, joinPaths_empty, List.append_nil]
    rfl
  unfold Manager.found
  rw [hstmt]
  show Option.map _ (stmt.selected db) = _
  unfold Select.selected Manager.joinedFor
  rw [Select.tables, hcompiles.model, hjoins, hcond]
  simp only [Option.mem_def, Option.some.injEq, forall_eq']
  by_cases haccepted : cond.accepted = true
  · by_cases hnodup : (m.model :: m.joinPaths (m.requiredJoins (queryFields q))).Nodup
    · rw [if_pos ⟨hnodup, haccepted⟩, if_pos haccepted, if_pos hnodup, Option.map_map,
        Option.map_map]
      rfl
    · rw [if_neg (fun h => hnodup h.1), if_pos haccepted, if_neg hnodup]
      rfl
  · rw [if_neg (fun h => haccepted h.2), if_neg haccepted]
    rfl

theorem found_of_error {q : QueryExpr} {e : QueryError} (h : buildExpression m q = .error e) :
    m.found db q = none := by
  unfold Manager.found
  split
  · rename_i stmt hstmt
    have hrel := (searchStatement_compiles hstmt).condition
    generalize stmt.condition = condition at hrel
    cases hrel with
    | some hbuild =>
      rw [h] at hbuild
      cases hbuild
  · rfl

/-- An object is found iff the query holds on one of its joined rows. -/
theorem found_eq_some {q : QueryExpr} {found : Finset Row} :
    m.found db q = some found ↔
      m.Accepts db q ∧ ∀ r, r ∈ found ↔
        ∃ env ∈ m.rowsOf db (m.requiredJoins (queryFields q)) r, m.truth q env = .holds := by
  cases hbuild : buildExpression m q with
  | error e =>
    rw [found_of_error hbuild]
    constructor
    · intro h
      cases h
    · rintro ⟨⟨⟨cond, hcond, -⟩, -⟩, -⟩
      rw [hbuild] at hcond
      cases hcond
  | ok cond =>
    have htruth : ∀ env, m.truth q env = cond.eval env := truth_of_build hbuild
    rw [found_of_build db hbuild]
    by_cases haccepted : cond.accepted = true
    · rw [if_pos haccepted]
      cases hjoined : m.joinedFor db (m.requiredJoins (queryFields q)) with
      | none =>
        constructor
        · intro h
          cases h
        · rintro ⟨⟨-, h⟩, -⟩
          rw [hjoined] at h
          cases h
      | some envs =>
        have hmem : ∀ r, r ∈ ((envs.filter (fun env =>
              decide (cond.eval env = .holds))).filterMap (· m.model)).toFinset ↔
            ∃ env ∈ m.rowsOf db (m.requiredJoins (queryFields q)) r, m.truth q env = .holds := by
          intro r
          simp only [Manager.rowsOf, hjoined, htruth, Option.getD_some, List.mem_toFinset,
            List.mem_filterMap, List.mem_filter, decide_eq_true_eq]
          constructor
          · rintro ⟨env, ⟨henv, hholds⟩, hr⟩
            exact ⟨env, ⟨henv, hr⟩, hholds⟩
          · rintro ⟨env, ⟨henv, hr⟩, hholds⟩
            exact ⟨env, ⟨henv, hholds⟩, hr⟩
        constructor
        · intro h
          obtain rfl := Option.some.inj h
          refine ⟨⟨⟨cond, hbuild, haccepted⟩, ?_⟩, hmem⟩
          rw [hjoined]
          rfl
        · rintro ⟨-, hfound⟩
          rw [Option.map_some]
          congr 1
          ext r
          rw [hmem, hfound]
    · rw [if_neg haccepted]
      constructor
      · intro h
        cases h
      · rintro ⟨⟨⟨cond', hcond, haccepted'⟩, -⟩, -⟩
        rw [hbuild] at hcond
        cases hcond
        exact absurd haccepted' haccepted

/-! ## Which relations can be joined -/

omit [UuidRuntime] [SetOrder] [Dialect] in
/-- Of the relations of a manager at most one has foreign keys to be joined by. -/
theorem Manager.Known.joinable (hm : m.Known) :
    ∃ root, ∀ entry ∈ m.nestedFieldRegistry,
      (joinClauses [m.model] entry.2.joinPath).isSome = true → entry.1 = root := by
  cases hm with
  | user => exact ⟨"schools", by decide⟩
  | group => exact ⟨"school", by decide⟩
  | school => exact ⟨"", by decide⟩
  | role => exact ⟨"", by decide⟩

/-- The relations can be joined: at most one, along foreign keys. -/
def Manager.Joinable (m : Manager) (roots : Finset String) : Prop :=
  roots.card ≤ 1 ∧ ∀ root ∈ roots, (joinClauses [m.model]
    (((m.nestedFieldRegistry.lookup root).map JoinSpec.joinPath).getD [])).isSome = true

omit [UuidRuntime] [Dialect] in
theorem joinedFor_isSome_iff (db : Store) (hm : m.Known) (fields : Finset String) :
    (m.joinedFor db (m.requiredJoins fields)).isSome = true ↔
      m.Joinable (m.requiredJoins fields) := by
  have hnodup := nodup_joinPaths_iff hm.coherent fields ∅
  have hempty : m.requiredJoins ∅ = ∅ := rfl
  rw [hempty, joinPaths_empty, List.append_nil, Finset.card_empty, Nat.add_zero] at hnodup
  unfold Manager.joinedFor Manager.Joinable
  by_cases hcard : (m.requiredJoins fields).card ≤ 1
  · rw [if_pos (hnodup.mpr hcard), Option.isSome_map]
    rcases Finset.card_le_one_iff_subset_singleton.mp hcard with ⟨root, hroot⟩
    rcases Finset.subset_singleton_iff.mp hroot with hroots | hroots
    · rw [hroots, joinPaths_empty]
      simp [joinClauses]
    · rw [hroots, joinPaths_singleton]
      simp
  · rw [if_neg (fun h => hcard (hnodup.mp h))]
    simp [hcard]

omit [UuidRuntime] [SetOrder] [Dialect] in
theorem mem_requiredJoins_clauses {qs : List QueryExpr} {root : String} :
    root ∈ m.requiredJoins (clauseFields qs) ↔ ∃ q ∈ qs, root ∈ m.requiredJoins (queryFields q) := by
  simp only [mem_requiredJoins, mem_clauseFields]
  constructor
  · rintro ⟨field, ⟨q, hq, hfield⟩, hroot⟩
    exact ⟨q, hq, field, hfield, hroot⟩
  · rintro ⟨q, hq, field, hfield, hroot⟩
    exact ⟨field, ⟨q, hq, hfield⟩, hroot⟩

omit [UuidRuntime] [SetOrder] [Dialect] in
/-- Relations that can be joined are the same relation. -/
theorem Manager.Joinable.clauses (hm : m.Known) {qs : List QueryExpr}
    (h : ∀ q ∈ qs, m.Joinable (m.requiredJoins (queryFields q))) :
    m.Joinable (m.requiredJoins (clauseFields qs)) := by
  obtain ⟨shared, hshared⟩ := hm.joinable
  have hroots : ∀ root ∈ m.requiredJoins (clauseFields qs), root = shared := by
    intro root hroot
    obtain ⟨q, hq, hmem⟩ := mem_requiredJoins_clauses.mp hroot
    obtain ⟨spec, hspec⟩ := registered_of_mem hmem
    have hsome := (h q hq).2 root hmem
    rw [hspec] at hsome
    exact hshared (root, spec) (mem_of_lookup hspec) hsome
  refine ⟨Finset.card_le_one_iff.mpr ?_, ?_⟩
  · intro a b ha hb
    rw [hroots a ha, hroots b hb]
  · intro root hroot
    obtain ⟨q, hq, hmem⟩ := mem_requiredJoins_clauses.mp hroot
    exact (h q hq).2 root hmem

omit [UuidRuntime] [SetOrder] [Dialect] in
theorem joinClauses_tables {tables ts : List TableName}
    {clauses : List (TableName × (Column × Column))} (h : joinClauses tables ts = some clauses) :
    clauses.map Prod.fst = ts := by
  induction ts generalizing tables clauses with
  | nil =>
    cases h
    rfl
  | cons t ts ih =>
    obtain ⟨fk, -, h⟩ := Option.bind_eq_some_iff.mp h
    obtain ⟨rest, hrest, h⟩ := Option.bind_eq_some_iff.mp h
    cases h
    rw [List.map_cons, ih hrest]

/-! ## Joining a further relation -/

omit [UuidRuntime] [Dialect] in
theorem joinedFor_empty : m.joinedFor db ∅ = some ((db.rows m.model).map (rootRow m.model)) := by
  unfold Manager.joinedFor
  rw [joinPaths_empty, if_pos (List.nodup_singleton _)]
  rfl

omit [UuidRuntime] [Dialect] in
theorem rowsOf_empty {r : Row} (hr : r ∈ db.rows m.model) (env : Joined TableName Row) :
    env ∈ m.rowsOf db ∅ r ↔ env = rootRow m.model r := by
  rw [Manager.rowsOf, joinedFor_empty, Option.getD_some, List.mem_filter, List.mem_map,
    decide_eq_true_eq]
  constructor
  · rintro ⟨⟨r', -, rfl⟩, h⟩
    rw [rootRow, Function.update_self, Option.some.injEq] at h
    rw [h]
  · rintro rfl
    exact ⟨⟨r, hr, rfl⟩, Function.update_self ..⟩

omit [UuidRuntime] [Dialect] in
theorem mem_of_mem_rowsOf {roots : Finset String} {r : Row} {env : Joined TableName Row}
    (h : env ∈ m.rowsOf db roots r) : env m.model = some r := by
  have h := (List.mem_filter.mp h).2
  exact of_decide_eq_true h

omit [UuidRuntime] [Dialect] in
/-- The stored objects are those with joined rows, whatever is joined. -/
theorem exists_rowsOf_iff {roots : Finset String} {r : Row}
    (hjoined : (m.joinedFor db roots).isSome = true) :
    (∃ env, env ∈ m.rowsOf db roots r) ↔ r ∈ db.rows m.model := by
  unfold Manager.joinedFor at hjoined
  split at hjoined
  · rename_i hnodup
    rw [Option.isSome_map] at hjoined
    obtain ⟨clauses, hclauses⟩ := Option.isSome_iff_exists.mp hjoined
    have hmodel : m.model ∉ clauses.map Prod.fst := by
      rw [joinClauses_tables hclauses]
      exact (List.nodup_cons.mp hnodup).1
    have hrows : m.rowsOf db roots r =
        (db.joined m.model clauses).filter (fun env => decide (env m.model = some r)) := by
      rw [Manager.rowsOf, Manager.joinedFor, if_pos hnodup, hclauses]
      rfl
    rw [hrows]
    constructor
    · rintro ⟨env, henv⟩
      obtain ⟨henv, hr⟩ := List.mem_filter.mp henv
      exact stored_of_joined hmodel henv (of_decide_eq_true hr)
    · intro hr
      obtain ⟨env, henv, hagree⟩ :=
        foldl_leftJoin_extends db (List.mem_map_of_mem (f := rootRow m.model) hr)
      refine ⟨env, List.mem_filter.mpr ⟨henv, decide_eq_true ?_⟩⟩
      rw [hagree m.model hmodel, rootRow, Function.update_self]
  · cases hjoined

omit [SetOrder] in
/-- A query without relations looks at the object alone. -/
theorem truth_of_no_joins (hm : m.Known) {q : QueryExpr} (hq : m.requiredJoins (queryFields q) = ∅)
    {env env' : Joined TableName Row} (h : env m.model = env' m.model) :
    m.truth q env = m.truth q env' := by
  unfold Manager.truth
  cases hbuild : buildExpression m q with
  | error e => rfl
  | ok cond =>
    refine Condition.eval_congr fun c hc => ?_
    obtain ⟨field, hfield, htable⟩ := buildExpression_columns hm.coherent q cond hbuild c hc
    have hpath : m.pathOf field = [] := by
      unfold Manager.pathOf
      cases hroot : m.root? field with
      | none => rfl
      | some root =>
        have hmem := mem_requiredJoins.mpr ⟨field, hfield, hroot⟩
        rw [hq] at hmem
        exact absurd hmem (Finset.notMem_empty root)
    rw [hpath, List.mem_singleton] at htable
    rw [htable]
    exact h

/-- The truth values of a query on the joined rows of an object do not depend on the relations
that further queries join. -/
theorem truth_transfer (hm : m.Known) {qs : List QueryExpr}
    (hqs : ∀ q ∈ qs, m.Joinable (m.requiredJoins (queryFields q))) {q : QueryExpr} (hq : q ∈ qs)
    (r : Row) (t : Truth) :
    (∃ env ∈ m.rowsOf db (m.requiredJoins (queryFields q)) r, m.truth q env = t) ↔
      ∃ env ∈ m.rowsOf db (m.requiredJoins (clauseFields qs)) r, m.truth q env = t := by
  have hall := Manager.Joinable.clauses hm hqs
  have hsub : m.requiredJoins (queryFields q) ⊆ m.requiredJoins (clauseFields qs) :=
    fun root hroot => mem_requiredJoins_clauses.mpr ⟨q, hq, hroot⟩
  obtain ⟨root, hroot⟩ := Finset.card_le_one_iff_subset_singleton.mp hall.1
  rcases Finset.subset_singleton_iff.mp (hsub.trans hroot) with hempty | hsingle
  · have hjoined := (joinedFor_isSome_iff db hm (clauseFields qs)).mpr hall
    have hjoined' : (m.joinedFor db ∅).isSome = true := by
      rw [joinedFor_empty]
      rfl
    rw [hempty]
    constructor
    · rintro ⟨env, henv, ht⟩
      have hr := (exists_rowsOf_iff hjoined').mp ⟨env, henv⟩
      obtain ⟨env', henv'⟩ := (exists_rowsOf_iff hjoined).mpr hr
      refine ⟨env', henv', ?_⟩
      rw [← ht]
      refine truth_of_no_joins hm hempty ?_
      rw [mem_of_mem_rowsOf henv, mem_of_mem_rowsOf henv']
    · rintro ⟨env, henv, ht⟩
      have hr := (exists_rowsOf_iff hjoined).mp ⟨env, henv⟩
      obtain ⟨env', henv'⟩ := (exists_rowsOf_iff hjoined').mpr hr
      refine ⟨env', henv', ?_⟩
      rw [← ht]
      refine truth_of_no_joins hm hempty ?_
      rw [mem_of_mem_rowsOf henv, mem_of_mem_rowsOf henv']
  · have hsame : m.requiredJoins (clauseFields qs) = m.requiredJoins (queryFields q) := by
      refine Finset.Subset.antisymm ?_ hsub
      rw [hsingle]
      exact hroot
    rw [hsame]

/-! ## Compound queries on a joined row -/

omit [SetOrder] in
theorem accepted_clauses {qs : List QueryExpr}
    (h : ∀ q ∈ qs, ∃ cond, buildExpression m q = .ok cond ∧ cond.accepted = true) :
    ∃ cs, buildClauses m qs = .ok cs ∧ conditionsAccepted cs = true ∧
      ∀ env, evalConditions env cs = qs.map (m.truth · env) := by
  induction qs with
  | nil => exact ⟨[], rfl, rfl, fun _ => rfl⟩
  | cons q qs ih =>
    obtain ⟨cond, hcond, haccepted⟩ := h q List.mem_cons_self
    obtain ⟨cs, hcs, hall, heval⟩ := ih (fun q' hq' => h q' (List.mem_cons_of_mem _ hq'))
    refine ⟨cond :: cs, ?_, ?_, fun env => ?_⟩
    · rw [buildClauses, hcond, hcs]
      rfl
    · rw [conditionsAccepted, haccepted, hall]
      rfl
    · rw [evalConditions, heval env, List.map_cons, truth_of_build hcond]

/-- A compound query is accepted with its clauses. -/
theorem Manager.Accepts.and (hm : m.Known) {qs : List QueryExpr} (hne : qs ≠ [])
    (h : ∀ q ∈ qs, m.Accepts db q) : m.Accepts db (.and qs) ∧
      ∀ env, m.truth (.and qs) env = Truth.all (qs.map (m.truth · env)) := by
  obtain ⟨cs, hcs, haccepted, heval⟩ := accepted_clauses (fun q hq => (h q hq).build)
  have hbuild := buildExpression_and_eq_ok.mpr ⟨hne, cs, hcs, rfl⟩
  refine ⟨⟨⟨.and cs, hbuild, haccepted⟩, ?_⟩, fun env => ?_⟩
  · refine (joinedFor_isSome_iff db hm (clauseFields qs)).mpr (Manager.Joinable.clauses hm ?_)
    exact fun q hq => (joinedFor_isSome_iff db hm (queryFields q)).mp (h q hq).joined
  · rw [truth_of_build hbuild, Condition.eval, heval]

theorem Manager.Accepts.or (hm : m.Known) {qs : List QueryExpr} (hne : qs ≠ [])
    (h : ∀ q ∈ qs, m.Accepts db q) : m.Accepts db (.or qs) ∧
      ∀ env, m.truth (.or qs) env = Truth.any (qs.map (m.truth · env)) := by
  obtain ⟨cs, hcs, haccepted, heval⟩ := accepted_clauses (fun q hq => (h q hq).build)
  have hbuild := buildExpression_or_eq_ok.mpr ⟨hne, cs, hcs, rfl⟩
  refine ⟨⟨⟨.or cs, hbuild, haccepted⟩, ?_⟩, fun env => ?_⟩
  · refine (joinedFor_isSome_iff db hm (clauseFields qs)).mpr (Manager.Joinable.clauses hm ?_)
    exact fun q hq => (joinedFor_isSome_iff db hm (queryFields q)).mp (h q hq).joined
  · rw [truth_of_build hbuild, Condition.eval, heval]

theorem Manager.Accepts.not {q : QueryExpr} (h : m.Accepts db q) : m.Accepts db (.not q) ∧
    ∀ env, m.truth (.not q) env = (m.truth q env).not := by
  obtain ⟨cond, hcond, haccepted⟩ := h.build
  have hbuild := buildExpression_not_eq_ok.mpr ⟨cond, hcond, rfl⟩
  refine ⟨⟨⟨.not cond, hbuild, haccepted⟩, h.joined⟩, fun env => ?_⟩
  rw [truth_of_build hbuild, truth_of_build hcond, Condition.eval]

/-! ## The Boolean laws -/

/-- The objects found by compound queries are those of the Boolean operations. -/
structure Manager.Homomorphic (m : Manager) (db : Store) (qs : List QueryExpr) : Prop where
  and : ∃ found, m.found db (.and qs) = some found ∧
    ∀ r, r ∈ found ↔ ∀ q ∈ qs, ∃ single, m.found db q = some single ∧ r ∈ single
  or : ∃ found, m.found db (.or qs) = some found ∧
    ∀ r, r ∈ found ↔ ∃ q ∈ qs, ∃ single, m.found db q = some single ∧ r ∈ single
  not : ∀ q ∈ qs, ∃ found single, m.found db (.not q) = some found ∧
    m.found db q = some single ∧ ∀ r, r ∈ found ↔ r ∈ db.rows m.model ∧ r ∉ single

/-- Queries that are decided on objects as they are on joined rows: where each of them holds on
some joined row of an object they hold on a common one, and each of them either holds on some
joined row of an object or fails on some, but not both. -/
structure Manager.Classical (m : Manager) (db : Store) (qs : List QueryExpr) : Prop where
  common : ∀ r ∈ db.rows m.model,
    (∀ q ∈ qs, ∃ env ∈ m.rowsOf db (m.requiredJoins (clauseFields qs)) r, m.truth q env = .holds) →
    ∃ env ∈ m.rowsOf db (m.requiredJoins (clauseFields qs)) r, ∀ q ∈ qs, m.truth q env = .holds
  decided : ∀ q ∈ qs, ∀ r ∈ db.rows m.model,
    (∃ env ∈ m.rowsOf db (m.requiredJoins (clauseFields qs)) r, m.truth q env = .fails) ↔
      ¬ ∃ env ∈ m.rowsOf db (m.requiredJoins (clauseFields qs)) r, m.truth q env = .holds

/-- The objects that an accepted search finds. -/
theorem Manager.Accepts.found {q : QueryExpr} (h : m.Accepts db q) :
    ∃ found, m.found db q = some found ∧ ∀ r, r ∈ found ↔
      ∃ env ∈ m.rowsOf db (m.requiredJoins (queryFields q)) r, m.truth q env = .holds := by
  obtain ⟨cond, hcond, haccepted⟩ := h.build
  have hfound := found_of_build db hcond
  rw [if_pos haccepted] at hfound
  obtain ⟨envs, henvs⟩ := Option.isSome_iff_exists.mp h.joined
  rw [henvs, Option.map_some] at hfound
  exact ⟨_, hfound, (found_eq_some.mp hfound).2⟩

section Laws

variable {qs : List QueryExpr}

/-- A single query, read on the joined rows of all of them. -/
theorem found_single_iff (hm : m.Known) (hqs : ∀ q ∈ qs, m.Accepts db q) {q : QueryExpr}
    (hq : q ∈ qs) (r : Row) :
    (∃ single, m.found db q = some single ∧ r ∈ single) ↔
      ∃ env ∈ m.rowsOf db (m.requiredJoins (clauseFields qs)) r, m.truth q env = .holds := by
  obtain ⟨single, hsingle, hmem⟩ := (hqs q hq).found
  have hjoinable : ∀ q ∈ qs, m.Joinable (m.requiredJoins (queryFields q)) :=
    fun q hq => (joinedFor_isSome_iff db hm (queryFields q)).mp (hqs q hq).joined
  rw [← truth_transfer hm hjoinable hq r .holds, ← hmem]
  constructor
  · rintro ⟨single', hsingle', hr⟩
    rw [hsingle] at hsingle'
    cases hsingle'
    exact hr
  · intro hr
    exact ⟨single, hsingle, hr⟩

theorem found_not_iff (hm : m.Known) (hqs : ∀ q ∈ qs, m.Accepts db q) {q : QueryExpr}
    (hq : q ∈ qs) {found : Finset Row} (h : m.found db (.not q) = some found) (r : Row) :
    r ∈ found ↔
      ∃ env ∈ m.rowsOf db (m.requiredJoins (clauseFields qs)) r, m.truth q env = .fails := by
  obtain ⟨-, htruth⟩ := (hqs q hq).not
  have hjoinable : ∀ q ∈ qs, m.Joinable (m.requiredJoins (queryFields q)) :=
    fun q hq => (joinedFor_isSome_iff db hm (queryFields q)).mp (hqs q hq).joined
  rw [(found_eq_some.mp h).2 r, ← truth_transfer hm hjoinable hq r .fails]
  simp only [htruth, Truth.not_eq_holds]
  rfl

/-- The stored objects that a compound of accepted queries can find. -/
theorem stored_of_rowsOf (hm : m.Known) (hne : qs ≠ []) (hqs : ∀ q ∈ qs, m.Accepts db q) {r : Row}
    {env : Joined TableName Row}
    (henv : env ∈ m.rowsOf db (m.requiredJoins (clauseFields qs)) r) : r ∈ db.rows m.model :=
  (exists_rowsOf_iff (Manager.Accepts.and hm hne hqs).1.joined).mp ⟨env, henv⟩

theorem accepts_of_found {q : QueryExpr} (h : (m.found db q).isSome = true) : m.Accepts db q := by
  obtain ⟨found, hfound⟩ := Option.isSome_iff_exists.mp h
  exact (found_eq_some.mp hfound).1

/-- Searches obey the Boolean laws for some accepted queries iff these are decided on objects as
they are on joined rows. -/
theorem homomorphic_iff (hm : m.Known) (hne : qs ≠ [])
    (haccepted : ∀ q ∈ qs, (m.found db q).isSome = true) :
    m.Homomorphic db qs ↔ m.Classical db qs := by
  have hqs : ∀ q ∈ qs, m.Accepts db q := fun q hq => accepts_of_found (haccepted q hq)
  obtain ⟨haccept, htruth⟩ := Manager.Accepts.and hm hne hqs
  obtain ⟨all, hall, hallmem⟩ := haccept.found
  have hand : ∀ r, r ∈ all ↔ ∃ env ∈ m.rowsOf db (m.requiredJoins (clauseFields qs)) r,
      ∀ q ∈ qs, m.truth q env = .holds := by
    intro r
    rw [hallmem r]
    simp only [htruth, Truth.all_eq_holds, List.forall_mem_map]
    rfl
  constructor
  · intro h
    obtain ⟨found, hfound, hmem⟩ := h.and
    rw [hall] at hfound
    cases hfound
    constructor
    · intro r _ hholds
      refine (hand r).mp ((hmem r).mpr fun q hq => ?_)
      exact (found_single_iff hm hqs hq r).mpr (hholds q hq)
    · intro q hq r hr
      obtain ⟨found, single, hfound, hsingle, hnot⟩ := h.not q hq
      rw [← found_not_iff hm hqs hq hfound r, hnot r, ← found_single_iff hm hqs hq r, hsingle]
      simp [hr]
  · intro h
    refine ⟨⟨all, hall, fun r => ?_⟩, ?_, fun q hq => ?_⟩
    · rw [hand r]
      constructor
      · rintro ⟨env, henv, hholds⟩ q hq
        exact (found_single_iff hm hqs hq r).mpr ⟨env, henv, hholds q hq⟩
      · intro hholds
        have hsome : ∀ q ∈ qs, ∃ env ∈ m.rowsOf db (m.requiredJoins (clauseFields qs)) r,
            m.truth q env = .holds := fun q hq => (found_single_iff hm hqs hq r).mp (hholds q hq)
        obtain ⟨q, hq⟩ := List.exists_mem_of_ne_nil qs hne
        obtain ⟨env, henv, -⟩ := hsome q hq
        exact h.common r (stored_of_rowsOf hm hne hqs henv) hsome
    · obtain ⟨haccept', htruth'⟩ := Manager.Accepts.or hm hne hqs
      obtain ⟨any, hany, hanymem⟩ := haccept'.found
      refine ⟨any, hany, fun r => ?_⟩
      rw [hanymem r]
      simp only [htruth', Truth.any_eq_holds, List.mem_map, exists_exists_and_eq_and]
      constructor
      · rintro ⟨env, henv, q, hq, hholds⟩
        exact ⟨q, hq, (found_single_iff hm hqs hq r).mpr ⟨env, henv, hholds⟩⟩
      · rintro ⟨q, hq, hsingle⟩
        obtain ⟨env, henv, hholds⟩ := (found_single_iff hm hqs hq r).mp hsingle
        exact ⟨env, henv, q, hq, hholds⟩
    · obtain ⟨found, hfound, -⟩ := (hqs q hq).not.1.found
      obtain ⟨single, hsingle, -⟩ := (hqs q hq).found
      refine ⟨found, single, hfound, hsingle, fun r => ?_⟩
      have hmem : r ∈ single ↔
          ∃ env ∈ m.rowsOf db (m.requiredJoins (clauseFields qs)) r, m.truth q env = .holds := by
        rw [← found_single_iff hm hqs hq r, hsingle]
        simp
      rw [found_not_iff hm hqs hq hfound r, hmem]
      constructor
      · rintro ⟨env, henv, hfails⟩
        have hr := stored_of_rowsOf hm hne hqs henv
        exact ⟨hr, (h.decided q hq r hr).mp ⟨env, henv, hfails⟩⟩
      · rintro ⟨hr, hnot⟩
        exact (h.decided q hq r hr).mpr hnot

omit [UuidRuntime] [Dialect] in
theorem rowsOf_no_joins {roots : Finset String} (h : roots = ∅) {r : Row}
    (hr : r ∈ db.rows m.model) (env : Joined TableName Row) :
    env ∈ m.rowsOf db roots r ↔ env = rootRow m.model r := by
  rw [h]
  exact rowsOf_empty hr env

/-- Without relations the Boolean laws fail on unknown comparisons only. -/
theorem classical_of_no_joins (h : m.requiredJoins (clauseFields qs) = ∅) :
    m.Classical db qs ↔
      ∀ q ∈ qs, ∀ r ∈ db.rows m.model, m.truth q (rootRow m.model r) ≠ .unknown := by
  have hrow : ∀ r ∈ db.rows m.model, ∀ env,
      env ∈ m.rowsOf db (m.requiredJoins (clauseFields qs)) r ↔ env = rootRow m.model r :=
    fun r hr env => rowsOf_no_joins h hr env
  constructor
  · intro hclassical q hq r hr hunknown
    have hdecided := hclassical.decided q hq r hr
    simp only [hrow r hr, exists_eq_left, hunknown] at hdecided
    exact absurd hdecided (by decide)
  · intro hknown
    constructor
    · intro r hr hholds
      simp only [hrow r hr, exists_eq_left] at hholds ⊢
      exact hholds
    · intro q hq r hr
      simp only [hrow r hr, exists_eq_left]
      have hne := hknown q hq r hr
      cases htruth : m.truth q (rootRow m.model r) with
      | holds => decide
      | fails => decide
      | unknown => exact absurd htruth hne

end Laws

end Boolean

/-! ## A user of two schools -/

section Examples

attribute [local instance] asciiUuidRuntime sortedOrder

/-- A dialect that compares texts. -/
@[reducible] def textDialect : Dialect where
  compare op cell v := match op, cell, v with
    | .eq, .str s, .str t => s = t
    | _, _, _ => false
  extract _ _ _ := .null
  contains _ _ _ := .unknown
  accepts _ _ _ := true

attribute [local instance] textDialect

/-- The tables of `twoSchools`. -/
def twoSchoolsRows : TableName → List Row
  | .user => [⟨1, [("public_id", .uuid 1), ("name", .str "anna")]⟩]
  | .school =>
    [⟨1, [("public_id", .uuid 2), ("name", .str "a")]⟩,
      ⟨2, [("public_id", .uuid 3), ("name", .str "b")]⟩]
  | .schoolMembership =>
    [⟨1, [("user_id", .int 1), ("school_id", .int 1)]⟩,
      ⟨2, [("user_id", .int 1), ("school_id", .int 2)]⟩]
  | _ => []

theorem twoSchools_ids : ∀ t, ((twoSchoolsRows t).map Row.id).Nodup := by
  intro t
  cases t <;> decide

theorem twoSchools_publicId : ∀ t, t ≠ .schoolMembership →
    ∀ r ∈ twoSchoolsRows t, (r.cell "public_id").isUuid = true := by
  intro t ht
  cases t with
  | schoolMembership => exact absurd rfl ht
  | _ => decide

theorem twoSchools_publicIds : ∀ t, t ≠ .schoolMembership →
    ((twoSchoolsRows t).map (Row.cell · "public_id")).Nodup := by
  intro t ht
  cases t with
  | schoolMembership => exact absurd rfl ht
  | _ => decide

/-- A user without an email address who is a member of two schools. -/
def twoSchools : Store where
  rows := twoSchoolsRows
  ids_nodup := twoSchools_ids
  publicId := twoSchools_publicId
  publicIds_nodup := twoSchools_publicIds

def inSchool (name : String) : QueryExpr := .filter ⟨"schools.name", .eq, .scalar (.str name)⟩

def hasEmail (email : String) : QueryExpr := .filter ⟨"email", .eq, .scalar (.str email)⟩

/-- The laws hold for a query that is decided on every user. -/
theorem twoSchools_homomorphic :
    userManager.Homomorphic twoSchools [.filter ⟨"name", .eq, .scalar (.str "anna")⟩] :=
  (homomorphic_iff .user (by decide) (by decide)).mpr
    ((classical_of_no_joins (by decide)).mpr (by decide))

/-- The user is found in each school, but not in both; and she is neither found by an email
address nor by its negation. -/
theorem twoSchools_not_homomorphic :
    (∀ q ∈ [inSchool "a", inSchool "b", hasEmail "anna@example.com"],
      (userManager.found twoSchools q).isSome = true) ∧
      ¬ userManager.Homomorphic twoSchools [inSchool "a", inSchool "b"] ∧
      ¬ userManager.Homomorphic twoSchools [hasEmail "anna@example.com"] := by
  have hanna : ∀ r ∈ twoSchoolsRows .user,
      userManager.found twoSchools (inSchool "a") = some {r} ∧
        userManager.found twoSchools (inSchool "b") = some {r} ∧
        userManager.found twoSchools (.and [inSchool "a", inSchool "b"]) = some ∅ ∧
        userManager.found twoSchools (hasEmail "anna@example.com") = some ∅ ∧
        userManager.found twoSchools (.not (hasEmail "anna@example.com")) = some ∅ := by
    decide
  have hstored : ∃ r, r ∈ twoSchoolsRows .user := ⟨_, List.mem_cons_self⟩
  obtain ⟨r, hr⟩ := hstored
  obtain ⟨ha, hb, hand, hemail, hnot⟩ := hanna r hr
  refine ⟨by decide, ?_, ?_⟩
  · intro h
    obtain ⟨found, hfound, hmem⟩ := h.and
    rw [hand] at hfound
    cases hfound
    have hboth : ∀ q ∈ [inSchool "a", inSchool "b"],
        ∃ single, userManager.found twoSchools q = some single ∧ r ∈ single := by
      intro q hq
      rcases List.mem_cons.mp hq with rfl | hq
      · exact ⟨{r}, ha, Finset.mem_singleton_self r⟩
      · rw [List.mem_singleton.mp hq]
        exact ⟨{r}, hb, Finset.mem_singleton_self r⟩
    exact absurd ((hmem r).mpr hboth) (Finset.notMem_empty r)
  · intro h
    obtain ⟨found, single, hfound, hsingle, hmem⟩ := h.not _ List.mem_cons_self
    rw [hnot] at hfound
    rw [hemail] at hsingle
    cases hfound
    cases hsingle
    exact absurd ((hmem r).mpr ⟨hr, Finset.notMem_empty r⟩) (Finset.notMem_empty r)

end Examples

end Kelvin.Search
