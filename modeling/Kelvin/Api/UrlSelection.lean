import Kelvin.Api.Urls
import Kelvin.Data.Outcome

/-!
# Which URL is selected

The URL with the most matching segments is selected from the routes with a name. A request selects
the one that begins like its path, if there is no other.

* `bestUrl_eq`: the URL that is selected.
* `segments_of_urlPathFor`: the path of a URL begins with the segments of its route.
-/

namespace Kelvin

/-! ## Common fronts -/

section Common

variable {α : Type*} [DecidableEq α] {front rest segments : List α}

theorem commonLength_append_of_front (h : front <+: segments) :
    front.length ≤ commonLength (front ++ rest) segments := by
  induction front generalizing segments with
  | nil => exact Nat.zero_le _
  | cons a front ih =>
    cases segments with
    | nil => exact absurd (List.prefix_nil.mp h) (List.cons_ne_nil _ _)
    | cons b segments =>
      obtain ⟨rfl, hp⟩ := List.cons_prefix_cons.mp h
      rw [List.cons_append, commonLength, if_pos rfl, List.length_cons]
      exact Nat.succ_le_succ (ih hp)

theorem commonLength_append_of_not_front (h : ¬ front <+: segments) :
    commonLength (front ++ rest) segments = commonLength front segments ∧
      commonLength front segments < front.length := by
  induction front generalizing segments with
  | nil => exact absurd List.nil_prefix h
  | cons a front ih =>
    cases segments with
    | nil => exact ⟨by rw [List.cons_append, commonLength, commonLength] <;> simp, by simp [commonLength]⟩
    | cons b segments =>
      rw [List.cons_append, commonLength, commonLength]
      by_cases hab : a = b
      · have hnot : ¬ front <+: segments := fun hp => h (List.cons_prefix_cons.mpr ⟨hab, hp⟩)
        obtain ⟨heq, hlt⟩ := ih hnot
        rw [if_pos hab, if_pos hab, heq]
        exact ⟨rfl, Nat.succ_lt_succ hlt⟩
      · rw [if_neg hab, if_neg hab]
        exact ⟨rfl, Nat.succ_pos _⟩

end Common

/-! ## The best URL -/

/-- The path of the URL begins with some segments. -/
def Reaches (front : List (List Char)) (rest : String) : Prop :=
  front <+: pathSegments (restPath rest)

section Best

variable {requestPath : String} {front more : List (List Char)} {rests : List String}
  {best : Option (Nat × String)}

/-- A URL that shares the front stays the best one, if no other does. -/
theorem foldl_betterUrl_of_reached (hpath : pathSegments requestPath = front ++ more)
    {score : Nat} {rest : String} (hscore : front.length ≤ score)
    (h : ∀ r ∈ rests, ¬ Reaches front r) :
    rests.foldl (betterUrl requestPath) (some (score, rest)) = some (score, rest) := by
  induction rests with
  | nil => rfl
  | cons r rests ih =>
    rw [List.forall_mem_cons] at h
    have hlow : matchingPathSegments requestPath (restPath r) < front.length := by
      rw [matchingPathSegments, hpath]
      obtain ⟨heq, hlt⟩ := commonLength_append_of_not_front h.1
      rw [heq]
      exact hlt
    have hstay : betterUrl requestPath (some (score, rest)) r = some (score, rest) := by
      rw [betterUrl]
      exact if_neg (by omega)
    rw [List.foldl_cons, hstay]
    exact ih h.2

/-- A URL that shares the front is better than those that do not. -/
theorem betterUrl_of_reached (hpath : pathSegments requestPath = front ++ more)
    (hbest : ∀ b, best = some b → b.1 < front.length) {r : String} (hr : Reaches front r) :
    ∃ score, front.length ≤ score ∧ betterUrl requestPath best r = some (score, r) := by
  have hscore : front.length ≤ matchingPathSegments requestPath (restPath r) := by
    rw [matchingPathSegments, hpath]
    exact commonLength_append_of_front hr
  refine ⟨_, hscore, ?_⟩
  cases best with
  | none => rfl
  | some b =>
    rw [betterUrl]
    exact if_pos (lt_of_lt_of_le (hbest b rfl) hscore)

/-- A URL that does not share the front has a low score. -/
theorem betterUrl_of_not_reached (hpath : pathSegments requestPath = front ++ more)
    (hbest : ∀ b, best = some b → b.1 < front.length) {r : String} (hr : ¬ Reaches front r) :
    ∀ b, betterUrl requestPath best r = some b → b.1 < front.length := by
  have hlow : matchingPathSegments requestPath (restPath r) < front.length := by
    rw [matchingPathSegments, hpath]
    obtain ⟨heq, hlt⟩ := commonLength_append_of_not_front hr
    rw [heq]
    exact hlt
  intro b hb
  unfold betterUrl at hb
  cases best with
  | none =>
    cases hb
    exact hlow
  | some b' =>
    dsimp only at hb
    split at hb
    · cases hb
      exact hlow
    · cases hb
      exact hbest _ rfl

/-- The only URL that shares the front of a path is selected. -/
theorem bestUrl_eq (hpath : pathSegments requestPath = front ++ more) {before after : List String}
    {r : String} (hbefore : ∀ r' ∈ before, ¬ Reaches front r') (hr : Reaches front r)
    (hafter : ∀ r' ∈ after, ¬ Reaches front r') :
    bestUrl requestPath (before ++ r :: after) = some r := by
  have hfold : ∀ best : Option (Nat × String), (∀ b, best = some b → b.1 < front.length) →
      ∃ score, (before ++ r :: after).foldl (betterUrl requestPath) best = some (score, r) := by
    induction before with
    | nil =>
      intro best hbest
      obtain ⟨score, hscore, heq⟩ := betterUrl_of_reached hpath hbest hr
      rw [List.nil_append, List.foldl_cons, heq]
      exact ⟨score, foldl_betterUrl_of_reached hpath hscore hafter⟩
    | cons r' before ih =>
      intro best hbest
      obtain ⟨hr', hbefore⟩ := List.forall_mem_cons.mp hbefore
      rw [List.cons_append, List.foldl_cons]
      exact ih hbefore _ (betterUrl_of_not_reached hpath hbest hr')
  obtain ⟨score, heq⟩ := hfold none (fun _ hb => nomatch hb)
  rw [bestUrl, heq]
  rfl

end Best

/-! ## The routes of the application -/

/-- A text that stays as it is when parameters are replaced and the path is found in a URL. -/
def PlainText (text : List Char) : Prop := ∀ c ∈ text, c ∉ ['{', '?', '#', '\t', '\r', '\n']

instance (text : List Char) : Decidable (PlainText text) :=
  inferInstanceAs (Decidable (∀ c ∈ text, c ∉ ['{', '?', '#', '\t', '\r', '\n']))

theorem plain_literal : ∀ route ∈ kelvinRoutes, PlainText route.literal.toList := by
  have hall : kelvinRoutes.all (fun route => route.literal.toList.all
      (fun c => Nat.ble 36 c.toNat && Nat.ble c.toNat 122 && !(Nat.beq c.toNat 63))) = true := by
    decide +kernel
  have hsigns : ∀ c ∈ ['{', '?', '#', '\t', '\r', '\n'],
      (Nat.ble 36 c.toNat && Nat.ble c.toNat 122 && !(Nat.beq c.toNat 63)) = false :=
    List.forall_iff_forall_mem.mp (by decide)
  intro route hroute c hc hsign
  have hchar := List.all_eq_true.mp (List.all_eq_true.mp hall route hroute) c hc
  rw [hsigns c hsign] at hchar
  cases hchar

theorem literal_ends : ∀ route ∈ kelvinRoutes,
    route.params = [] ∨ route.literal.toList.getLast? = some '/' := by
  decide +kernel

theorem replaceFrom_append {pattern value front text : List Char} (h : '{' ∉ front) :
    replaceFrom ('{' :: pattern) value 0 (front ++ text) =
      front ++ replaceFrom ('{' :: pattern) value 0 text := by
  induction front with
  | nil => rfl
  | cons c front ih =>
    rw [List.mem_cons, not_or] at h
    have hno : ('{' :: pattern).isPrefixOf (c :: (front ++ text)) = false := by
      simp [List.isPrefixOf, h.1]
    rw [List.cons_append, replaceFrom, if_neg (by simp [hno]), ih h.2, List.cons_append]

/-- The path of a route begins with its literal part. -/
theorem literal_prefix_of_urlPathFor {route : Route} {params : Params} {rest : String}
    (hplain : PlainText route.literal.toList) (h : route.urlPathFor params = .ok rest) :
    route.literal.toList <+: rest.toList := by
  have hstep : ∀ (params : Params) (path : String), route.literal.toList <+: path.toList →
      params.foldlM (replaceParam route.mounted) path = .ok rest →
        route.literal.toList <+: rest.toList := by
    intro params
    induction params with
    | nil =>
      intro path hpath h
      cases h
      exact hpath
    | cons p params ih =>
      intro path hpath h
      rw [List.foldlM_cons] at h
      obtain ⟨path', hreplace, h⟩ := bind_eq_ok.mp h
      refine ih path' ?_ h
      unfold replaceParam at hreplace
      split at hreplace
      · cases hreplace
      · cases hreplace
        obtain ⟨text, htext⟩ := hpath
        have hbrace : '{' ∉ route.literal.toList := fun hc => hplain _ hc (by simp)
        have hpattern : (braced p.1).toList = '{' :: (p.1 ++ "\x7d").toList := by
          rw [braced, String.append_assoc, String.toList_append]
          rfl
        rw [String.toList_ofList, ← htext, hpattern, replaceFrom_append hbrace]
        exact List.prefix_append _ _
  refine hstep params _ ?_ h
  rw [Route.format, String.toList_append]
  exact List.prefix_append _ _

theorem pathSegments_prefix {literal path : String} (hends : literal.toList.getLast? = some '/')
    (h : literal.toList <+: path.toList) : pathSegments literal <+: pathSegments path := by
  obtain ⟨text, htext⟩ := h
  have hne : literal.toList ≠ [] := by
    intro hnil
    rw [hnil] at hends
    cases hends
  have hsplit : literal.toList = literal.toList.dropLast ++ ['/'] := by
    have hlast : literal.toList.getLast hne = '/' := by
      rw [List.getLast?_eq_some_getLast hne] at hends
      exact Option.some.inj hends
    rw [← hlast, List.dropLast_append_getLast]
  have hsegments : (literal.toList.splitOn '/').filter (· ≠ []) =
      (literal.toList.dropLast.splitOn '/').filter (· ≠ []) := by
    rw [hsplit, List.splitOn_append_cons_self, List.dropLast_concat, List.splitOn_nil,
      List.filter_append]
    simp
  rw [pathSegments, pathSegments, hsegments, ← htext, hsplit, List.append_assoc,
    List.singleton_append, List.splitOn_append_cons_self, List.filter_append, List.dropLast_concat]
  exact List.prefix_append _ _

theorem restPath_append {front text : List Char} (h : PlainText front) :
    (restPath (String.ofList (front ++ text))).toList =
      front ++ (restPath (String.ofList text)).toList := by
  simp only [restPath, String.toList_ofList]
  have hkeep : front.filter (fun c => c ∉ ['\t', '\r', '\n']) = front := by
    refine List.filter_eq_self.mpr ?_
    intro c hc
    have := h c hc
    simp only [List.mem_cons, List.not_mem_nil, or_false, not_or] at this
    simp [this]
  rw [List.filter_append, hkeep, List.takeWhile_append_of_pos]
  intro c hc
  have := h c hc
  simp only [List.mem_cons, List.not_mem_nil, or_false, not_or] at this
  simp [this]

/-- The path of a URL begins with the segments of its route. -/
theorem segments_of_urlPathFor {route : Route} {name : String} {params : Params} {rest : String}
    (hroute : route ∈ kelvinRoutes) (hfits : route.Fits name params)
    (h : route.urlPathFor params = .ok rest) :
    pathSegments route.literal <+: pathSegments (restPath rest) := by
  have hplain := plain_literal route hroute
  rcases literal_ends route hroute with hparams | hends
  · -- without parameters the path is the literal part
    have hnone : params = [] := by
      refine List.eq_nil_iff_forall_not_mem.mpr ?_
      intro p hp
      have hmem := hfits.2.1 p hp
      rw [hparams] at hmem
      cases hmem
    rw [hnone] at h
    cases h
    have hformat : route.format = String.ofList (route.literal.toList ++ []) := by
      simp [Route.format, hparams]
    rw [hformat]
    have hpath : (restPath (String.ofList (route.literal.toList ++ []))).toList =
        route.literal.toList := by
      rw [restPath_append hplain]
      simp [restPath]
    rw [pathSegments, pathSegments, hpath]
  · refine pathSegments_prefix hends ?_
    obtain ⟨text, htext⟩ := literal_prefix_of_urlPathFor hplain h
    have hrest : rest = String.ofList (route.literal.toList ++ text) := by
      rw [htext, String.ofList_toList]
    rw [hrest, restPath_append hplain]
    exact List.prefix_append _ _

end Kelvin
