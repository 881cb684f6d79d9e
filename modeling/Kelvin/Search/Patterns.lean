import Kelvin.Data.Like

/-!
# Search patterns

`_glob_to_sql_pattern` of `query_filter.py`. A pattern of a search, in which `*` stands for any
text, is sent to the database as a LIKE pattern: the escape character and the two special
characters of LIKE are escaped one after the other, and then every `*` becomes a `%`. The escape
character has to be the first of them, since the later steps add escape characters.

* `globToSqlPattern`: the translation.
* `globToSqlPattern_exact`: the LIKE pattern selects exactly what the glob stands for.
-/

namespace Kelvin.Search

/-- `text.replace(old, new)` for a single character. -/
def replaceChar (old : Char) (new text : List Char) : List Char :=
  text.flatMap (fun c => if c = old then new else [c])

/-- `_glob_to_sql_pattern`. -/
def globToSqlPattern (escapeChar : Char) (userGlob : String) : String :=
  let escaped := replaceChar escapeChar [escapeChar, escapeChar] userGlob.toList
  let escaped := replaceChar '%' [escapeChar, '%'] escaped
  let escaped := replaceChar '_' [escapeChar, '_'] escaped
  String.ofList (replaceChar '*' ['%'] escaped)

/-- What becomes of one character of the pattern. -/
def escapeGlob (escape c : Char) : List Char :=
  if c = escape ∨ c = '%' ∨ c = '_' then [escape, c] else if c = '*' then ['%'] else [c]

section

variable {escape : Char}

theorem replaceChar_cons (old c : Char) (new text : List Char) :
    replaceChar old new (c :: text) = (if c = old then new else [c]) ++ replaceChar old new text :=
  List.flatMap_cons

theorem replaceChar_append (old : Char) (new a b : List Char) :
    replaceChar old new (a ++ b) = replaceChar old new a ++ replaceChar old new b :=
  List.flatMap_append

/-- The four replacements work character by character. -/
theorem toList_globToSqlPattern (hpercent : escape ≠ '%') (hone : escape ≠ '_')
    (hstar : escape ≠ '*') (pattern : String) :
    (globToSqlPattern escape pattern).toList = pattern.toList.flatMap (escapeGlob escape) := by
  rw [globToSqlPattern, String.toList_ofList]
  induction pattern.toList with
  | nil => rfl
  | cons c text ih =>
    rw [List.flatMap_cons, ← ih, replaceChar_cons, replaceChar_append, replaceChar_append,
      replaceChar_append]
    congr 1
    unfold escapeGlob
    by_cases hc : c = escape
    · subst hc
      simp [replaceChar, hpercent, hone, hstar]
    · by_cases hp : c = '%'
      · subst hp
        simp [replaceChar, hc, hone, hstar]
      · by_cases ho : c = '_'
        · subst ho
          simp [replaceChar, hc, hstar]
        · by_cases hs : c = '*'
          · subst hs
            simp [replaceChar, hc]
          · simp [replaceChar, hc, hp, ho, hs]

/-- A translated pattern is read as the tokens of the glob. -/
theorem likeTokens_escapeGlob (hpercent : escape ≠ '%') (hstar : escape ≠ '*')
    (pattern : List Char) :
    likeTokens escape (pattern.flatMap (escapeGlob escape)) = some (pattern.map globToken) := by
  induction pattern with
  | nil => rfl
  | cons c pattern ih =>
    rw [List.flatMap_cons, List.map_cons, globToken]
    unfold escapeGlob at ih ⊢
    by_cases hspecial : c = escape ∨ c = '%' ∨ c = '_'
    · have hc : c ≠ '*' := by
        rintro rfl
        simp [hstar.symm] at hspecial
      rw [if_pos hspecial, if_neg hc, List.cons_append, List.singleton_append, likeTokens_escaped,
        ih]
      rfl
    · obtain ⟨hescape, hrest⟩ := not_or.mp hspecial
      obtain ⟨hp, hone⟩ := not_or.mp hrest
      rw [if_neg hspecial]
      by_cases hc : c = '*'
      · rw [if_pos hc, if_pos hc, List.singleton_append, likeTokens_percent hpercent, ih]
        rfl
      · rw [if_neg hc, if_neg hc, List.singleton_append, likeTokens_char hescape hp hone, ih]
        rfl

end

/-- A text satisfies LIKE with the translated pattern if and only if it matches the glob; the
translated pattern is well formed. -/
theorem globToSqlPattern_exact (pattern text : String) :
    like '\\' (globToSqlPattern '\\' pattern) text ≠ none ∧
      (like '\\' (globToSqlPattern '\\' pattern) text = some true ↔
        Glob pattern.toList text.toList) := by
  have htokens : likeTokens '\\' (globToSqlPattern '\\' pattern).toList =
      some (pattern.toList.map globToken) := by
    rw [toList_globToSqlPattern (by decide) (by decide) (by decide)]
    exact likeTokens_escapeGlob (by decide) (by decide) _
  have hlike : like '\\' (globToSqlPattern '\\' pattern) text =
      some (globMatches pattern.toList text.toList) := by
    rw [like, htokens, Option.map_some, likeMatches_map_globToken]
  refine ⟨by simp [hlike], ?_⟩
  rw [hlike, Option.some_inj]
  exact globMatches_iff_glob

example : globToSqlPattern '\\' "50%_*" = "50\\%\\_%" := by decide

end Kelvin.Search
