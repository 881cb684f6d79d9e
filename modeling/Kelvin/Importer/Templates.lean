import Kelvin.Importer.Usernames

/-!
# Templates

The pieces of a template, and what `format_name` makes of them.

* `pieces_text`, `pieces_append`: the pieces make up the text, and those of a text put together.
* `exists_around`, `sub_around`: the texts around the only variable of a template.
* `formatName_eq_ok`: what a name is made of.
-/

namespace Kelvin

namespace Importer

open Text

/-! ## Pieces of a text -/

theorem length_of_startsAt {v : CounterVariable} {text : List Char} (h : v.startsAt text = true) :
    v.text.length ≤ text.length := by
  rw [CounterVariable.startsAt, decide_eq_true_eq] at h
  have hlength := congrArg List.length h
  rw [List.length_map, List.length_take] at hlength
  omega

theorem startsAt_of_variableAt {v : CounterVariable} {text : List Char}
    (h : variableAt text = some v) : v.startsAt text = true := by
  simpa using List.find?_some h

theorem piecesFrom_text (skip : Nat) (text : List Char) :
    (piecesFrom skip text).flatMap Piece.text = text.drop skip := by
  induction text generalizing skip with
  | nil => cases skip <;> rfl
  | cons c cs ih =>
    cases skip with
    | succ skip => exact ih skip
    | zero =>
      rw [piecesFrom]
      cases variableAt (c :: cs) with
      | none =>
        dsimp only
        rw [List.flatMap_cons, ih 0]
        rfl
      | some v =>
        have hlength : v.text.length = v.text.length - 1 + 1 := by
          cases v <;> decide
        dsimp only
        rw [List.flatMap_cons, ih]
        show (c :: cs).take v.text.length ++ _ = _
        rw [hlength, List.take_succ_cons, Nat.add_sub_cancel, List.cons_append,
          List.take_append_drop]
        rfl

/-- The pieces of a text make up the text. -/
theorem pieces_text (text : List Char) : (pieces text).flatMap Piece.text = text :=
  piecesFrom_text 0 text

theorem searchFrom_eq_none {start : Nat} {ps : List Piece} (h : searchFrom start ps = none) :
    ∃ cs : List Char, ps = cs.map Piece.char := by
  induction ps generalizing start with
  | nil => exact ⟨[], rfl⟩
  | cons p ps ih =>
    cases p with
    | char c =>
      obtain ⟨cs, rfl⟩ := ih h
      exact ⟨c :: cs, rfl⟩
    | counter v group => cases h

theorem searchFrom_eq_some {start : Nat} {ps : List Piece} {m : Match}
    (h : searchFrom start ps = some m) : ∃ (before : List Char) (ps' : List Piece),
      ps = before.map Piece.char ++ .counter m.kind m.group :: ps' ∧
        m.start = start + before.length := by
  induction ps generalizing start with
  | nil => cases h
  | cons p ps ih =>
    cases p with
    | char c =>
      obtain ⟨before, ps', rfl, hstart⟩ := ih h
      refine ⟨c :: before, ps', rfl, ?_⟩
      rw [hstart, List.length_cons]
      omega
    | counter v group =>
      cases h
      exact ⟨[], ps, rfl, rfl⟩

/-- A name with one variable, and the texts before and behind it. -/
structure Around (name : List Char) (m : Match) (before behind : List Char) : Prop where
  pieces_eq : pieces name =
    before.map Piece.char ++ .counter m.kind m.group :: behind.map Piece.char
  start_eq : m.start = before.length

theorem filter_chars (cs : List Char) : (cs.map Piece.char).filter Piece.isCounter = [] := by
  simp [Piece.isCounter]

theorem exists_around {name : List Char} {m : Match} (hsearch : search name = some m)
    (hone : (findall name).length < 2) : ∃ before behind, Around name m before behind := by
  obtain ⟨before, ps, hpieces, hstart⟩ := searchFrom_eq_some hsearch
  have hrest : ps.filter Piece.isCounter = [] := by
    rw [findall, hpieces, List.filter_append, filter_chars, List.nil_append,
      List.filter_cons_of_pos rfl, List.length_cons] at hone
    exact List.length_eq_zero_iff.mp (by omega)
  have hbehind : ∃ behind : List Char, ps = behind.map Piece.char := by
    have hnone : searchFrom 0 ps = none := by
      cases hps : searchFrom 0 ps with
      | none => rfl
      | some m' =>
        obtain ⟨before', ps', rfl, -⟩ := searchFrom_eq_some hps
        simp [Piece.isCounter] at hrest
    exact searchFrom_eq_none hnone
  obtain ⟨behind, rfl⟩ := hbehind
  exact ⟨before, behind, hpieces, by rw [hstart, Nat.zero_add]⟩

theorem Around.one {name : List Char} {m : Match} {before behind : List Char}
    (h : Around name m before behind) : (findall name).length < 2 := by
  rw [findall, h.pieces_eq, List.filter_append, filter_chars, List.nil_append,
    List.filter_cons_of_pos rfl, filter_chars]
  exact Nat.one_lt_two

theorem fill_chars (counter cs : List Char) :
    (cs.map Piece.char).flatMap (Piece.fill counter) = cs := by
  induction cs with
  | nil => rfl
  | cons c cs ih => exact congrArg (c :: ·) ih

theorem text_chars (cs : List Char) : (cs.map Piece.char).flatMap Piece.text = cs := by
  induction cs with
  | nil => rfl
  | cons c cs ih => exact congrArg (c :: ·) ih

theorem Around.sub_eq {name : List Char} {m : Match} {before behind : List Char}
    (h : Around name m before behind) (counter : List Char) :
    sub counter name = before ++ counter ++ behind := by
  rw [sub, h.pieces_eq, List.flatMap_append, fill_chars, List.flatMap_cons, fill_chars,
    List.append_assoc]
  rfl

/-- A name without a variable stays as it is. -/
theorem sub_of_no_match {name : List Char} (h : search name = none) (counter : List Char) :
    sub counter name = name := by
  obtain ⟨cs, hcs⟩ := searchFrom_eq_none h
  have htext := pieces_text name
  rw [hcs, text_chars] at htext
  rw [sub, hcs, fill_chars, htext]

theorem piecesFrom_skip (skip : Nat) (text : List Char) :
    piecesFrom skip text = pieces (text.drop skip) := by
  induction text generalizing skip with
  | nil => cases skip <;> rfl
  | cons c cs ih =>
    cases skip with
    | zero => rfl
    | succ skip => exact ih skip

/-- A short text in the place of the variables makes no text longer. -/
theorem length_sub_le {counter : List Char} (hcounter : counter.length ≤ patternFuncMaxLength)
    (text : List Char) : (sub counter text).length ≤ text.length := by
  have hpieces : ∀ skip, ((piecesFrom skip text).flatMap (Piece.fill counter)).length ≤
      (text.drop skip).length := by
    induction text with
    | nil =>
      intro skip
      cases skip <;> exact le_refl _
    | cons c cs ih =>
      intro skip
      cases skip with
      | succ skip => exact ih skip
      | zero =>
        rw [piecesFrom]
        cases hv : variableAt (c :: cs) with
        | none =>
          have hcs := ih 0
          dsimp only
          rw [List.flatMap_cons, List.length_append]
          rw [List.drop_zero] at hcs ⊢
          show 1 + _ ≤ cs.length + 1
          omega
        | some v =>
          have hcs := ih (v.text.length - 1)
          have hlong : patternFuncMaxLength < v.text.length := by
            cases v <;> decide
          have hle := length_of_startsAt (startsAt_of_variableAt hv)
          dsimp only
          rw [List.flatMap_cons, List.length_append, List.drop_zero]
          rw [List.length_drop] at hcs
          rw [List.length_cons] at hle ⊢
          show counter.length + _ ≤ _
          omega
  exact hpieces 0

/-! ## Texts put together -/

theorem not_mem_tail (v : CounterVariable) : '[' ∉ v.text.tail := by
  cases v <;> decide

/-- A variable that starts in a text does not reach into a text with a bracket in front. -/
theorem startsAt_append (v : CounterVariable) {a b : List Char} (hne : a ≠ [])
    (hb : b.head? = some '[') : v.startsAt (a ++ b) = v.startsAt a := by
  rcases le_or_gt v.text.length a.length with hle | hlt
  · rw [CounterVariable.startsAt, CounterVariable.startsAt, List.take_append_of_le_length hle]
  · have hshort : v.startsAt a = false := by
      by_contra h
      have hle := length_of_startsAt (by simpa using h)
      omega
    rw [hshort, CounterVariable.startsAt, decide_eq_false_iff_not]
    intro htext
    obtain ⟨bs, rfl⟩ := List.head?_eq_some_iff.mp hb
    have hpos : v.text.length - a.length = (v.text.length - a.length - 1) + 1 := by omega
    rw [List.take_append, List.take_of_length_le (by omega), hpos, List.take_succ_cons,
      List.map_append, List.map_cons] at htext
    apply not_mem_tail v
    rw [← htext, List.tail_append_of_ne_nil (by simpa using hne)]
    exact List.mem_append_right _ (by simp [upper])

theorem variableAt_append {a b : List Char} (hne : a ≠ []) (hb : b.head? = some '[') :
    variableAt (a ++ b) = variableAt a := by
  simp only [variableAt, startsAt_append _ hne hb]

theorem pieces_append {b : List Char} (hb : b.head? = some '[') (a : List Char) :
    pieces (a ++ b) = pieces a ++ pieces b := by
  have hskip : ∀ skip ≤ a.length, piecesFrom skip (a ++ b) = piecesFrom skip a ++ pieces b := by
    induction a with
    | nil =>
      intro skip hle
      obtain rfl : skip = 0 := by simpa using hle
      rfl
    | cons c cs ih =>
      intro skip hle
      cases skip with
      | succ skip => exact ih skip (by simpa using hle)
      | zero =>
        have hsame : variableAt (c :: (cs ++ b)) = variableAt (c :: cs) :=
          variableAt_append (List.cons_ne_nil c cs) hb
        rw [List.cons_append, piecesFrom, hsame, piecesFrom]
        cases hv : variableAt (c :: cs) with
        | none => exact congrArg (Piece.char c :: ·) (ih 0 (Nat.zero_le _))
        | some v =>
          have hle := length_of_startsAt (startsAt_of_variableAt hv)
          have htake : (c :: (cs ++ b)).take v.text.length = (c :: cs).take v.text.length := by
            rw [← List.cons_append]
            exact List.take_append_of_le_length hle
          dsimp only
          rw [htake, ih _ (by rw [List.length_cons] at hle; omega)]
          rfl
  exact hskip 0 (Nat.zero_le _)

/-- A variable in a text is written as its name, in some case. -/
theorem upper_group {v : CounterVariable} {group : List Char} {skip : Nat} {text : List Char}
    (h : .counter v group ∈ piecesFrom skip text) : group.map upper = v.text := by
  induction text generalizing skip with
  | nil => cases skip <;> cases h
  | cons c cs ih =>
    cases skip with
    | succ skip => exact ih h
    | zero =>
      rw [piecesFrom] at h
      cases hv : variableAt (c :: cs) with
      | none =>
        rw [hv] at h
        rcases List.mem_cons.mp h with h | h
        · cases h
        · exact ih h
      | some w =>
        rw [hv] at h
        rcases List.mem_cons.mp h with h | h
        · cases h
          have hstarts := startsAt_of_variableAt hv
          rwa [CounterVariable.startsAt, decide_eq_true_eq] at hstarts
        · exact ih h

theorem upper_eq_bracket {c : Char} (h : upper c = '[') : c = '[' := by
  unfold upper at h
  split at h
  · cases h
  · unfold Char.toUpper at h
    split at h
    · next hlower =>
      have hval := congrArg (fun c => c.val.toNat) h
      simp only [UInt32.le_iff_toNat_le, UInt32.toNat_add] at hlower hval
      simp at hlower hval
      omega
    · exact h

theorem variableAt_group {v : CounterVariable} {group : List Char}
    (hgroup : group.map upper = v.text) (rest : List Char) :
    variableAt (group ++ rest) = some v := by
  have hlength := congrArg List.length hgroup
  rw [List.length_map] at hlength
  have hv : v.startsAt (group ++ rest) = true := by
    rw [CounterVariable.startsAt, decide_eq_true_eq, List.take_append_of_le_length hlength.ge,
      List.take_of_length_le hlength.le, hgroup]
  cases v with
  | alwaysCounter => simp only [variableAt, List.find?_cons, hv]
  | counter2 =>
    -- the two variables differ in their second character
    have hother : CounterVariable.alwaysCounter.startsAt (group ++ rest) = false := by
      rw [CounterVariable.startsAt, decide_eq_false_iff_not]
      intro h
      rw [CounterVariable.startsAt, decide_eq_true_eq] at hv
      have htake := congrArg (List.take 2) (congrArg (List.take 10) h)
      have htake' := congrArg (List.take 2) hv
      rw [← List.map_take, List.take_take] at htake
      exact absurd (htake.symm.trans htake') (by decide)
    simp only [variableAt, List.find?_cons, hother, hv]

theorem head?_group {v : CounterVariable} {group : List Char} (hgroup : group.map upper = v.text)
    (rest : List Char) : (group ++ rest).head? = some '[' := by
  cases group with
  | nil => cases v <;> cases hgroup
  | cons c cs =>
    have hc : upper c = '[' := by
      cases v <;> exact (List.cons.inj hgroup).1
    rw [upper_eq_bracket hc]
    rfl

theorem pieces_group {v : CounterVariable} {group : List Char} (hgroup : group.map upper = v.text)
    (rest : List Char) : pieces (group ++ rest) = .counter v group :: pieces rest := by
  have hlength := congrArg List.length hgroup
  rw [List.length_map] at hlength
  have hv := variableAt_group hgroup rest
  cases group with
  | nil => cases v <;> cases hgroup
  | cons c cs =>
    rw [List.cons_append] at hv ⊢
    rw [pieces, piecesFrom, hv]
    dsimp only
    rw [← hlength, ← List.cons_append, List.take_left, piecesFrom_skip, List.length_cons,
      Nat.add_sub_cancel, List.drop_left]

/-- The variable of a match is replaced wherever it stands. -/
theorem sub_around {name : List Char} {m : Match} (hsearch : search name = some m)
    (counter before behind : List Char) :
    sub counter (before ++ m.group ++ behind) = sub counter before ++ counter ++
      sub counter behind := by
  obtain ⟨front, ps, hpieces, -⟩ := searchFrom_eq_some hsearch
  have hgroup : m.group.map upper = m.kind.text := by
    apply @upper_group _ _ 0 name
    show _ ∈ pieces name
    rw [hpieces]
    exact List.mem_append_right _ List.mem_cons_self
  have hbracket : (m.group ++ behind).head? = some '[' := head?_group hgroup behind
  rw [List.append_assoc, sub, pieces_append hbracket, pieces_group hgroup, List.flatMap_append,
    List.flatMap_cons, ← List.append_assoc]
  rfl

/-! ## What names are made of -/

theorem removeBadChars_eq (special name : List Char) :
    removeBadChars special name = (stripEach special name).filter (isAllowed special) := by
  apply List.filter_congr
  intro c hc
  have hname := (stripEach_sublist special name).subset hc
  simp [hname]

theorem removeWhitespace_eq (name : List Char) :
    removeWhitespace name = name.filter (fun c => c ∉ whitespace) := by
  apply List.filter_congr
  intro c hc
  simp [hc]

theorem exists_of_returned {α β ε : Type} {x : Except ε (α × β)} {a : α}
    (h : x.toOption.map Prod.fst = some a) : ∃ b, x = .ok (a, b) := by
  cases x with
  | error e => cases h
  | ok r =>
    cases h
    exact ⟨r.2, rfl⟩

section Names

variable [NameStorage] {h : Handler} {name : List Char} {m : Match} {limit : Nat}

omit [NameStorage] in
theorem Handler.limit_of_pos (h : Handler) {n : Nat} (hpos : 0 < n) : h.limit (some n) = n := by
  cases n with
  | zero => exact absurd hpos (Nat.lt_irrefl 0)
  | succ n => rfl

omit [NameStorage] in
theorem nameBase_eq : h.nameBase name limit =
    (h.withoutPattern name).take (limit - patternFuncMaxLength) := by
  unfold Handler.nameBase
  split
  · rfl
  · next hle => rw [List.take_of_length_le (by omega)]

omit [NameStorage] in
/-- A short name is filled as it is written. -/
theorem fill_of_short {before behind : List Char} (haround : Around name m before behind)
    (hshort : (h.withoutPattern name).length ≤ limit - patternFuncMaxLength)
    (counter : List Char) : h.fill name limit m counter = before ++ counter ++ behind := by
  rw [Handler.fill, Handler.template, if_neg (by omega), haround.sub_eq]

omit [NameStorage] in
/-- A long name is cut before it is filled. -/
theorem fill_of_long (hsearch : search name = some m)
    (hlong : limit - patternFuncMaxLength < (h.withoutPattern name).length)
    (counter : List Char) : h.fill name limit m counter =
      sub counter ((h.nameBase name limit).take m.start) ++ counter ++
        sub counter ((h.nameBase name limit).drop m.start) := by
  rw [Handler.fill, Handler.template, if_pos hlong, sub_around hsearch]

theorem getAndRaise_eq_ok {nameBase initialValue counter : List Char} {store store' : Counters} :
    getAndRaise nameBase initialValue store = .ok (counter, store') ↔
      (store (NameStorage.key nameBase) = none ∧ counter = initialValue ∧
        store' = Function.update store (NameStorage.key nameBase) (some (.number 2))) ∨
      ∃ n, store (NameStorage.key nameBase) = some (.number n) ∧ counter = digits n ∧
        store' = Function.update store (NameStorage.key nameBase) (some (.number (n + 1))) := by
  unfold getAndRaise
  split
  · next n hn =>
    rw [hn]
    constructor
    · intro h
      cases h
      exact .inr ⟨n, rfl, rfl, rfl⟩
    · rintro (⟨hnone, -⟩ | ⟨n', hn', rfl, rfl⟩)
      · cases hnone
      · cases hn'
        rfl
  · next message hbad =>
    rw [hbad]
    constructor
    · intro h
      cases h
    · rintro (⟨hnone, -⟩ | ⟨n, hn, -⟩)
      · cases hnone
      · cases hn
  · next hnone =>
    rw [hnone]
    constructor
    · intro h
      cases h
      exact .inl ⟨rfl, rfl, rfl⟩
    · rintro (⟨-, rfl, rfl⟩ | ⟨n, hn, -⟩)
      · rfl
      · cases hn

variable [Runtime] {maxLength : Option Nat} {store store' : Counters} {username : List Char}

theorem formatName_of_no_match (hsearch : search name = none) :
    formatName h name maxLength store = .ok (strip '.' (if h.limit maxLength < name.length then
      (h.removeBadChars name).take (h.limit maxLength) else h.removeBadChars name), store) := by
  rw [formatName, hsearch]

theorem formatName_eq_ok (hsearch : search name = some m) :
    formatName h name maxLength store = .ok (username, store') ↔ (findall name).length < 2 ∧
      ∃ counter, h.counter name (h.limit maxLength) m store = .ok (counter, store') ∧
        username = strip '.' (h.removeBadChars (h.fill name (h.limit maxLength) m counter)) := by
  rw [formatName, hsearch]
  dsimp only
  by_cases hmany : 2 ≤ (findall name).length
  · rw [if_pos hmany]
    simp [Nat.not_lt.mpr hmany]
  · rw [if_neg hmany, and_iff_right (by omega)]
    cases hcounter : h.counter name (h.limit maxLength) m store with
    | error e =>
      constructor
      · intro h
        cases h
      · rintro ⟨counter, h, -⟩
        cases h
    | ok counted =>
      constructor
      · intro h
        cases h
        exact ⟨counted.1, rfl, rfl⟩
      · rintro ⟨counter, h, rfl⟩
        cases h
        rfl

end Names

end Importer

end Kelvin
