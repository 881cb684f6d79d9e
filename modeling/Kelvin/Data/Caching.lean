import Mathlib.Data.List.Nodup

/-!
# Cached functions

A cache of bounded size that drops the entry that was used least recently, functions that look for
their result in a cache first, and when such a function answers what its body would.

* `Cache`, `Cache.touch`, `Cache.store`: caches.
* `Stateful`: computations that fail or succeed and change a state, also where they fail.
* `throughCache`: a computation behind a cache. A failure is not stored.
* `Answers`: a computation answers what a pure one does, and keeps an invariant of the state.
* `Ensures`: a computation keeps an invariant, and its answers have a property.
-/

namespace Kelvin

/-! ## Caches -/

/-- The entries, the least recently used one first. -/
structure Cache (κ α : Type*) (maxsize : Nat) where
  entries : List (κ × α)
  nodup : (entries.map Prod.fst).Nodup
  bounded : entries.length ≤ maxsize

namespace Cache

variable {κ α : Type*} [DecidableEq κ] {maxsize : Nat} {c : Cache κ α maxsize} {k k' : κ} {v v' : α}

def empty : Cache κ α maxsize := ⟨[], .nil, Nat.zero_le _⟩

def find? (c : Cache κ α maxsize) (k : κ) : Option α :=
  (c.entries.find? (fun e => e.1 = k)).map Prod.snd

theorem mem_of_find? (h : c.find? k = some v) : (k, v) ∈ c.entries := by
  obtain ⟨e, he, rfl⟩ := Option.map_eq_some_iff.mp h
  obtain rfl : e.1 = k := by simpa using List.find?_some he
  exact List.mem_of_find?_eq_some he

/-- The entries without those under a key. -/
def others (c : Cache κ α maxsize) (k : κ) : List (κ × α) := c.entries.filter (fun e => e.1 ≠ k)

theorem nodup_append {entries : List (κ × α)} (h : entries.Sublist (c.others k)) :
    ((entries ++ [(k, v)]).map Prod.fst).Nodup := by
  have hsub : entries.Sublist c.entries := h.trans List.filter_sublist
  rw [List.map_append, List.map_singleton, List.nodup_append']
  refine ⟨c.nodup.sublist (hsub.map _), List.nodup_singleton _, ?_⟩
  intro k' hk' hk
  obtain ⟨e, he, rfl⟩ := List.mem_map.mp hk'
  have hne := (List.mem_filter.mp (h.subset he)).2
  simp only [ne_eq, decide_not, Bool.not_eq_true', decide_eq_false_iff_not] at hne
  exact hne (List.mem_singleton.mp hk)

theorem length_others_lt (h : c.find? k = some v) : (c.others k).length < c.entries.length :=
  List.length_filter_lt_length_iff_exists.mpr ⟨(k, v), mem_of_find? h, by simp⟩

theorem length_append_others (h : c.find? k = some v) :
    (c.others k ++ [(k, v)]).length ≤ maxsize := by
  have hlt := length_others_lt h
  have hle := c.bounded
  rw [List.length_append, List.length_singleton]
  omega

omit [DecidableEq κ] in
theorem length_append_drop (entries : List (κ × α)) (e : κ × α) (hroom : 0 < maxsize) :
    (entries.drop (entries.length + 1 - maxsize) ++ [e]).length ≤ maxsize := by
  rw [List.length_append, List.length_singleton, List.length_drop]
  omega

/-- The cache after an entry was used. -/
def touch (c : Cache κ α maxsize) (k : κ) (v : α) (h : c.find? k = some v) : Cache κ α maxsize where
  entries := c.others k ++ [(k, v)]
  nodup := nodup_append (List.Sublist.refl _)
  bounded := length_append_others h

/-- The cache with a new entry. Where it is full, the least recently used entries make room. -/
def store (c : Cache κ α maxsize) (k : κ) (v : α) : Cache κ α maxsize :=
  if hroom : 0 < maxsize then
    { entries := (c.others k).drop ((c.others k).length + 1 - maxsize) ++ [(k, v)]
      nodup := nodup_append (List.drop_sublist _ _)
      bounded := length_append_drop _ _ hroom }
  else c

theorem mem_touch {h : c.find? k = some v} {e : κ × α} (he : e ∈ (c.touch k v h).entries) :
    e ∈ c.entries := by
  rcases List.mem_append.mp he with he | he
  · exact List.mem_of_mem_filter he
  · rw [List.mem_singleton.mp he]
    exact mem_of_find? h

theorem mem_store {e : κ × α} (he : e ∈ (c.store k v).entries) : e ∈ c.entries ∨ e = (k, v) := by
  unfold store at he
  split at he
  · rcases List.mem_append.mp he with he | he
    · exact .inl (List.mem_of_mem_filter (List.mem_of_mem_drop he))
    · exact .inr (List.mem_singleton.mp he)
  · exact .inl he

end Cache

/-! ## Computations behind a cache -/

/-- A computation that changes a state, also where it fails. -/
abbrev Stateful (σ ε : Type) := ExceptT ε (StateM σ)

section Cached

variable {σ ε κ α β : Type} [DecidableEq κ] {maxsize : Nat}

/-- A computation that answers from its entry in a cache, if it has one. -/
def throughCache (cache : σ → Cache κ α maxsize) (withCache : Cache κ α maxsize → σ → σ) (key : κ)
    (body : Stateful σ ε α) : Stateful σ ε α := fun s =>
  match h : (cache s).find? key with
  | some v => (.ok v, withCache ((cache s).touch key v h) s)
  | none =>
    match body s with
    | (.ok v, s') => (.ok v, withCache ((cache s').store key v) s')
    | (.error e, s') => (.error e, s')

/-- In every state with the invariant the computation answers `answer`, and keeps the invariant. -/
def Answers (I : σ → Prop) (x : Stateful σ ε α) (answer : Except ε α) : Prop :=
  ∀ s, I s → (x s).1 = answer ∧ I (x s).2

variable {I : σ → Prop} {x : Stateful σ ε α} {f : α → Stateful σ ε β} {answer : Except ε α}
  {g : α → Except ε β}

omit [DecidableEq κ] in
theorem Answers.lift (answer : Except ε α) : Answers I (fun s => (answer, s)) answer :=
  fun _ hs => ⟨rfl, hs⟩

theorem Answers.bind (hx : Answers I x answer)
    (hf : ∀ a, answer = .ok a → Answers I (f a) (g a)) : Answers I (x >>= f) (answer >>= g) := by
  intro s hs
  obtain ⟨hanswer, hs'⟩ := hx s hs
  change (ExceptT.bindCont f (x s).1 (x s).2).1 = _ ∧ I (ExceptT.bindCont f (x s).1 (x s).2).2
  rw [hanswer]
  cases h : answer with
  | ok a => exact hf a h _ hs'
  | error e => exact ⟨rfl, hs'⟩

omit [DecidableEq κ] in
theorem Answers.map (hx : Answers I x answer) (f : α → β) : Answers I (f <$> x) (f <$> answer) := by
  have hmap : f <$> answer = answer >>= fun a => .ok (f a) := by cases answer <;> rfl
  rw [hmap]
  exact hx.bind fun a _ => Answers.lift (.ok (f a))

/-- A computation behind a cache answers what its body does, if the entries under its key do. -/
theorem Answers.throughCache {cache : σ → Cache κ α maxsize} {withCache : Cache κ α maxsize → σ → σ}
    {key : κ} (hbody : Answers I x answer)
    (hhit : ∀ s v, I s → (cache s).find? key = some v → answer = .ok v)
    (htouch : ∀ s v h, I s → I (withCache ((cache s).touch key v h) s))
    (hstore : ∀ s v, I s → answer = .ok v → I (withCache ((cache s).store key v) s)) :
    Answers I (Kelvin.throughCache cache withCache key x) answer := by
  intro s hs
  unfold Kelvin.throughCache
  split
  · next v h => exact ⟨(hhit s v hs h).symm, htouch s v h hs⟩
  · obtain ⟨hanswer, hs'⟩ := hbody s hs
    split
    · next v s' hrun =>
      rw [hrun] at hanswer hs'
      exact ⟨hanswer, hstore s' v hs' hanswer.symm⟩
    · next e s' hrun =>
      rw [hrun] at hanswer hs'
      exact ⟨hanswer, hs'⟩

/-- In every state with the invariant the computation keeps it, and what it answers satisfies `Q`. -/
def Ensures (I : σ → Prop) (x : Stateful σ ε α) (Q : α → Prop) : Prop :=
  ∀ s, I s → I (x s).2 ∧ ∀ a, (x s).1 = .ok a → Q a

variable {Q : α → Prop} {R : β → Prop}

omit [DecidableEq κ] in
theorem Ensures.lift (hanswer : ∀ a, answer = .ok a → Q a) : Ensures I (fun s => (answer, s)) Q :=
  fun _ hs => ⟨hs, hanswer⟩

omit [DecidableEq κ] in
theorem Ensures.mono (hx : Ensures I x Q) {Q' : α → Prop} (hle : ∀ a, Q a → Q' a) :
    Ensures I x Q' :=
  fun s hs => ⟨(hx s hs).1, fun a ha => hle a ((hx s hs).2 a ha)⟩

omit [DecidableEq κ] in
theorem Ensures.bind (hx : Ensures I x Q) (hf : ∀ a, Q a → Ensures I (f a) R) :
    Ensures I (x >>= f) R := by
  intro s hs
  obtain ⟨hs', hanswer⟩ := hx s hs
  change I (ExceptT.bindCont f (x s).1 (x s).2).2 ∧
    ∀ b, (ExceptT.bindCont f (x s).1 (x s).2).1 = .ok b → R b
  cases h : (x s).1 with
  | ok a => exact hf a (hanswer a h) _ hs'
  | error e => exact ⟨hs', fun b hb => nomatch hb⟩

/-- An entry of a cache is an answer of the computation behind it. -/
theorem Ensures.throughCache {cache : σ → Cache κ α maxsize} {withCache : Cache κ α maxsize → σ → σ}
    {key : κ} (hbody : Ensures I x Q)
    (hhit : ∀ s v, I s → (cache s).find? key = some v → Q v)
    (htouch : ∀ s v h, I s → I (withCache ((cache s).touch key v h) s))
    (hstore : ∀ s v, I s → Q v → I (withCache ((cache s).store key v) s)) :
    Ensures I (Kelvin.throughCache cache withCache key x) Q := by
  intro s hs
  unfold Kelvin.throughCache
  split
  · next v h =>
    refine ⟨htouch s v h hs, ?_⟩
    rintro a ⟨⟩
    exact hhit s v hs h
  · obtain ⟨hs', hanswer⟩ := hbody s hs
    split
    · next v s' hrun =>
      rw [hrun] at hanswer hs'
      refine ⟨hstore s' v hs' (hanswer v rfl), ?_⟩
      rintro a ⟨⟩
      exact hanswer v rfl
    · next e s' hrun =>
      rw [hrun] at hs'
      exact ⟨hs', fun a ha => nomatch ha⟩

end Cached

end Kelvin
