import Mathlib.Data.Finset.Card
import Mathlib.Logic.Relation
import Kelvin.Data.Resolution

/-!
# What the guard of a formatting does

A property is locked while its method formats: no other method gives it a value, and its own method
does not succeed inside of the formatting, unless the rank of the state drops. So a formatting inside
of another one blocks one more reference, and there are only so many.

* `Stable`: the assumptions on a system.
* `Solved.keeps`: what a formatting that succeeds leaves locked.
* `run_ne_outOfFuel`: every formatting ends.
* `not_solved_of_cyclic`: no formatting succeeds that reaches a cycle.
* `cycle_of_recursion`: where a recursion is found there is a cycle, or a format refers twice to what
  one method makes.
-/

namespace Kelvin

namespace Resolution

variable {σ π δ ν ε : Type} {S : System σ π δ ν ε}

/-! ## What is locked while it is made -/

/-- A property is locked while its method formats. Then a call of the method does not succeed
without it, unless the rank drops, and steps of other methods leave it locked. -/
structure Stable (S : System σ π δ ν ε) (P : Set π) (Good : σ → Prop) (rank : σ → ℕ)
    (Locked : σ → δ → Prop) (meth : δ → ν) : Prop where
  make {p d m s} : p ∈ P → d ∈ S.deps p → S.need s d = .make m → m = meth d
  inside {p d s} : p ∈ P → d ∈ S.deps p → Good s → S.need s d = .make (meth d) →
    S.ready s (meth d) = none → S.target (meth d) ∈ P
  lock {p d s} : p ∈ P → d ∈ S.deps p → Good s → S.need s d = .make (meth d) →
    S.ready s (meth d) = none → Locked s d
  need_ne {s d} : Locked s d → S.need s d ≠ .present
  ready_ne {s d s'} : Locked s d → S.ready s (meth d) = some (.ok s') → rank s' < rank s
  done {p d s s'} : p ∈ P → d ∈ S.deps p → Good s → S.need s d = .make (meth d) →
    S.ready s (meth d) = some (.ok s') → Good s' ∧ rank s' ≤ rank s ∧
      (rank s' < rank s ∨ ∀ d', Locked s d' → Locked s' d')
  finish {p d s s'} : p ∈ P → d ∈ S.deps p → Good s → S.finish (meth d) s = .ok s' →
    Good s' ∧ rank s' ≤ rank s ∧
      (rank s' < rank s ∨ ∀ d', Locked s d' → meth d' ≠ meth d → Locked s' d')

/-- A set of references, all of which are locked. The method of each formats a property that has a
locked reference, too, or the property that is being formatted. -/
structure Blocked (S : System σ π δ ν ε) (Locked : σ → δ → Prop) (meth : δ → ν) (p : π) (s : σ)
    (B : Set (π × δ)) : Prop where
  deps : ∀ b ∈ B, b.2 ∈ S.deps b.1
  locked : ∀ b ∈ B, Locked s b.2
  next : ∀ b ∈ B, S.target (meth b.2) = p ∨ ∃ d, (S.target (meth b.2), d) ∈ B

theorem Blocked.empty {Locked : σ → δ → Prop} {meth : δ → ν} {p : π} {s : σ} :
    Blocked S Locked meth p s ∅ where
  deps := fun _ hb => hb.elim
  locked := fun _ hb => hb.elim
  next := fun _ hb => hb.elim

/-! ## Cycles -/

/-- A property on a cycle is reached. -/
def Cyclic (E : π → π → Prop) (p : π) : Prop :=
  ∃ q, Relation.ReflTransGen E p q ∧ Relation.TransGen E q q

/-- A property is reached whose format refers twice to what one method makes. -/
def Repeats (S : System σ π δ ν ε) (meth : δ → ν) (E : π → π → Prop) (p : π) : Prop :=
  ∃ q, Relation.ReflTransGen E p q ∧ ¬ ((S.deps q).map meth).Nodup

/-- While the properties are made no new reference to a property appears that still has to be
formatted. -/
structure Shrinking (S : System σ π δ ν ε) (P : Set π) (Good : σ → Prop) (Locked : σ → δ → Prop)
    (meth : δ → ν) : Prop where
  done {p d s s' q r} : p ∈ P → d ∈ S.deps p → Good s → S.need s d = .make (meth d) →
    S.ready s (meth d) = some (.ok s') → q ∈ P → S.Edge s' q r → S.Edge s q r
  finish {p d s s' q r} : p ∈ P → d ∈ S.deps p → Good s → Locked s d →
    S.finish (meth d) s = .ok s' → q ∈ P → S.Edge s' q r → S.Edge s q r

section Cycles

variable {meth : δ → ν} {E : π → π → Prop} {p q : π}

theorem Cyclic.head (h : E p q) : Cyclic E q → Cyclic E p := by
  rintro ⟨r, hreach, hcycle⟩
  exact ⟨r, hreach.head h, hcycle⟩

theorem Repeats.head (h : E p q) : Repeats S meth E q → Repeats S meth E p := by
  rintro ⟨r, hreach, hdup⟩
  exact ⟨r, hreach.head h, hdup⟩

end Cycles

/-! ## What a formatting keeps -/

section Keeps

variable {P : Set π} {Good : σ → Prop} {rank : σ → ℕ} {Locked : σ → δ → Prop} {meth : δ → ν}
  {p : π} {d : δ} {s s' : σ} {B : Set (π × δ)}

theorem Blocked.mono (h : Blocked S Locked meth p s B)
    (hlocked : ∀ b ∈ B, Locked s b.2 → Locked s' b.2) : Blocked S Locked meth p s' B where
  deps := h.deps
  locked := fun b hb => hlocked b hb (h.locked b hb)
  next := h.next

/-- The format of a reference blocks it. -/
theorem Blocked.insert (h : Blocked S Locked meth p s B) (hdep : d ∈ S.deps p)
    (hlocked : Locked s d) :
    Blocked S Locked meth (S.target (meth d)) s (insert (p, d) B) := by
  constructor
  · rintro b (rfl | hb)
    · exact hdep
    · exact h.deps b hb
  · rintro b (rfl | hb)
    · exact hlocked
    · exact h.locked b hb
  · rintro b (rfl | hb)
    · exact .inl rfl
    · right
      rcases h.next b hb with hp | ⟨d', hd'⟩
      · exact ⟨d, hp ▸ Set.mem_insert _ _⟩
      · exact ⟨d', Set.mem_insert_of_mem _ hd'⟩

variable [DecidableEq π] {ds : List δ} {u u' : π → List ν}

/-- What is left of the blocked references: they are still locked, the formatted property has none,
and nothing is noted or forgotten for their properties. -/
structure Kept (Locked : σ → δ → Prop) (p : π) (ds : List δ) (s' : σ) (u u' : π → List ν)
    (B : Set (π × δ)) : Prop where
  free : ∀ d ∈ ds, (p, d) ∉ B
  locked : ∀ b ∈ B, Locked s' b.2
  used : ∀ q ≠ p, (∃ d, (q, d) ∈ B) → u' q = u q

/-- The references that a formatting inside of another one leaves blocked after its method has
finished. -/
theorem Kept.after {u₁ : π → List ν} {s₁ s₂ : σ} (hB : Blocked S Locked meth p s B)
    (hdep : d ∈ S.deps p)
    (h : Kept Locked (S.target (meth d)) (S.deps (S.target (meth d))) s₁ (note u p (meth d)) u₁
      (insert (p, d) B))
    (hfinish : ∀ d', Locked s₁ d' → meth d' ≠ meth d → Locked s₂ d') :
    Blocked S Locked meth p s₂ B ∧ (p, d) ∉ B ∧
      ∀ q, (∃ d, (q, d) ∈ B) → q ≠ S.target (meth d) ∧ u₁ q = note u p (meth d) q := by
  have hfree : ∀ d', (S.target (meth d), d') ∉ insert (p, d) B := by
    intro d' hd'
    have hmem : d' ∈ S.deps (S.target (meth d)) := by
      rcases hd' with heq | hb
      · cases heq
        exact hdep
      · exact hB.deps _ hb
    exact h.free d' hmem hd'
  have hnext : ∀ b ∈ B, meth b.2 ≠ meth d := by
    intro b hb hm
    rcases hB.next b hb with hp | ⟨d', hd'⟩
    · rw [hm] at hp
      exact hfree d (hp ▸ Set.mem_insert _ _)
    · rw [hm] at hd'
      exact hfree d' (Set.mem_insert_of_mem _ hd')
  refine ⟨⟨hB.deps, fun b hb => ?_, hB.next⟩, fun hb => hnext _ hb rfl, ?_⟩
  · exact hfinish b.2 (h.locked b (Set.mem_insert_of_mem _ hb)) (hnext b hb)
  · rintro q ⟨d', hd'⟩
    have hq : q ≠ S.target (meth d) := by
      rintro rfl
      exact hfree d' (Set.mem_insert_of_mem _ hd')
    exact ⟨hq, h.used q hq ⟨d', Set.mem_insert_of_mem _ hd'⟩⟩

/-- A formatting that succeeds keeps what is blocked, unless the rank drops. -/
theorem Solved.keeps (hst : Stable S P Good rank Locked meth) (h : Solved S p ds s u s' u')
    (hp : p ∈ P) (hds : ∀ d ∈ ds, d ∈ S.deps p) (hgood : Good s)
    (hB : Blocked S Locked meth p s B) :
    Good s' ∧ rank s' ≤ rank s ∧ (rank s' < rank s ∨ Kept Locked p ds s' u u' B) := by
  induction h generalizing B with
  | nil p s u =>
    refine ⟨hgood, le_refl _, .inr ⟨fun d hd => absurd hd List.not_mem_nil, hB.locked, ?_⟩⟩
    exact fun q hq _ => Function.update_of_ne hq _ _
  | @present p d ds s u s' u' hneed _ ih =>
    obtain ⟨hgood', hrank, hkept⟩ := ih hp (fun d hd => hds d (List.mem_cons_of_mem _ hd)) hgood hB
    refine ⟨hgood', hrank, hkept.imp_right fun hkept => ⟨?_, hkept.locked, hkept.used⟩⟩
    refine List.forall_mem_cons.mpr ⟨fun hb => ?_, hkept.free⟩
    exact hst.need_ne (hB.locked _ hb) hneed
  | @done p d ds m s s₁ u s' u' hneed hused hready _ ih =>
    have hdep := hds d List.mem_cons_self
    have hds' : ∀ d ∈ ds, d ∈ S.deps p := fun d hd => hds d (List.mem_cons_of_mem _ hd)
    obtain rfl := hst.make hp hdep hneed
    obtain ⟨hgood₁, hrank₁, hdrop | hlocked⟩ := hst.done hp hdep hgood hneed hready
    · obtain ⟨hgood', hrank', -⟩ := ih hp hds' hgood₁ Blocked.empty
      exact ⟨hgood', hrank'.trans hrank₁, .inl (hrank'.trans_lt hdrop)⟩
    · obtain ⟨hgood', hrank', hkept⟩ := ih hp hds' hgood₁ (hB.mono fun b _ => hlocked b.2)
      refine ⟨hgood', hrank'.trans hrank₁, ?_⟩
      by_cases hb : (p, d) ∈ B
      · exact .inl (hrank'.trans_lt (hst.ready_ne (hB.locked _ hb) hready))
      · refine hkept.imp (·.trans_le hrank₁) fun hkept => ⟨?_, hkept.locked, ?_⟩
        · exact List.forall_mem_cons.mpr ⟨hb, hkept.free⟩
        · exact fun q hq hmem => (hkept.used q hq hmem).trans (note_of_ne hq _ _)
  | @format p d ds m s s₁ s₂ u u₁ s' u' hneed hused hready _ hfinish _ ihformat ih =>
    have hdep := hds d List.mem_cons_self
    have hds' : ∀ d ∈ ds, d ∈ S.deps p := fun d hd => hds d (List.mem_cons_of_mem _ hd)
    obtain rfl := hst.make hp hdep hneed
    have hlock := hst.lock hp hdep hgood hneed hready
    have htarget := hst.inside hp hdep hgood hneed hready
    obtain ⟨hgood₁, hrank₁, hkept₁⟩ :=
      ihformat htarget (fun _ hd => hd) hgood (hB.insert hdep hlock)
    obtain ⟨hgood₂, hrank₂, hkept₂⟩ := hst.finish hp hdep hgood₁ hfinish
    have hrank : rank s₂ ≤ rank s := hrank₂.trans hrank₁
    by_cases hdrop : rank s₂ < rank s
    · obtain ⟨hgood', hrank', -⟩ := ih hp hds' hgood₂ Blocked.empty
      exact ⟨hgood', hrank'.trans hrank, .inl (hrank'.trans_lt hdrop)⟩
    · have hkept₁ := hkept₁.resolve_left (fun hlt => hdrop (hrank₂.trans_lt hlt))
      have hkept₂ := hkept₂.resolve_left (fun hlt => hdrop (hlt.trans_le hrank₁))
      obtain ⟨hB₂, hb, hother⟩ := hkept₁.after hB hdep hkept₂
      obtain ⟨hgood', hrank', hkept⟩ := ih hp hds' hgood₂ hB₂
      refine ⟨hgood', hrank'.trans hrank, ?_⟩
      refine hkept.imp (·.trans_le hrank) fun hkept => ⟨?_, hkept.locked, fun q hq hmem => ?_⟩
      · exact List.forall_mem_cons.mpr ⟨hb, hkept.free⟩
      · rw [hkept.used q hq hmem, (hother q hmem).2, note_of_ne hq]

/-- No formatting succeeds that has to pass a cycle. -/
theorem not_solved_of_closed (hst : Stable S P Good (fun _ => 0) Locked meth) (hp : p ∈ P)
    (hgood : Good s) (hdeps : ∀ b ∈ B, b.2 ∈ S.deps b.1) (hlocked : ∀ b ∈ B, Locked s b.2)
    (hclosed : ∀ b ∈ B, ∃ d, (S.target (meth b.2), d) ∈ B) (hmem : (p, d) ∈ B) :
    ¬ Solved S p (S.deps p) s u s' u' := by
  intro h
  have hB : Blocked S Locked meth p s B := ⟨hdeps, hlocked, fun b hb => .inr (hclosed b hb)⟩
  obtain ⟨-, -, hdrop | hkept⟩ := h.keeps hst hp (fun _ hd => hd) hgood hB
  · exact absurd hdrop (lt_irrefl 0)
  · exact hkept.free d (hdeps _ hmem) hmem

/-- No formatting succeeds that reaches a cycle. -/
theorem not_solved_of_cyclic (hst : Stable S P Good (fun _ => 0) Locked meth) (hp : p ∈ P)
    (hgood : Good s) (hcyclic : Cyclic (S.Edge s) p) : ¬ Solved S p (S.deps p) s u s' u' := by
  obtain ⟨q, hreach, hcycle⟩ := hcyclic
  -- the references from which the cycle is reached
  let B : Set (π × δ) := {b | b.1 ∈ P ∧ b.2 ∈ S.deps b.1 ∧ S.need s b.2 = .make (meth b.2) ∧
    S.ready s (meth b.2) = none ∧ Relation.ReflTransGen (S.Edge s) (S.target (meth b.2)) q}
  have hstep : ∀ t ∈ P, Relation.ReflTransGen (S.Edge s) t q → ∃ d, (t, d) ∈ B := by
    intro t ht hpath
    obtain ⟨_, ⟨d, hdep, m, hneed, hready, rfl⟩, hrest⟩ :=
      Relation.TransGen.head'_iff.mp (Relation.TransGen.trans_right hpath hcycle)
    obtain rfl := hst.make ht hdep hneed
    exact ⟨d, ht, hdep, hneed, hready, hrest⟩
  obtain ⟨d, hmem⟩ := hstep p hp hreach
  refine not_solved_of_closed hst hp hgood (fun b hb => hb.2.1) ?_ ?_ hmem
  · rintro b ⟨hbp, hdep, hneed, hready, -⟩
    exact hst.lock hbp hdep hgood hneed hready
  · rintro b ⟨hbp, hdep, hneed, hready, hpath⟩
    exact hstep _ (hst.inside hbp hdep hgood hneed hready) hpath

/-- What a formatting inside of another one leaves locked: the reference to it. -/
theorem Solved.locked (hst : Stable S P Good (fun _ => 0) Locked meth) (hp : p ∈ P) (hdep : d ∈ S.deps p) (hgood : Good s)
    (hneed : S.need s d = .make (meth d)) (hready : S.ready s (meth d) = none)
    (h : Solved S (S.target (meth d)) (S.deps (S.target (meth d))) s u s' u') :
    Good s' ∧ Locked s' d := by
  have hB := (@Blocked.empty _ _ _ _ _ S Locked meth p s).insert hdep
    (hst.lock hp hdep hgood hneed hready)
  obtain ⟨hgood', -, hdrop | hkept⟩ := h.keeps hst (hst.inside hp hdep hgood hneed hready)
    (fun _ hd => hd) hgood hB
  · exact absurd hdrop (lt_irrefl 0)
  · exact ⟨hgood', hkept.locked _ (Set.mem_insert _ _)⟩

theorem Solved.shrinks (hst : Stable S P Good (fun _ => 0) Locked meth)
    (hshrink : Shrinking S P Good Locked meth) 
    (h : Solved S p ds s u s' u') (hp : p ∈ P) (hds : ∀ d ∈ ds, d ∈ S.deps p) (hgood : Good s)
    {q r : π} (hq : q ∈ P) (hedge : S.Edge s' q r) : S.Edge s q r := by
  induction h with
  | nil p s u => exact hedge
  | present _ _ ih => exact ih hp (fun d hd => hds d (List.mem_cons_of_mem _ hd)) hgood hedge
  | @done p d ds m s s₁ u s' u' hneed _ hready _ ih =>
    have hdep := hds d List.mem_cons_self
    obtain rfl := hst.make hp hdep hneed
    have hgood₁ := (hst.done hp hdep hgood hneed hready).1
    have hrest := ih hp (fun d hd => hds d (List.mem_cons_of_mem _ hd)) hgood₁ hedge
    exact hshrink.done hp hdep hgood hneed hready hq hrest
  | @format p d ds m s s₁ s₂ u u₁ s' u' hneed _ hready hformat hfinish _ ihformat ih =>
    have hdep := hds d List.mem_cons_self
    obtain rfl := hst.make hp hdep hneed
    obtain ⟨hgood₁, hlocked⟩ := hformat.locked hst hp hdep hgood hneed hready
    have hgood₂ := (hst.finish hp hdep hgood₁ hfinish).1
    have hrest := ih hp (fun d hd => hds d (List.mem_cons_of_mem _ hd)) hgood₂ hedge
    have hinner := hshrink.finish hp hdep hgood₁ hlocked hfinish hq hrest
    exact ihformat (hst.inside hp hdep hgood hneed hready) (fun _ hd => hd) hgood hinner

end Keeps

/-! ## Runs -/

section Runs

variable [DecidableEq π] [DecidableEq ν] {P : Set π} {Good : σ → Prop} {rank : σ → ℕ}
  {Locked : σ → δ → Prop} {meth : δ → ν}

/-- A recursion comes from a cycle, or from two references of a format to what one method makes.
Methods are noted only for the properties whose formats are being made, which are kept in `K`. -/
theorem cycle_of_recursion (hst : Stable S P Good (fun _ => 0) Locked meth)
    (hshrink : Shrinking S P Good Locked meth) {E : π → π → Prop} {n : ℕ} {p t : π} {s : σ}
    {u : π → List ν} {K : Set π} (hp : p ∈ P) (hgood : Good s)
    (hE : ∀ q ∈ P, ∀ r, S.Edge s q r → E q r) (hK : ∀ k ∈ K, Relation.TransGen E k p)
    (hu : ∀ q, u q ≠ [] → q ∈ K) (h : S.run n p s u = .error (.recursion t)) :
    Cyclic E p ∨ Repeats S meth E p := by
  induction n generalizing p s u K with
  | zero => cases h
  | succ n ih =>
    by_cases hpK : p ∈ K
    · exact .inl ⟨p, .refl, hK p hpK⟩
    · have hup : u p = [] := by
        by_contra hne
        exact hpK (hu p hne)
      -- the methods noted for the property are those of the references before
      suffices hsolve : ∀ ds before : List δ, before ++ ds = S.deps p → ∀ s u, Good s →
          (∀ q ∈ P, ∀ r, S.Edge s q r → E q r) → (∀ q, u q ≠ [] → q ∈ insert p K) →
          (∀ m ∈ u p, m ∈ before.map meth) →
          S.solve (S.call (S.run n)) p ds s u = .error (.recursion t) →
          Cyclic E p ∨ Repeats S meth E p from
        hsolve _ [] rfl s u hgood hE (fun q hq => Set.mem_insert_of_mem _ (hu q hq))
          (fun m hm => by rw [hup] at hm; cases hm) h
      intro ds
      induction ds with
      | nil =>
        intro before _ s u _ _ _ _ h
        cases h
      | cons d ds ihds =>
        intro before hbefore s u hgood hE hu hnoted h
        have hdep : d ∈ S.deps p := by
          rw [← hbefore]
          exact List.mem_append_right _ List.mem_cons_self
        have hnext : (before ++ [d]) ++ ds = S.deps p := by
          rw [← hbefore, List.append_assoc, List.singleton_append]
        have hmap : ∀ m ∈ before.map meth, m ∈ (before ++ [d]).map meth := by
          intro m hm
          rw [List.map_append]
          exact List.mem_append_left _ hm
        rw [System.solve] at h
        cases hneed : S.need s d with
        | present =>
          simp only [hneed] at h
          exact ihds _ hnext s u hgood hE hu (fun m hm => hmap m (hnoted m hm)) h
        | missing =>
          simp only [hneed] at h
          cases h
        | make m =>
          obtain rfl := hst.make hp hdep hneed
          simp only [hneed] at h
          by_cases hmem : meth d ∈ u p
          · right
            refine ⟨p, .refl, fun hnodup => ?_⟩
            rw [← hbefore, List.map_append, List.map_cons, List.nodup_append] at hnodup
            exact hnodup.2.2 _ (hnoted _ hmem) _ List.mem_cons_self rfl
          · rw [if_neg hmem] at h
            have hnoteK : ∀ q, note u p (meth d) q ≠ [] → q ∈ insert p K := by
              intro q hq
              by_cases hqp : q = p
              · exact hqp ▸ Set.mem_insert _ _
              · rw [note_of_ne hqp] at hq
                exact hu q hq
            have hnote : ∀ m ∈ note u p (meth d) p, m ∈ (before ++ [d]).map meth := by
              intro m hm
              rw [note_self] at hm
              rcases List.mem_append.mp hm with hm | hm
              · exact hmap m (hnoted m hm)
              · rw [List.mem_singleton.mp hm, List.map_append]
                exact List.mem_append_right _ (List.mem_singleton.mpr rfl)
            cases hcall : S.call (S.run n) (meth d) s (note u p (meth d)) with
            | error stop =>
              rw [hcall] at h
              cases h
              obtain ⟨e, he⟩ | ⟨hready, hrun⟩ := call_error hcall
              · cases he
              · have hedge : E p (S.target (meth d)) :=
                  hE p hp _ ⟨d, hdep, meth d, hneed, hready, rfl⟩
                have hK' : ∀ k ∈ insert p K, Relation.TransGen E k (S.target (meth d)) := by
                  rintro k (rfl | hk)
                  · exact .single hedge
                  · exact (hK k hk).tail hedge
                exact (ih (hst.inside hp hdep hgood hneed hready) hgood hE hK' hnoteK hrun).imp
                  (Cyclic.head hedge) (Repeats.head hedge)
            | ok made =>
              obtain ⟨s', u'⟩ := made
              rw [hcall] at h
              obtain ⟨hready, rfl⟩ | ⟨hready, s₁, hformat, hfinish⟩ := call_eq_ok.mp hcall
              · refine ihds _ hnext s' _ (hst.done hp hdep hgood hneed hready).1 ?_ hnoteK hnote h
                exact fun q hq r hedge =>
                  hE q hq r (hshrink.done hp hdep hgood hneed hready hq hedge)
              · have hsolved := solved_of_run hformat
                have htarget := hst.inside hp hdep hgood hneed hready
                obtain ⟨hgood₁, hlocked⟩ := hsolved.locked hst hp hdep hgood hneed hready
                have hused : ∀ q, u' q = note u p (meth d) q ∨ u' q = [] := by
                  intro q
                  by_cases hq : q = S.target (meth d)
                  · exact .inr (hq ▸ hsolved.used.1)
                  · exact hsolved.used.2 q hq
                refine ihds _ hnext s' u' (hst.finish hp hdep hgood₁ hfinish).1 ?_ ?_ ?_ h
                · intro q hq r hedge
                  refine hE q hq r (hsolved.shrinks hst hshrink htarget (fun _ hd => hd) hgood hq ?_)
                  exact hshrink.finish hp hdep hgood₁ hlocked hfinish hq hedge
                · intro q hq
                  rcases hused q with heq | heq
                  · exact hnoteK q (heq ▸ hq)
                  · exact absurd heq hq
                · intro m hm
                  rcases hused p with heq | heq
                  · exact hnote m (heq ▸ hm)
                  · rw [heq] at hm
                    cases hm

/-- What a call inside of a formatting leaves of the blocked references. -/
theorem call_keeps (hst : Stable S P Good rank Locked meth) {n : ℕ} {p : π} {d : δ} {s s' : σ}
    {u u' : π → List ν} {B : Set (π × δ)} (hp : p ∈ P) (hdep : d ∈ S.deps p) (hgood : Good s)
    (hB : Blocked S Locked meth p s B) (hneed : S.need s d = .make (meth d))
    (hcall : S.call (S.run n) (meth d) s (note u p (meth d)) = .ok (s', u')) :
    Good s' ∧ rank s' ≤ rank s ∧ (rank s' < rank s ∨ Blocked S Locked meth p s' B ∧
      ∀ q, (∃ d, (q, d) ∈ B) → u' q = note u p (meth d) q) := by
  obtain ⟨hready, rfl⟩ | ⟨hready, s₁, hformat, hfinish⟩ := call_eq_ok.mp hcall
  · obtain ⟨hgood', hrank, hkept⟩ := hst.done hp hdep hgood hneed hready
    exact ⟨hgood', hrank,
      hkept.imp_right fun hlocked => ⟨hB.mono fun b _ => hlocked b.2, fun q _ => rfl⟩⟩
  · have hlock := hst.lock hp hdep hgood hneed hready
    have htarget := hst.inside hp hdep hgood hneed hready
    obtain ⟨hgood₁, hrank₁, hkept₁⟩ :=
      (solved_of_run hformat).keeps hst htarget (fun _ hd => hd) hgood (hB.insert hdep hlock)
    obtain ⟨hgood', hrank', hkept⟩ := hst.finish hp hdep hgood₁ hfinish
    refine ⟨hgood', hrank'.trans hrank₁, ?_⟩
    rcases hkept₁ with hdrop | hkept₁
    · exact .inl (hrank'.trans_lt hdrop)
    · refine hkept.imp (·.trans_le hrank₁) fun hkept => ?_
      obtain ⟨hblocked, -, hother⟩ := hkept₁.after hB hdep hkept
      exact ⟨hblocked, fun q hq => (hother q hq).2⟩

/-- With so many formats inside each other no formatting runs out of fuel. Each one inside of
another one blocks a further reference, until the rank drops. -/
theorem run_ne_outOfFuel [DecidableEq δ] (hst : Stable S P Good rank Locked meth) {U : Finset (π × δ)}
    (hU : ∀ p ∈ P, ∀ d ∈ S.deps p, (p, d) ∈ U) {n : ℕ} {p : π} {s : σ} {u : π → List ν}
    {B : Finset (π × δ)} (hp : p ∈ P) (hgood : Good s) (hsub : B ⊆ U)
    (hB : Blocked S Locked meth p s B) (hused : ∀ b ∈ B, meth b.2 ∈ u b.1)
    (hn : rank s * (U.card + 1) + (U.card - B.card) < n) : S.run n p s u ≠ .error .outOfFuel := by
  induction n generalizing p s u B with
  | zero => exact absurd hn (Nat.not_lt_zero _)
  | succ n ih =>
    suffices hsolve : ∀ ds : List δ, (∀ d ∈ ds, d ∈ S.deps p) → ∀ s u (B : Finset (π × δ)),
        Good s → B ⊆ U → Blocked S Locked meth p s B → (∀ b ∈ B, meth b.2 ∈ u b.1) →
        rank s * (U.card + 1) + (U.card - B.card) ≤ n →
        S.solve (S.call (S.run n)) p ds s u ≠ .error .outOfFuel from
      hsolve _ (fun _ hd => hd) s u B hgood hsub hB hused (Nat.lt_succ_iff.mp hn)
    intro ds hds
    induction ds with
    | nil =>
      intro s u B _ _ _ _ _ h
      cases h
    | cons d ds ihds =>
      intro s u B hgood hsub hB hused hn
      have hdep := hds d List.mem_cons_self
      have ihds := ihds (fun d hd => hds d (List.mem_cons_of_mem _ hd))
      rw [System.solve]
      cases hneed : S.need s d with
      | present => exact ihds s u B hgood hsub hB hused hn
      | missing =>
        intro h
        cases h
      | make m =>
        obtain rfl := hst.make hp hdep hneed
        dsimp only
        by_cases hmem : meth d ∈ u p
        · rw [if_pos hmem]
          intro h
          cases h
        · rw [if_neg hmem]
          cases hcall : S.call (S.run n) (meth d) s (note u p (meth d)) with
          | error stop =>
            rintro h
            cases h
            obtain ⟨e, he⟩ | ⟨hready, hrun⟩ := call_error hcall
            · cases he
            · have hnew : (p, d) ∉ B := fun hb => hmem (hused _ hb)
              have hsub' : insert (p, d) B ⊆ U := Finset.insert_subset (hU p hp d hdep) hsub
              have hcard := Finset.card_insert_of_notMem hnew
              have hle := Finset.card_le_card hsub'
              refine ih (hst.inside hp hdep hgood hneed hready) hgood hsub' ?_ ?_ ?_ hrun
              · rw [Finset.coe_insert]
                exact hB.insert hdep (hst.lock hp hdep hgood hneed hready)
              · intro b hb
                rcases Finset.mem_insert.mp hb with rfl | hb
                · rw [note_self]
                  exact List.mem_append_right _ List.mem_cons_self
                · exact mem_note (hused b hb) p (meth d)
              · omega
          | ok made =>
            obtain ⟨s', u'⟩ := made
            obtain ⟨hgood', hrank, hdrop | ⟨hB', hused'⟩⟩ :=
              call_keeps hst hp hdep hgood hB hneed hcall
            · refine ihds s' u' ∅ hgood' (Finset.empty_subset _) ?_ ?_ ?_
              · rw [Finset.coe_empty]
                exact Blocked.empty
              · exact fun b hb => absurd hb (Finset.notMem_empty b)
              · have hmul := Nat.mul_le_mul_right (U.card + 1) (Nat.succ_le_of_lt hdrop)
                rw [Nat.succ_mul] at hmul
                omega
            · refine ihds s' u' B hgood' hsub hB' ?_ ?_
              · intro b hb
                rw [hused' b.1 ⟨b.2, hb⟩]
                exact mem_note (hused b hb) p (meth d)
              · have hmul := Nat.mul_le_mul_right (U.card + 1) hrank
                omega

end Runs

end Resolution

end Kelvin
