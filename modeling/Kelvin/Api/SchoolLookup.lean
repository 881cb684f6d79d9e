import Kelvin.Data.Staleness
import Kelvin.Api.GroupLookup

/-!
# The names of schools that a worker knows

Each worker process of the API keeps what searches for a school have found (`routers/v1/school.py`),
and the names of all schools for the check of a user (`ImportUser.check_schools`). The directory
changes behind their back, through other workers and other programs.

* `searchSchoolsInLdap`, `schoolExists`, `removeOuFromCache`: the kept searches.
* `getAllSchoolNames`, `checkSchools`: the kept names.
* `stepCaches`, `runCaches`: the caches of all workers in a run.
* `search_answer`: what a search answers was found since the worker last discarded it, and no longer
  ago than it may be kept.
* `checkSchools_answer`: only schools that do not exist are rejected, only schools that have existed
  shortly before are accepted.
-/

namespace Kelvin

namespace SchoolLookup

/-- The rule by which the directory compares the names of schools. -/
class OuRuntime extends Runtime where
  ouMatches : String → String → Bool

/-! ## Calls and caches -/

inductive SchoolCall where
  /-- `search_schools_in_ldap`, as most routes call it. -/
  | search (ou : String) (raise404 : Bool)
  /-- The route `school_exists`. -/
  | head (ou : String)
  /-- `school_create`, when the school has been created. -/
  | created (name : String)
  /-- The task that runs after the response of `school_create`. -/
  | updateNames
  | checkSchools (schools : List String)

/-- A call of a worker, with the time in microseconds and the schools in the directory. -/
structure SchoolEvent where
  worker : Nat
  now : Int
  ous : List String
  call : SchoolCall

/-- What a worker keeps: searches, and the names of all schools in lower case. -/
structure WorkerCaches where
  lookups : String → Option (Reading (List String))
  names : Option (Reading (List String))

def WorkerCaches.empty : WorkerCaches := ⟨fun _ => none, none⟩

/-- The exception `UnknownSchoolName`. -/
structure UnknownSchoolName where
  school : String

inductive SchoolAnswer where
  | ous (result : Except HttpException (List String))
  | status (code : Nat)
  | checked (result : Except UnknownSchoolName Unit)
  | nothing

/-- The lifetimes in seconds: `OU_CACHE_TTL` and `ImportUser._cache_ttl`. -/
structure CacheTtl where
  ous : Int
  names : Int

/-- An entry of the memory cache is removed by a timer. A lifetime of zero sets none. -/
def CacheTtl.ousLive (ttl : CacheTtl) (now stored : Int) : Bool :=
  decide (ttl.ous = 0) || decide (now < stored + ttl.ous * 1000000)

def CacheTtl.namesLive (ttl : CacheTtl) (now stored : Int) : Bool :=
  !decide (stored + ttl.names * 1000000 < now)

section Functions

variable [OuRuntime] (ttl : CacheTtl)

/-- What a search in the directory finds. -/
def SchoolEvent.found (e : SchoolEvent) (ou : String) : List String :=
  e.ous.filter (OuRuntime.ouMatches ou)

/-- `fetch_all_school_names_from_ldap`. -/
def SchoolEvent.allNames (e : SchoolEvent) : List String := e.ous.map Runtime.lower

/-- `_search_schools_in_ldap`, behind the decorator `cached`. -/
def searchCached (e : SchoolEvent) (caches : WorkerCaches) (ou : String) : Reading (List String) :=
  Reading.current (ttl.ousLive e.now) e.now (e.found ou) (caches.lookups ou)

def WorkerCaches.keep (caches : WorkerCaches) (ou : String) (r : Option (Reading (List String))) :
    WorkerCaches :=
  { caches with lookups := Function.update caches.lookups ou r }

/-- `_remove_ou_from_cache`. -/
def removeOuFromCache (caches : WorkerCaches) (ou : String) : WorkerCaches := caches.keep ou none

/-- The end of `search_schools_in_ldap`. -/
def searchResult (ou : String) (raise404 : Bool) (ous : List String) :
    Except HttpException (List String) :=
  if ous = [] ∧ raise404 = true then
    .error ⟨404, "No school with name=" ++ Runtime.repr ou ++ " found."⟩
  else .ok ous

/-- `search_schools_in_ldap`. -/
def searchSchoolsInLdap (e : SchoolEvent) (caches : WorkerCaches) (ou : String)
    (raise404 : Bool) : Except HttpException (List String) × WorkerCaches :=
  let r := searchCached ttl e caches ou
  (searchResult ou raise404 r.value, caches.keep ou (some r))

/-- `school_exists`. -/
def schoolExists (e : SchoolEvent) (caches : WorkerCaches) (ou : String) : Nat × WorkerCaches :=
  let (results, caches) := searchSchoolsInLdap ttl e (removeOuFromCache caches ou) ou false
  (match results with
    | .ok (_ :: _) => 200
    | _ => 404, caches)

/-- `get_all_school_names`. -/
def getAllSchoolNames (e : SchoolEvent) (names : Option (Reading (List String))) :
    Reading (List String) :=
  Reading.current (ttl.namesLive e.now) e.now e.allNames names

/-- `update_all_school_names_cache`. -/
def updateAllSchoolNamesCache (e : SchoolEvent) : Reading (List String) := ⟨e.now, e.allNames⟩

/-- The loop of `check_schools`. -/
def checkSchoolsLoop (e : SchoolEvent) : Reading (List String) → List String →
    Except UnknownSchoolName Unit × Reading (List String)
  | names, [] => (.ok (), names)
  | names, school :: schools =>
    if Runtime.lower school ∈ names.value then checkSchoolsLoop e names schools
    else
      let names := getAllSchoolNames ttl e (some (updateAllSchoolNamesCache e))
      if Runtime.lower school ∈ names.value then checkSchoolsLoop e names schools
      else (.error ⟨school⟩, names)

/-- `check_schools`, for the schools in the order of the set. -/
def checkSchools (e : SchoolEvent) (caches : WorkerCaches) (schools : List String) :
    Except UnknownSchoolName Unit × WorkerCaches :=
  let (result, names) := checkSchoolsLoop ttl e (getAllSchoolNames ttl e caches.names) schools
  (result, { caches with names := some names })

/-- One call of a worker. -/
def callWorker (e : SchoolEvent) (caches : WorkerCaches) : SchoolAnswer × WorkerCaches :=
  match e.call with
  | .search ou raise404 =>
    let (result, caches) := searchSchoolsInLdap ttl e caches ou raise404
    (.ous result, caches)
  | .head ou =>
    let (code, caches) := schoolExists ttl e caches ou
    (.status code, caches)
  | .created name => (.nothing, removeOuFromCache caches name)
  | .updateNames => (.nothing, { caches with names := some (updateAllSchoolNamesCache e) })
  | .checkSchools schools =>
    let (result, caches) := checkSchools ttl e caches schools
    (.checked result, caches)

/-- The caches of all workers after a call of one of them. -/
def stepCaches (caches : Nat → WorkerCaches) (e : SchoolEvent) : Nat → WorkerCaches :=
  Function.update caches e.worker (callWorker ttl e (caches e.worker)).2

/-- The caches of all workers after a run. -/
def runCaches (history : List SchoolEvent) : Nat → WorkerCaches :=
  history.foldl (stepCaches ttl) (fun _ => .empty)

/-- What a call is answered after a run. -/
def answerAfter (history : List SchoolEvent) (e : SchoolEvent) : SchoolAnswer :=
  (callWorker ttl e (runCaches ttl history e.worker)).1

end Functions

/-! ## Where the caches come from -/

section Runs

variable [OuRuntime] {ttl : CacheTtl} {history : List SchoolEvent} {e : SchoolEvent} {w : Nat}
  {ou : String}

/-- The call makes the worker discard what it has kept for a name. -/
def Discards (w : Nat) (ou : String) (e : SchoolEvent) : Prop :=
  e.worker = w ∧ (e.call = .head ou ∨ e.call = .created ou)

omit [OuRuntime] in
theorem not_discards (hhead : ∀ name, e.call ≠ .head name) (hcreated : ∀ name, e.call ≠ .created name)
    (w : Nat) (ou : String) : ¬ Discards w ou e := by
  rintro ⟨-, h | h⟩
  · exact hhead ou h
  · exact hcreated ou h

/-- The search was made at an event of the history, and not discarded since. -/
def FoundSince (w : Nat) (ou : String) : List SchoolEvent → Reading (List String) → Prop :=
  ReadSince SchoolEvent.now (·.found ou) (Discards w ou)

/-- The names of all schools were read at an event of the history. -/
def NamesSince : List SchoolEvent → Reading (List String) → Prop :=
  ReadSince SchoolEvent.now SchoolEvent.allNames (fun _ => False)

/-- What a worker keeps was true at earlier events. -/
structure WorkerCaches.Sourced (history : List SchoolEvent) (w : Nat) (caches : WorkerCaches) :
    Prop where
  lookups : ∀ ou r, caches.lookups ou = some r → FoundSince w ou history r
  names : ∀ r, caches.names = some r → NamesSince history r

theorem WorkerCaches.Sourced.empty : WorkerCaches.empty.Sourced history w :=
  ⟨fun _ _ h => absurd h (Option.some_ne_none _).symm,
    fun _ h => absurd h (Option.some_ne_none _).symm⟩

/-- An event that discards nothing of the worker leaves its caches as they are. -/
theorem WorkerCaches.Sourced.later {caches : WorkerCaches} (h : caches.Sourced history w)
    (he : ∀ ou, Discards w ou e → caches.lookups ou = none) :
    caches.Sourced (history ++ [e]) w := by
  refine ⟨fun ou r hr => ?_, fun r hr => (h.names r hr).later not_false⟩
  refine (h.lookups ou r hr).later (fun hdiscards => ?_)
  rw [he ou hdiscards] at hr
  cases hr

theorem WorkerCaches.Sourced.keep {caches : WorkerCaches} {r : Option (Reading (List String))}
    (h : caches.Sourced history w) (hr : ∀ r', r = some r' → FoundSince w ou history r') :
    (caches.keep ou r).Sourced history w := by
  refine ⟨fun ou' r' hr' => ?_, h.names⟩
  change Function.update caches.lookups ou r ou' = some r' at hr'
  by_cases hou : ou' = ou
  · subst hou
    rw [Function.update_self] at hr'
    exact hr r' hr'
  · rw [Function.update_of_ne hou] at hr'
    exact h.lookups ou' r' hr'

theorem namesSince_getAll {names : Option (Reading (List String))}
    (h : ∀ r, names = some r → NamesSince history r) :
    NamesSince (history ++ [e]) (getAllSchoolNames ttl e names) :=
  ReadSince.current h not_false

theorem namesSince_update : NamesSince (history ++ [e]) (updateAllSchoolNamesCache e) :=
  ReadSince.now

/-- Within one call, the names that are read again are those of this call. -/
theorem getAll_update :
    getAllSchoolNames ttl e (some (updateAllSchoolNamesCache e)) = updateAllSchoolNamesCache e := by
  rcases Reading.current_eq with ⟨r, hr, -, heq⟩ | heq
  · rw [getAllSchoolNames, heq]
    exact (Option.some.inj hr).symm
  · exact heq

theorem namesSince_checkSchoolsLoop {names : Reading (List String)} {schools : List String}
    (h : NamesSince (history ++ [e]) names) :
    NamesSince (history ++ [e]) (checkSchoolsLoop ttl e names schools).2 := by
  induction schools generalizing names with
  | nil => exact h
  | cons school schools ih =>
    rw [checkSchoolsLoop, getAll_update]
    split
    · exact ih h
    · dsimp only
      split
      · exact ih namesSince_update
      · exact namesSince_update

/-- A search that is kept before or made now has not been discarded since. -/
theorem foundSince_searchCached {caches : WorkerCaches} (h : caches.Sourced history e.worker)
    (he : Discards e.worker ou e → caches.lookups ou = none) :
    FoundSince e.worker ou (history ++ [e]) (searchCached ttl e caches ou) := by
  by_cases hdiscards : Discards e.worker ou e
  · rw [searchCached, he hdiscards]
    exact ReadSince.now
  · exact ReadSince.current (h.lookups ou) hdiscards

/-- A call keeps the caches of the worker sourced. -/
theorem sourced_callWorker {caches : WorkerCaches} (h : caches.Sourced history e.worker) :
    (callWorker ttl e caches).2.Sourced (history ++ [e]) e.worker := by
  unfold callWorker
  split
  · next ou raise404 hcall =>
    have hnone := not_discards (e := e) (by simp [hcall]) (by simp [hcall]) e.worker
    refine (h.later fun ou hd => absurd hd (hnone ou)).keep ?_
    rintro r ⟨⟩
    exact foundSince_searchCached h fun hd => absurd hd (hnone _)
  · next ou hcall =>
    have hdropped : (removeOuFromCache caches ou).Sourced history e.worker := h.keep (by simp)
    have hnone : ∀ ou', Discards e.worker ou' e → (removeOuFromCache caches ou).lookups ou' = none := by
      rintro ou' ⟨-, hhead | hcreated⟩
      · rw [hcall] at hhead
        cases hhead
        exact Function.update_self ..
      · rw [hcall] at hcreated
        cases hcreated
    refine (hdropped.later hnone).keep ?_
    rintro r ⟨⟩
    exact foundSince_searchCached hdropped (hnone ou)
  · next name hcall =>
    have hdropped : (removeOuFromCache caches name).Sourced history e.worker := h.keep (by simp)
    refine hdropped.later ?_
    rintro ou ⟨-, hhead | hcreated⟩
    · rw [hcall] at hhead
      cases hhead
    · rw [hcall] at hcreated
      cases hcreated
      exact Function.update_self ..
  · next hcall =>
    have hnone := not_discards (e := e) (by simp [hcall]) (by simp [hcall]) e.worker
    have hlater : caches.Sourced (history ++ [e]) e.worker :=
      h.later fun ou hd => absurd hd (hnone ou)
    refine ⟨hlater.lookups, ?_⟩
    rintro r ⟨⟩
    exact namesSince_update
  · next schools hcall =>
    have hnone := not_discards (e := e) (by simp [hcall]) (by simp [hcall]) e.worker
    have hlater : caches.Sourced (history ++ [e]) e.worker :=
      h.later fun ou hd => absurd hd (hnone ou)
    refine ⟨hlater.lookups, ?_⟩
    rintro r ⟨⟩
    exact namesSince_checkSchoolsLoop (namesSince_getAll h.names)

variable (ttl) in
/-- In every run, the caches of every worker are sourced. -/
theorem sourced_runCaches (history : List SchoolEvent) (w : Nat) :
    (runCaches ttl history w).Sourced history w := by
  induction history using List.reverseRecOn generalizing w with
  | nil => exact .empty
  | append_singleton history e ih =>
    rw [runCaches, List.foldl_append]
    show (stepCaches ttl (runCaches ttl history) e w).Sourced _ w
    by_cases hw : w = e.worker
    · subst hw
      rw [stepCaches, Function.update_self]
      exact sourced_callWorker (ih e.worker)
    · rw [stepCaches, Function.update_of_ne hw]
      exact (ih w).later fun ou hd => absurd hd.1.symm hw

/-! ## Answers -/

/-- A search is answered with what it found at some event, the present one or one that is not too
long ago, and after which the worker has not discarded it. -/
theorem search_answer {raise404 : Bool} (hcall : e.call = .search ou raise404) :
    ∃ before e' after, history ++ [e] = before ++ e' :: after ∧
      answerAfter ttl history e = .ous (searchResult ou raise404 (e'.found ou)) ∧
      (after = [] ∨ ttl.ousLive e.now e'.now = true) ∧
      ∀ x ∈ after, ¬ Discards e.worker ou x := by
  have hanswer : answerAfter ttl history e = .ous (searchResult ou raise404
      (searchCached ttl e (runCaches ttl history e.worker) ou).value) := by
    unfold answerAfter callWorker
    rw [hcall]
    rfl
  have hsourced := sourced_runCaches ttl history e.worker
  have hnone := not_discards (e := e) (by simp [hcall]) (by simp [hcall]) e.worker ou
  rw [hanswer]
  rcases Reading.current_eq with ⟨r, hr, hlive, heq⟩ | heq
  · obtain ⟨before, e', after, hsplit, htime, hvalue, hafter⟩ := (hsourced.lookups ou r hr).later hnone
    refine ⟨before, e', after, hsplit, ?_, .inr (htime ▸ hlive), hafter⟩
    rw [searchCached, heq, hvalue]
  · refine ⟨history, e, [], rfl, ?_, .inl rfl, by simp⟩
    rw [searchCached, heq]

/-- The route that asks whether a school exists always searches anew. -/
theorem head_answer (hcall : e.call = .head ou) :
    answerAfter ttl history e = .status (if e.found ou = [] then 404 else 200) := by
  have hfresh : ∀ caches, searchCached ttl e (removeOuFromCache caches ou) ou =
      ⟨e.now, e.found ou⟩ := by
    intro caches
    have hdropped : (removeOuFromCache caches ou).lookups ou = none := Function.update_self ..
    rw [searchCached, hdropped]
    rfl
  unfold answerAfter callWorker schoolExists searchSchoolsInLdap
  rw [hcall]
  dsimp only
  rw [hfresh]
  unfold searchResult
  cases e.found ou <;> rfl

theorem checkSchoolsLoop_error {names : Reading (List String)} {schools : List String}
    {school : String} (h : (checkSchoolsLoop ttl e names schools).1 = .error ⟨school⟩) :
    school ∈ schools ∧ Runtime.lower school ∉ e.allNames := by
  induction schools generalizing names with
  | nil => cases h
  | cons first schools ih =>
    rw [checkSchoolsLoop, getAll_update] at h
    dsimp only at h
    split at h
    · exact ⟨List.mem_cons_of_mem _ (ih h).1, (ih h).2⟩
    · split at h
      · exact ⟨List.mem_cons_of_mem _ (ih h).1, (ih h).2⟩
      · next hmissing =>
        cases h
        exact ⟨List.mem_cons_self, hmissing⟩

theorem checkSchoolsLoop_ok {names : Reading (List String)} {schools : List String}
    (h : (checkSchoolsLoop ttl e names schools).1 = .ok ()) :
    ∀ school ∈ schools, Runtime.lower school ∈ names.value ∨ Runtime.lower school ∈ e.allNames := by
  induction schools generalizing names with
  | nil => exact fun _ hmem => absurd hmem List.not_mem_nil
  | cons first schools ih =>
    rw [checkSchoolsLoop, getAll_update] at h
    dsimp only at h
    rw [List.forall_mem_cons]
    split at h
    · next hknown => exact ⟨.inl hknown, ih h⟩
    · split at h
      · next hfound =>
        refine ⟨.inr hfound, fun school hmem => .inr ?_⟩
        rcases ih h school hmem with hnames | hnames
        · exact hnames
        · exact hnames
      · cases h

/-- The check of a user's schools rejects only a school that does not exist now. It accepts only
schools that exist now, or did when the names were last read, not too long ago. -/
theorem checkSchools_answer {schools : List String} (hcall : e.call = .checkSchools schools) :
    (∃ school ∈ schools, answerAfter ttl history e = .checked (.error ⟨school⟩) ∧
      Runtime.lower school ∉ e.allNames) ∨
    answerAfter ttl history e = .checked (.ok ()) ∧
      ∃ e' ∈ history ++ [e], (e' = e ∨ ttl.namesLive e.now e'.now = true) ∧
        ∀ school ∈ schools, Runtime.lower school ∈ e'.allNames ∨
          Runtime.lower school ∈ e.allNames := by
  have hanswer : answerAfter ttl history e = .checked (checkSchoolsLoop ttl e
      (getAllSchoolNames ttl e (runCaches ttl history e.worker).names) schools).1 := by
    unfold answerAfter callWorker
    rw [hcall]
    rfl
  have hnames := (sourced_runCaches ttl history e.worker).names
  rw [hanswer]
  cases hloop : (checkSchoolsLoop ttl e
      (getAllSchoolNames ttl e (runCaches ttl history e.worker).names) schools).1 with
  | error unknown =>
    obtain ⟨school⟩ := unknown
    obtain ⟨hmem, hmissing⟩ := checkSchoolsLoop_error hloop
    exact .inl ⟨school, hmem, rfl, hmissing⟩
  | ok =>
    refine .inr ⟨rfl, ?_⟩
    have hknown := checkSchoolsLoop_ok hloop
    rcases Reading.current_eq with ⟨r, hr, hlive, heq⟩ | heq
    · obtain ⟨before, e', after, hsplit, htime, hvalue, -⟩ := hnames r hr
      refine ⟨e', ?_, .inr (htime ▸ hlive), fun school hmem => ?_⟩
      · rw [hsplit]
        simp
      · rw [← hvalue, ← heq]
        exact hknown school hmem
    · refine ⟨e, by simp, .inl rfl, fun school hmem => ?_⟩
      rcases hknown school hmem with h | h
      · rw [getAllSchoolNames, heq] at h
        exact .inl h
      · exact .inr h

end Runs

/-! ## Two workers -/

section Example

/-- A directory that compares names without regard to letter case. -/
@[reducible] def asciiOus : OuRuntime where
  toRuntime := asciiRuntime
  ouMatches a b := asciiRuntime.lower a = asciiRuntime.lower b

attribute [local instance] asciiOus

/-- The first worker misses a school, which the second then creates. -/
def missedSchool : List SchoolEvent :=
  [⟨0, 0, [], .search "DEMO" true⟩, ⟨1, 1000000, ["DEMO"], .created "DEMO"⟩]

def fiveMinutes : CacheTtl := ⟨300, 300⟩

/-- Where the first worker's answer in the second after comes from. -/
theorem search_demo :
    ∃ before e' after, missedSchool ++ [⟨0, 2000000, ["DEMO"], .search "DEMO" true⟩] =
        before ++ e' :: after ∧
      answerAfter fiveMinutes missedSchool ⟨0, 2000000, ["DEMO"], .search "DEMO" true⟩ =
        .ous (searchResult "DEMO" true (e'.found "DEMO")) ∧
      (after = [] ∨ fiveMinutes.ousLive 2000000 e'.now = true) ∧
      ∀ x ∈ after, ¬ Discards 0 "DEMO" x :=
  search_answer rfl

/-- The check of a user's school does not miss the new school. -/
theorem checkSchools_demo :
    (∃ school ∈ ["DEMO"],
      answerAfter fiveMinutes missedSchool ⟨0, 2000000, ["DEMO"], .checkSchools ["DEMO"]⟩ =
        .checked (.error ⟨school⟩) ∧ Runtime.lower school ∉ ["DEMO"].map Runtime.lower) ∨
    answerAfter fiveMinutes missedSchool ⟨0, 2000000, ["DEMO"], .checkSchools ["DEMO"]⟩ =
        .checked (.ok ()) ∧
      ∃ e' ∈ missedSchool ++ [⟨0, 2000000, ["DEMO"], .checkSchools ["DEMO"]⟩],
        (e' = ⟨0, 2000000, ["DEMO"], .checkSchools ["DEMO"]⟩ ∨
          fiveMinutes.namesLive 2000000 e'.now = true) ∧
        ∀ school ∈ ["DEMO"], Runtime.lower school ∈ e'.allNames ∨
          Runtime.lower school ∈ ["DEMO"].map Runtime.lower :=
  checkSchools_answer rfl

end Example

end SchoolLookup

end Kelvin
