import Kelvin.Api.ResourceUrls

/-!
# When the caches of the URLs do not show

Calls of the cached URL functions answer what the functions would without caches, as long as no
request asks for a URL of another version that is kept, and no user whose DN is kept gets another
one.

* `ObjectKind`: the objects whose URLs the API shows, each with one route in either version.
* `urlForSameApiPrefix_kind`: the URL of an object is determined by the version, the scheme and the
  host of the request.
* `Fresh`: the entries of the caches are what the functions answer now.
* `GoodRun`, `cachedRun_eq`: the runs in which every answer is the one without caches.
-/

namespace Kelvin

/-! ## Objects with a route in either version -/

/-- The objects whose URLs the API shows. -/
inductive ObjectKind where
  | user
  | school
  | role
  | schoolClass
  | workGroup

namespace ObjectKind

def route : ObjectKind → String
  | school => "school_get"
  | _ => "get"

/-- The keyword arguments, in the order in which they are given. -/
def params : ObjectKind → List String
  | user => ["username"]
  | school => ["school_name"]
  | role => ["role_name"]
  | schoolClass => ["class_name", "school"]
  | workGroup => ["workgroup_name", "school"]

def base : ObjectKind → String
  | user => "/users/"
  | school => "/schools/"
  | role => "/roles/"
  | schoolClass => "/classes/"
  | workGroup => "/workgroups/"

/-- The route of the objects in a version. -/
def routeOf (kind : ObjectKind) (v : ApiVersion) : Route where
  name := kind.route
  literal := "/ucsschool/kelvin/" ++ v.text ++ kind.base
  params := kind.params.reverse
  mounted := false

end ObjectKind

theorem filter_fits_kind (kind : ObjectKind) {params : Params}
    (h : params.map Prod.fst = kind.params) :
    kelvinRoutes.filter (·.Fits kind.route params) = [kind.routeOf .v1, kind.routeOf .v2] := by
  have hone : kelvinRoutes.filter (·.Fits kind.route (kind.params.map (·, ""))) =
      [kind.routeOf .v1, kind.routeOf .v2] := by
    cases kind <;> decide
  rw [← hone]
  apply List.filter_congr
  intro route _
  refine decide_eq_decide.mpr (fits_congr ?_)
  rw [h, List.map_map]
  exact (List.map_id _).symm

theorem front_routeOf (kind : ObjectKind) (v : ApiVersion) :
    v.front <+: pathSegments (kind.routeOf v).literal := by
  cases kind <;> cases v <;> decide

/-- One of two values, by the version. -/
def ApiVersion.choose (v : ApiVersion) (first second : String) : String :=
  match v with
  | .v1 => first
  | .v2 => second

/-- The text after the host in the URL of an object. -/
def kindRest (kind : ObjectKind) (v : ApiVersion) (params : Params) : Except UrlExc String := do
  let first ← (kind.routeOf .v1).urlPathFor params
  let second ← (kind.routeOf .v2).urlPathFor params
  .ok (v.choose first second)

theorem reaches_kind {kind : ObjectKind} {v : ApiVersion} {params : Params} {rest : String}
    (h : params.map Prod.fst = kind.params) (hrest : (kind.routeOf v).urlPathFor params = .ok rest) :
    Reaches v.front rest := by
  have hmem : kind.routeOf v ∈ kelvinRoutes.filter (·.Fits kind.route params) := by
    rw [filter_fits_kind kind h]
    cases v <;> simp
  obtain ⟨hroute, hfits⟩ := List.mem_filter.mp hmem
  exact (front_routeOf kind v).trans
    (segments_of_urlPathFor hroute (of_decide_eq_true hfits) hrest)

theorem reaches_kindRest {kind : ObjectKind} {v : ApiVersion} {params : Params} {rest : String}
    (h : params.map Prod.fst = kind.params) (hrest : kindRest kind v params = .ok rest) :
    Reaches v.front rest := by
  obtain ⟨first, hfirst, hrest⟩ := bind_eq_ok.mp hrest
  obtain ⟨second, hsecond, hrest⟩ := bind_eq_ok.mp hrest
  cases hrest
  cases v with
  | v1 => exact reaches_kind h hfirst
  | v2 => exact reaches_kind h hsecond

section Selected

variable [UrlTexts] {v : ApiVersion}

/-- **The URL of an object** is that of the version of the request. -/
theorem urlForSameApiPrefix_kind (request : VersionRequest v) (kind : ObjectKind) {params : Params}
    (h : params.map Prod.fst = kind.params) :
    urlForSameApiPrefix request.toRequest kind.route params =
      (kindRest kind v params).map request.absoluteUrl := by
  obtain ⟨more, hpath⟩ := request.path_starts
  have hreach : ∀ v' rest, (kind.routeOf v').urlPathFor params = .ok rest →
      (Reaches v.front rest ↔ v = v') := by
    intro v' rest hrest
    have hfront := reaches_kind h hrest
    constructor
    · exact fun hreaches => ApiVersion.eq_of_front hreaches hfront
    · rintro rfl
      exact hfront
  unfold urlForSameApiPrefix kindRest
  rw [filter_fits_kind kind h, List.mapM_cons, List.mapM_cons, List.mapM_nil]
  cases hfirst : (kind.routeOf .v1).urlPathFor params with
  | error e => rfl
  | ok first =>
    cases hsecond : (kind.routeOf .v2).urlPathFor params with
    | error e => rfl
    | ok second =>
      have hbest : bestUrl request.path [first, second] =
          some (v.choose first second) := by
        cases v with
        | v1 =>
          refine @bestUrl_eq _ _ _ hpath.symm [] _ _ (by simp) ((hreach _ _ hfirst).mpr rfl) ?_
          intro rest hrest
          rw [List.mem_singleton.mp hrest, hreach _ _ hsecond]
          decide
        | v2 =>
          refine @bestUrl_eq _ _ _ hpath.symm [_] _ _ ?_ ((hreach _ _ hsecond).mpr rfl) (by simp)
          intro rest hrest
          rw [List.mem_singleton.mp hrest, hreach _ _ hfirst]
          decide
      simp only [bind, pure, Except.bind, Except.pure]
      rw [hbest]
      rfl

/-- Without its path, the URL of an object depends on the key of the request only. -/
theorem absoluteUrl_eq {request request' : Request} {name name' : String} {params params' : Params}
    (h : request.urlKey name params = request'.urlKey name' params') (rest : String) :
    request.absoluteUrl rest = request'.absoluteUrl rest := by
  obtain ⟨-, hscheme, hhost, -, -⟩ := UrlKey.mk.inj h
  have hscheme' : (request.absoluteUrl "/").scheme = (request'.absoluteUrl "/").scheme := hscheme
  unfold Request.absoluteUrl at hscheme' ⊢
  dsimp only at hscheme'
  rw [hscheme', hhost]

end Selected

/-! ## Keys and versions -/

/-- A list of values under different keys is determined by its elements and the order of the
keys. -/
theorem eq_of_perm_of_keys {α β : Type*} {l l' : List (α × β)} (h : l.Perm l')
    (hkeys : l.map Prod.fst = l'.map Prod.fst) (hnodup : (l.map Prod.fst).Nodup) : l = l' := by
  induction l generalizing l' with
  | nil => exact (List.nil_perm.mp h).symm
  | cons x l ih =>
    obtain ⟨y, l', rfl⟩ : ∃ y t, l' = y :: t := by
      cases l' with
      | nil => cases hkeys
      | cons y t => exact ⟨y, t, rfl⟩
    rw [List.map_cons, List.map_cons, List.cons_eq_cons] at hkeys
    rw [List.map_cons, List.nodup_cons] at hnodup
    have hxy : x = y := by
      rcases List.mem_cons.mp (h.subset List.mem_cons_self) with hx | hx
      · exact hx
      · have hmem := List.mem_map_of_mem (f := Prod.fst) hx
        rw [← hkeys.2] at hmem
        exact absurd hmem hnodup.1
    subst hxy
    rw [ih ((List.perm_cons x).mp h) hkeys.2 hnodup.2]

theorem ObjectKind.eq_of_perm {kind kind' : ObjectKind} (h : kind.params.Perm kind'.params) :
    kind = kind' := by
  cases kind <;> cases kind' <;> first | rfl | exact absurd h (by decide)

/-- The sorted arguments determine the object and the arguments. -/
theorem eq_of_sortedParams {kind kind' : ObjectKind} {params params' : Params}
    (h : params.map Prod.fst = kind.params) (h' : params'.map Prod.fst = kind'.params)
    (hsorted : sortedParams params = sortedParams params') : kind = kind' ∧ params = params' := by
  have hleft : (sortedParams params).Perm params := List.perm_insertionSort _ params
  have hright : (sortedParams params').Perm params' := List.perm_insertionSort _ params'
  have hperm : params.Perm params' := (hleft.symm.trans (List.Perm.of_eq hsorted)).trans hright
  have hkeys := hperm.map Prod.fst
  rw [h, h'] at hkeys
  obtain rfl := ObjectKind.eq_of_perm hkeys
  have hnodup : (params.map Prod.fst).Nodup := by
    rw [h]
    cases kind <;> decide
  exact ⟨rfl, eq_of_perm_of_keys hperm (h.trans h'.symm) hnodup⟩

theorem objectRoute_kind {objType name : String} {call : String × Params}
    (h : objectRoute objType name = some call) :
    ∃ kind : ObjectKind, call.1 = kind.route ∧ call.2.map Prod.fst = kind.params := by
  unfold objectRoute at h
  split at h
  · cases h
    exact ⟨.school, rfl, rfl⟩
  · split at h
    · cases h
      exact ⟨.user, rfl, rfl⟩
    · split at h
      · cases h
        exact ⟨.role, rfl, rfl⟩
      · cases h

section Names

variable [UrlTexts] {v : ApiVersion}

/-- The path of a URL. -/
def urlPath (url : String) : String := ((UrlRuntime.urlsplit url).map Prod.snd).getD ""

/-- The name of an object is the same for all requests to a version. -/
theorem freshName_congr (request request' : VersionRequest v) (objType url : String) :
    freshName request.toRequest objType url = freshName request'.toRequest objType url := by
  unfold freshName urlToNameBody
  by_cases hempty : url = ""
  · rw [if_pos hempty, if_pos hempty]
  · rw [if_neg hempty, if_neg hempty]
    cases UrlRuntime.urlsplit url with
    | none => rfl
    | some parts =>
      dsimp only
      split
      · rfl
      · cases hroute : objectRoute objType (lastSegment parts.2) with
        | none => rfl
        | some call =>
          obtain ⟨kind, hname, hkeys⟩ := objectRoute_kind hroute
          dsimp only
          rw [hname, urlForSameApiPrefix_kind request kind hkeys,
            urlForSameApiPrefix_kind request' kind hkeys]
          cases kindRest kind v call.2 <;> rfl

/-- The name of an object is the last segment of the path of its URL. -/
def objectName (url : String) : String := if url = "" then "" else lastSegment (urlPath url)

/-- A URL from which a name is read has the path of the version of the request. -/
theorem freshName_eq_ok {request : VersionRequest v} {objType url name : String}
    (h : freshName request.toRequest objType url = .ok name) :
    name = objectName url ∧ (url ≠ "" → v.front <+: pathSegments (urlPath url)) := by
  unfold freshName urlToNameBody at h
  unfold objectName
  by_cases hempty : url = ""
  · rw [if_pos hempty] at h ⊢
    cases h
    exact ⟨hempty, fun hne => absurd hempty hne⟩
  · rw [if_neg hempty] at h ⊢
    unfold urlPath
    cases hsplit : UrlRuntime.urlsplit url with
    | none =>
      rw [hsplit] at h
      cases h
    | some parts =>
      rw [hsplit] at h
      dsimp only at h
      split at h
      · cases h
      · cases hroute : objectRoute objType (lastSegment parts.2) with
        | none =>
          rw [hroute] at h
          cases h
        | some call =>
          obtain ⟨kind, hname, hkeys⟩ := objectRoute_kind hroute
          rw [hroute] at h
          obtain ⟨calcUrl, hcalc, h⟩ := bind_eq_ok.mp h
          rw [hname, urlForSameApiPrefix_kind request kind hkeys] at hcalc
          obtain ⟨rest, hrest, rfl⟩ := map_eq_ok.mp hcalc
          split at h
          · cases h
          · next hpath =>
            have heq : parts.2 = restPath rest := not_not.mp hpath
            cases h
            refine ⟨rfl, fun _ => ?_⟩
            show v.front <+: pathSegments parts.2
            rw [heq]
            exact reaches_kindRest hkeys hrest

/-- A name that is read for one request is read for any other whose version the URL has. -/
theorem freshName_of_front {v' : ApiVersion} {request : VersionRequest v}
    {request' : VersionRequest v'} {objType url name : String}
    (h : freshName request'.toRequest objType url = .ok name)
    (hfront : url ≠ "" → v.front <+: pathSegments (urlPath url)) :
    freshName request.toRequest objType url = .ok name := by
  by_cases hempty : url = ""
  · rw [← h, hempty]
    rfl
  · obtain rfl := ApiVersion.eq_of_front (hfront hempty) ((freshName_eq_ok h).2 hempty)
    rw [freshName_congr request request', h]

theorem freshDn_eq_ok {directory : UserDirectory} {request : VersionRequest v}
    {objType url dn : String} (h : freshDn directory request.toRequest objType url = .ok dn) :
    ∃ name, freshName request.toRequest objType url = .ok name := by
  obtain ⟨name, hname, -⟩ := bind_eq_ok.mp h
  exact ⟨name, hname⟩

/-- A DN that is found for one request is found for any other whose version the URL has. -/
theorem freshDn_of_front {v' : ApiVersion} {directory : UserDirectory} {request : VersionRequest v}
    {request' : VersionRequest v'} {objType url dn : String}
    (h : freshDn directory request'.toRequest objType url = .ok dn)
    (hfront : url ≠ "" → v.front <+: pathSegments (urlPath url)) :
    freshDn directory request.toRequest objType url = .ok dn := by
  obtain ⟨name, hname⟩ := freshDn_eq_ok h
  have hsame : freshName request.toRequest objType url = .ok name :=
    freshName_of_front hname hfront
  rw [← h]
  unfold freshDn urlToDnBody
  rw [hname, hsame]

/-- A DN stays what it is, if the directory finds the same for the name of the user. -/
theorem freshDn_change {directory directory' : UserDirectory} {request : VersionRequest v}
    {objType url dn : String} (h : freshDn directory request.toRequest objType url = .ok dn)
    (hsame : objType = "user" → directory' (objectName url) = directory (objectName url)) :
    freshDn directory' request.toRequest objType url = .ok dn := by
  obtain ⟨name, hname⟩ := freshDn_eq_ok h
  have hobject := (freshName_eq_ok hname).1
  rw [← h]
  unfold freshDn urlToDnBody
  rw [hname]
  by_cases huser : objType = "user"
  · have hfind : getDnOfUser directory' name = getDnOfUser directory name := by
      unfold getDnOfUser
      rw [hobject, hsame huser]
    show (if objType = "school" then _ else if objType = "user" then _ else _) = _
    rw [hfind]
    rfl
  · show (if objType = "school" then _ else if objType = "user" then _ else _) =
      (if objType = "school" then _ else if objType = "user" then _ else _)
    rw [if_neg huser, if_neg huser]

end Names

/-! ## Entries of the caches -/

section Entries

variable [UrlTexts] {v : ApiVersion}

/-- The entries of the caches are what the functions answer now, each for some request. -/
structure Fresh (directory : UserDirectory) (caches : UrlCaches) : Prop where
  urls : ∀ entry ∈ caches.urls.entries, ∃ (v : ApiVersion) (request : VersionRequest v)
    (kind : ObjectKind) (params : Params), params.map Prod.fst = kind.params ∧
      request.urlKey kind.route params = entry.1 ∧
      urlForSameApiPrefix request.toRequest kind.route params = .ok entry.2
  names : ∀ entry ∈ caches.names.entries, ∃ (v : ApiVersion) (request : VersionRequest v),
    freshName request.toRequest entry.1.1 entry.1.2 = .ok entry.2
  dns : ∀ entry ∈ caches.dns.entries, ∃ (v : ApiVersion) (request : VersionRequest v),
    freshDn directory request.toRequest entry.1.1 entry.1.2 = .ok entry.2

theorem Fresh.empty (directory : UserDirectory) : Fresh directory .empty :=
  ⟨fun _ h => absurd h List.not_mem_nil, fun _ h => absurd h List.not_mem_nil,
    fun _ h => absurd h List.not_mem_nil⟩

/-- A name or a DN is kept for the URL. -/
def UrlCaches.Keeps (caches : UrlCaches) (objType url : String) : Prop :=
  (objType, url) ∈ caches.names.entries.map Prod.fst ∨
    (objType, url) ∈ caches.dns.entries.map Prod.fst

/-- If the URL is kept, then it is one of the version. -/
def OfVersion (v : ApiVersion) (objType url : String) (caches : UrlCaches) : Prop :=
  caches.Keeps objType url → url ≠ "" → v.front <+: pathSegments (urlPath url)

/-- The directory finds the same for the users whose DNs are kept. -/
def KeepsDns (caches : UrlCaches) (directory directory' : UserDirectory) : Prop :=
  ∀ entry ∈ caches.dns.entries, entry.1.1 = "user" →
    directory' (objectName entry.1.2) = directory (objectName entry.1.2)

theorem Fresh.change {directory directory' : UserDirectory} {caches : UrlCaches}
    (h : Fresh directory caches) (hkeeps : KeepsDns caches directory directory') :
    Fresh directory' caches := by
  refine ⟨h.urls, h.names, fun entry hentry => ?_⟩
  obtain ⟨v, request, hdn⟩ := h.dns entry hentry
  exact ⟨v, request, freshDn_change hdn (hkeeps entry hentry)⟩

/-- A URL that is kept for the key of a request is the one for the request. -/
theorem Fresh.url {directory : UserDirectory} {caches : UrlCaches} (h : Fresh directory caches)
    {request : VersionRequest v} {kind : ObjectKind} {params : Params} {url : Url}
    (hkeys : params.map Prod.fst = kind.params)
    (hmem : (request.urlKey kind.route params, url) ∈ caches.urls.entries) :
    urlForSameApiPrefix request.toRequest kind.route params = .ok url := by
  obtain ⟨v', request', kind', params', hkeys', hkey, hurl⟩ := h.urls _ hmem
  obtain ⟨-, -, -, hsignature, hsorted⟩ := UrlKey.mk.inj hkey
  obtain ⟨rfl, rfl⟩ := eq_of_sortedParams hkeys' hkeys hsorted
  have hroute := request'.route_starts
  rw [show request'.routeSignature = request.routeSignature from hsignature] at hroute
  obtain rfl := ApiVersion.eq_of_front hroute request.route_starts
  have habsolute : request.absoluteUrl = request'.absoluteUrl :=
    funext (fun rest => (absoluteUrl_eq hkey rest).symm)
  rw [urlForSameApiPrefix_kind _ _ hkeys'] at hurl ⊢
  rw [habsolute, hurl]

theorem answers_kindUrl {M : UrlCaches → Prop}
    (hM : ∀ caches urls, M caches → M { caches with urls := urls }) (directory : UserDirectory)
    (request : VersionRequest v) {kind : ObjectKind} {params : Params}
    (hkeys : params.map Prod.fst = kind.params) :
    Answers (fun caches => Fresh directory caches ∧ M caches)
      (cachedUrlFor request.toRequest kind.route params)
      (urlForSameApiPrefix request.toRequest kind.route params) := by
  refine Answers.throughCache (Answers.lift _) ?_ ?_ ?_
  · exact fun caches url hs hfind => hs.1.url hkeys (Cache.mem_of_find? hfind)
  · intro caches url hfind hs
    refine ⟨⟨fun entry hentry => ?_, hs.1.names, hs.1.dns⟩, hM _ _ hs.2⟩
    exact hs.1.urls entry (Cache.mem_touch (h := hfind) hentry)
  · intro caches url hs hurl
    refine ⟨⟨fun entry hentry => ?_, hs.1.names, hs.1.dns⟩, hM _ _ hs.2⟩
    rcases Cache.mem_store hentry with hentry | rfl
    · exact hs.1.urls entry hentry
    · exact ⟨v, request, kind, params, hkeys, rfl, hurl⟩

variable {directory : UserDirectory} {objType url : String} {caches : UrlCaches}

/-- A URL whose name or DN is kept anew is of the version of the request. -/
theorem OfVersion.stored {caches' : UrlCaches} (h : OfVersion v objType url caches)
    (hkeeps : caches'.Keeps objType url → caches.Keeps objType url ∨
      ∃ (request : VersionRequest v) (name : String),
        freshName request.toRequest objType url = .ok name) :
    OfVersion v objType url caches' := by
  intro hkept hne
  rcases hkeeps hkept with hkept | ⟨request, name, hname⟩
  · exact h hkept hne
  · exact (freshName_eq_ok hname).2 hne

/-- The invariant of the calls for one URL. -/
def FreshFor (directory : UserDirectory) (v : ApiVersion) (objType url : String)
    (caches : UrlCaches) : Prop :=
  Fresh directory caches ∧ OfVersion v objType url caches

theorem FreshFor.touch_name (h : FreshFor directory v objType url caches) {name : String}
    (hfind : caches.names.find? (objType, url) = some name) :
    FreshFor directory v objType url
      { caches with names := caches.names.touch (objType, url) name hfind } := by
  refine ⟨⟨h.1.urls, fun entry hentry => ?_, h.1.dns⟩, h.2.stored fun hkept => .inl ?_⟩
  · exact h.1.names entry (Cache.mem_touch (h := hfind) hentry)
  · refine hkept.imp_left fun hmem => ?_
    obtain ⟨entry, hentry, hkey⟩ := List.mem_map.mp hmem
    exact List.mem_map.mpr ⟨entry, Cache.mem_touch (h := hfind) hentry, hkey⟩

theorem FreshFor.store_name (h : FreshFor directory v objType url caches)
    {request : VersionRequest v} {name : String}
    (hname : freshName request.toRequest objType url = .ok name) :
    FreshFor directory v objType url
      { caches with names := caches.names.store (objType, url) name } := by
  refine ⟨⟨h.1.urls, fun entry hentry => ?_, h.1.dns⟩,
    h.2.stored fun _ => .inr ⟨request, name, hname⟩⟩
  rcases Cache.mem_store hentry with hentry | rfl
  · exact h.1.names entry hentry
  · exact ⟨v, request, hname⟩

theorem FreshFor.touch_dn (h : FreshFor directory v objType url caches) {dn : String}
    (hfind : caches.dns.find? (objType, url) = some dn) :
    FreshFor directory v objType url
      { caches with dns := caches.dns.touch (objType, url) dn hfind } := by
  refine ⟨⟨h.1.urls, h.1.names, fun entry hentry => ?_⟩, h.2.stored fun hkept => .inl ?_⟩
  · exact h.1.dns entry (Cache.mem_touch (h := hfind) hentry)
  · refine hkept.imp_right fun hmem => ?_
    obtain ⟨entry, hentry, hkey⟩ := List.mem_map.mp hmem
    exact List.mem_map.mpr ⟨entry, Cache.mem_touch (h := hfind) hentry, hkey⟩

theorem FreshFor.store_dn (h : FreshFor directory v objType url caches)
    {request : VersionRequest v} {dn : String}
    (hdn : freshDn directory request.toRequest objType url = .ok dn) :
    FreshFor directory v objType url
      { caches with dns := caches.dns.store (objType, url) dn } := by
  obtain ⟨name, hname⟩ := freshDn_eq_ok hdn
  refine ⟨⟨h.1.urls, h.1.names, fun entry hentry => ?_⟩,
    h.2.stored fun _ => .inr ⟨request, name, hname⟩⟩
  rcases Cache.mem_store hentry with hentry | rfl
  · exact h.1.dns entry hentry
  · exact ⟨v, request, hdn⟩

theorem answers_name (directory : UserDirectory) (request : VersionRequest v)
    (objType url : String) :
    Answers (FreshFor directory v objType url) (urlToName request.toRequest objType url)
      (freshName request.toRequest objType url) := by
  refine Answers.throughCache ?_ ?_ (fun caches name hfind h => h.touch_name hfind)
    (fun caches name h hname => h.store_name hname)
  · unfold freshName urlToNameBody
    split
    · exact Answers.lift (.ok url)
    · split
      · exact Answers.lift (.error _)
      · next scheme path _ =>
        split
        · exact Answers.lift (.error _)
        · split
          · exact Answers.lift (.error _)
          · next call hroute =>
            obtain ⟨kind, hname, hkeys⟩ := objectRoute_kind hroute
            rw [hname]
            have hM : ∀ (caches : UrlCaches) urls, OfVersion v objType url caches →
                OfVersion v objType url { caches with urls := urls } := fun _ _ h => h
            refine Answers.bind (answers_kindUrl hM directory request hkeys) fun calcUrl _ => ?_
            split
            · exact Answers.lift (.error _)
            · exact Answers.lift (.ok _)
  · intro caches name h hfind
    have hentry := Cache.mem_of_find? hfind
    obtain ⟨v', request', hname⟩ := h.1.names _ hentry
    exact freshName_of_front hname (h.2 (.inl (List.mem_map_of_mem (f := Prod.fst) hentry)))

theorem answers_dn (directory : UserDirectory) (request : VersionRequest v)
    (objType url : String) :
    Answers (FreshFor directory v objType url) (urlToDn directory request.toRequest objType url)
      (freshDn directory request.toRequest objType url) := by
  refine Answers.throughCache ?_ ?_ (fun caches dn hfind h => h.touch_dn hfind)
    (fun caches dn h hdn => h.store_dn hdn)
  · refine Answers.bind (answers_name directory request objType url) fun name _ => ?_
    split
    · exact Answers.lift (.ok _)
    · split
      · split
        · exact Answers.lift (.error _)
        · split
          · exact Answers.lift (.ok _)
          · exact Answers.lift (.error _)
      · exact Answers.lift (.error _)
  · intro caches dn h hfind
    have hentry := Cache.mem_of_find? hfind
    obtain ⟨v', request', hdn⟩ := h.1.dns _ hentry
    exact freshDn_of_front hdn (h.2 (.inr (List.mem_map_of_mem (f := Prod.fst) hentry)))

end Entries

/-! ## Runs -/

section Runs

variable [UrlTexts] {v : ApiVersion} {directory : UserDirectory} {caches : UrlCaches}

/-- A URL is asked for that the API shows, or is asked about that is kept for no other version. -/
def UrlCall.Allowed (v : ApiVersion) (caches : UrlCaches) : UrlCall → Prop
  | cachedUrlFor name params =>
    ∃ kind : ObjectKind, name = kind.route ∧ params.map Prod.fst = kind.params
  | urlToName objType url => OfVersion v objType url caches
  | urlToDn objType url => OfVersion v objType url caches

/-- The calls are made for requests to the API and are allowed, and no change of the directory
affects a user whose DN is kept. -/
def GoodRun : UserDirectory → UrlCaches → List UrlEvent → Prop
  | _, _, [] => True
  | directory, caches, .change directory' :: events =>
    KeepsDns caches directory directory' ∧ GoodRun directory' caches events
  | directory, caches, .call request call :: events =>
    (∃ (v : ApiVersion) (request' : VersionRequest v), request'.toRequest = request ∧
      call.Allowed v caches) ∧ GoodRun directory (call.answer directory request caches).2 events

/-- An allowed call answers what it would without caches, and leaves them fresh. -/
theorem Fresh.call (h : Fresh directory caches) (request : VersionRequest v) {call : UrlCall}
    (hallowed : call.Allowed v caches) :
    (call.answer directory request.toRequest caches).1 =
        call.freshAnswer directory request.toRequest ∧
      Fresh directory (call.answer directory request.toRequest caches).2 := by
  cases call with
  | cachedUrlFor name params =>
    obtain ⟨kind, rfl, hkeys⟩ := hallowed
    have hM : ∀ (caches : UrlCaches) (urls : Cache UrlKey Url 10240), True → True := fun _ _ h => h
    have hanswers := (answers_kindUrl hM directory request hkeys).map UrlAnswer.url
    obtain ⟨hanswer, hfresh, -⟩ := hanswers caches ⟨h, trivial⟩
    exact ⟨hanswer, hfresh⟩
  | urlToName objType url =>
    have hanswers := (answers_name directory request objType url).map UrlAnswer.text
    obtain ⟨hanswer, hfresh, -⟩ := hanswers caches ⟨h, hallowed⟩
    exact ⟨hanswer, hfresh⟩
  | urlToDn objType url =>
    have hanswers := (answers_dn directory request objType url).map UrlAnswer.text
    obtain ⟨hanswer, hfresh, -⟩ := hanswers caches ⟨h, hallowed⟩
    exact ⟨hanswer, hfresh⟩

theorem Fresh.run {events : List UrlEvent} (h : Fresh directory caches)
    (hgood : GoodRun directory caches events) :
    cachedRun directory caches events = uncachedRun directory events := by
  induction events generalizing directory caches with
  | nil => rfl
  | cons event events ih =>
    cases event with
    | change directory' =>
      obtain ⟨hkeeps, hgood⟩ := hgood
      exact ih (h.change hkeeps) hgood
    | call request call =>
      obtain ⟨⟨v, request', rfl, hallowed⟩, hgood⟩ := hgood
      obtain ⟨hanswer, hfresh⟩ := h.call request' hallowed
      rw [cachedRun, uncachedRun, hanswer, ih hfresh hgood]

/-- **The caches of the URLs do not show** in a good run: every call answers what it would without
them. -/
theorem cachedRun_eq {events : List UrlEvent} (hgood : GoodRun directory .empty events) :
    cachedRun directory .empty events = uncachedRun directory events :=
  (Fresh.empty directory).run hgood

end Runs

section Example

attribute [local instance] plainNetlocs asciiRuntime pythonEscaping germanWords serverUrls

def annasUrl : String := "http://kelvin.school/ucsschool/kelvin/v1/users/anna"

theorem annasUrl_front : ApiVersion.v1.front <+: pathSegments (urlPath annasUrl) := by
  decide

/-- Anna is found where nobody was before. -/
def annasEvents : List UrlEvent :=
  [.change (fun name => if name = "anna" then ["uid=anna"] else []),
    .call userRequest.toRequest (.cachedUrlFor "get" [("username", "anna")]),
    .call userRequest.toRequest (.urlToDn "user" annasUrl),
    .call userRequest.toRequest (.urlToName "user" annasUrl)]

theorem annasEvents_good : GoodRun (fun _ => []) .empty annasEvents := by
  have hversion : ∀ caches, OfVersion .v1 "user" annasUrl caches := fun _ _ _ => annasUrl_front
  refine ⟨fun _ h => absurd h List.not_mem_nil, ⟨.v1, userRequest, rfl, .user, rfl, rfl⟩,
    ⟨.v1, userRequest, rfl, hversion _⟩, ⟨.v1, userRequest, rfl, hversion _⟩, trivial⟩

theorem cachedRun_anna : cachedRun (fun _ => []) .empty annasEvents =
    uncachedRun (fun _ => []) annasEvents :=
  cachedRun_eq annasEvents_good

end Example

end Kelvin
