import Kelvin.Api.UrlSelection
import Kelvin.Data.PercentCoding
import Kelvin.Data.UrlText
import Kelvin.Lib.NameAttributes

/-!
# The URLs of users and schools

The API shows the URL of a route with its path quoted, and reads the name of an object from a URL
whose path it has unquoted.

* `Username.validate`: the names of users that the lib accepts.
* `schemeAndQuote`, `unschemeAndUnquote`: what is done to the URLs.
* `shownUrl`, `readName`: the URL of a name and the name of a URL, with the caches of the process.
* `Reached`, `Sound`: the caches after requests to the API, and what is known of their entries.
* `resourceUrls_iff`: the names whose URL is read as the name.
-/

namespace Kelvin

/-! ## The names of users -/

/-- `\w` of Python. -/
class WordChars where
  isWord : Char → Bool
  isWord_ascii : ∀ c : Char, c.toNat < 128 → isWord c = (asciiAlnum c || c == '_')

section Usernames

variable [WordChars]

/-- `[\w -.]`, with a range from the space to the full stop. -/
def uidChar (c : Char) : Bool := WordChars.isWord c || (' ' ≤ c && c ≤ '.')

/-- `^\w[\w -.]*\w$`. -/
def uidRegex : Regex :=
  .seq (.one WordChars.isWord) (.seq (.many uidChar) (.seq (.one WordChars.isWord) .lineEnd))

/-- `\w*$`. -/
def wordRegex : Regex := .seq (.many WordChars.isWord) .lineEnd

/-- `uid_umlauts.parse`. -/
def UidUmlauts.parse (text : String) : Except Exc Unit := do
  check (' ' ∉ text.toList) "Spaces are not allowed in the username!"
  check (uidRegex.Matches text.toList ∨ wordRegex.Matches text.toList)
    "Username must only contain numbers, letters and dots!"

/-- `Username.validate`. The check for Windows can be switched off. -/
def Username.validate [Runtime] [DnEscaping] (windowsCheck : Bool) (value : String) :
    Except Exc Unit := do
  UidUmlauts.parse value
  CommonName.validate value
  check (windowsCheck = true → isValidWinDirectoryName value = true)
    "May not be a Windows reserved name"

end Usernames

/-! ## URLs -/

/-- The parameter `urlsplit` is that of the library. -/
class UrlTexts extends UrlRuntime, NetlocSyntax where
  urlsplit_eq : ∀ text, urlsplit text = (Kelvin.urlsplit text.toList).map (fun up =>
    (String.ofList up.scheme, String.ofList up.path))

/-- `str(url)`. -/
def Url.text (url : Url) : String :=
  String.ofList (serverText url.scheme.toList url.netloc.toList url.rest.toList)

section Quoting

variable [NetlocSyntax]

/-- `scheme_and_quote`. -/
def schemeAndQuote (url : String) : Except UrlExc String :=
  match urlparse url.toList with
  | none => .error .valueError
  | some up =>
    .ok (String.ofList
      { up with scheme := "https".toList, path := quote up.path : ParsedUrl }.geturl)

/-- `unscheme_and_unquote`. -/
def unschemeAndUnquote (url : String) : Except UrlExc String :=
  match urlparse url.toList with
  | none => .error .valueError
  | some up =>
    .ok (String.ofList
      { up with scheme := "http".toList, path := unquote up.path : ParsedUrl }.geturl)

end Quoting

inductive Resource where
  | user
  | school
deriving DecidableEq

namespace Resource

def objType : Resource → String
  | user => "user"
  | school => "school"

def route : Resource → String
  | user => "get"
  | school => "school_get"

def param : Resource → String
  | user => "username"
  | school => "school_name"

/-- The names that the lib accepts. -/
def Accepted [WordChars] [Runtime] [DnEscaping] (windowsCheck : Bool) (name : String) :
    Resource → Prop
  | user => Username.validate windowsCheck name = .ok ()
  | school => SchoolName.validate name = .ok ()

end Resource

inductive ApiVersion where
  | v1
  | v2
deriving DecidableEq

namespace ApiVersion

def text : ApiVersion → String
  | v1 => "v1"
  | v2 => "v2"

/-- The segments with which the paths of a version begin. -/
def front (v : ApiVersion) : List (List Char) :=
  ["ucsschool".toList, "kelvin".toList, v.text.toList]

theorem eq_of_front {v v' : ApiVersion} {segments : List (List Char)} (h : v.front <+: segments)
    (h' : v'.front <+: segments) : v = v' := by
  have heq : v.front = v'.front :=
    (List.prefix_of_prefix_length_le h h' (le_refl _)).eq_of_length rfl
  have hinj : ∀ v v' : ApiVersion, v.front = v'.front → v = v' := by
    intro v v'
    cases v <;> cases v' <;> decide
  exact hinj v v' heq

end ApiVersion

/-- The text before the name in the path of a resource. -/
def Resource.literal (v : ApiVersion) : Resource → String
  | user => "/ucsschool/kelvin/" ++ v.text ++ "/users/"
  | school => "/ucsschool/kelvin/" ++ v.text ++ "/schools/"

section Requests

variable [UrlTexts]

/-- A request to a version of the API: its path and the path of its route begin alike. -/
structure VersionRequest (v : ApiVersion) extends Request where
  path_starts : v.front <+: pathSegments path
  route_starts : v.front <+: pathSegments toRequest.routeSignature
  netloc : IsNetloc (host.getD UrlRuntime.server).toList

/-- The URL that the API shows for a name. -/
def shownUrl (request : Request) (resource : Resource) (name : String) :
    Stateful UrlCaches UrlExc String := do
  let url ← cachedUrlFor request resource.route [(resource.param, name)]
  fun caches => (schemeAndQuote url.text, caches)

/-- The name that a URL in a request is read as. -/
def readName (request : Request) (resource : Resource) (url : String) :
    Stateful UrlCaches UrlExc String := do
  let url' ← fun caches => (unschemeAndUnquote url, caches)
  urlToName request resource.objType url'

/-- The caches after some calls for requests to the API. -/
inductive Reached : UrlCaches → Prop
  | empty : Reached .empty
  | call {caches : UrlCaches} (h : Reached caches) {v : ApiVersion} (request : VersionRequest v)
      (directory : UserDirectory) (call : UrlCall) :
      Reached (call.answer directory request.toRequest caches).2

/-- In one version of the API, and with any caches, the URL shown for a name is read as the name. -/
def ReadBack {v : ApiVersion} (request request' : VersionRequest v) (caches caches' : UrlCaches)
    (resource : Resource) (name : String) : Prop :=
  ∃ url, (shownUrl request.toRequest resource name caches).1 = .ok url ∧
    (readName request'.toRequest resource url caches').1 = .ok name

/-- The URLs of two names are read as the names, and differ if these do. -/
structure ResourceUrls {v : ApiVersion} (request request' : VersionRequest v)
    (caches caches' : UrlCaches) (resource : Resource) (name name' : String) : Prop where
  first : ReadBack request request' caches caches' resource name
  second : ReadBack request request' caches caches' resource name'
  apart : (shownUrl request.toRequest resource name caches).1 =
    (shownUrl request.toRequest resource name' caches).1 → name = name'

end Requests

/-- A name that stands for itself in a URL once it is quoted. -/
def PlainName (name : String) : Prop := name ≠ "" ∧ '#' ∉ name.toList ∧ '\n' ∉ name.toList

/-! ## The URL of a route -/

theorem fits_congr {route : Route} {name : String} {params params' : Params}
    (h : params.map Prod.fst = params'.map Prod.fst) :
    route.Fits name params ↔ route.Fits name params' := by
  have hkeys : ∀ params : Params, (∀ p ∈ params, p.1 ∈ route.params) ↔
      ∀ key ∈ params.map Prod.fst, key ∈ route.params := fun params => by simp
  rw [Route.Fits, Route.Fits, hkeys, hkeys, h]

/-- The route of a resource in a version. -/
def Resource.routeOf (resource : Resource) (v : ApiVersion) : Route where
  name := resource.route
  literal := resource.literal v
  params := [resource.param]
  mounted := false

theorem filter_fits (resource : Resource) (name : String) :
    kelvinRoutes.filter (·.Fits resource.route [(resource.param, name)]) =
      [resource.routeOf .v1, resource.routeOf .v2] := by
  have hnone : kelvinRoutes.filter (·.Fits resource.route [(resource.param, "")]) =
      [resource.routeOf .v1, resource.routeOf .v2] := by
    cases resource <;> decide
  rw [← hnone]
  apply List.filter_congr
  intro route _
  exact decide_eq_decide.mpr (fits_congr rfl)

theorem replaceFrom_length {pattern value text : List Char} :
    replaceFrom pattern value text.length text = [] := by
  induction text with
  | nil => rfl
  | cons c text ih => rw [List.length_cons, replaceFrom, ih]

theorem replaceFrom_self {c : Char} {pattern value : List Char} :
    replaceFrom (c :: pattern) value 0 (c :: pattern) = value := by
  have hself : (c :: pattern).isPrefixOf (c :: pattern) = true :=
    List.isPrefixOf_iff_prefix.mpr (List.prefix_refl _)
  rw [replaceFrom, if_pos hself, List.length_cons, Nat.add_sub_cancel, replaceFrom_length,
    List.append_nil]

/-- The path of a resource is the text before the name and the name, which must be one segment. -/
theorem urlPathFor_resource (resource : Resource) (v : ApiVersion) (name : String) :
    (resource.routeOf v).urlPathFor [(resource.param, name)] =
      if name = "" ∨ '/' ∈ name.toList then .error .assertionError
      else .ok (resource.literal v ++ name) := by
  have hformat : (resource.routeOf v).format.toList =
      (resource.literal v).toList ++ (braced resource.param).toList := by
    cases resource <;> cases v <;> decide
  have hbrace : '{' ∉ (resource.literal v).toList := by
    cases resource <;> cases v <;> decide
  have hpattern : (braced resource.param).toList = '{' :: (resource.param ++ "\x7d").toList := by
    cases resource <;> decide
  have hmounted : (resource.routeOf v).mounted = false := rfl
  rw [Route.urlPathFor, List.foldlM_cons, replaceParam, hmounted]
  by_cases hname : name = "" ∨ '/' ∈ name.toList
  · rw [if_pos hname, if_pos ⟨Bool.false_ne_true, hname⟩]
    rfl
  · rw [if_neg hname, if_neg (fun h => hname h.2)]
    dsimp only
    rw [if_neg Bool.false_ne_true, hformat, hpattern, replaceFrom_append hbrace, replaceFrom_self,
      ← String.toList_append, String.ofList_toList]
    rfl

theorem front_literal (resource : Resource) (v : ApiVersion) :
    v.front <+: pathSegments (resource.literal v) := by
  cases resource <;> cases v <;> decide

theorem reaches_iff (resource : Resource) {v v' : ApiVersion} {name rest : String}
    (h : (resource.routeOf v').urlPathFor [(resource.param, name)] = .ok rest) :
    Reaches v.front rest ↔ v = v' := by
  have hmem : resource.routeOf v' ∈
      kelvinRoutes.filter (·.Fits resource.route [(resource.param, name)]) := by
    rw [filter_fits]
    cases v' <;> simp
  obtain ⟨hroute, hfits⟩ := List.mem_filter.mp hmem
  have hsegments := segments_of_urlPathFor hroute (of_decide_eq_true hfits) h
  have hreach : Reaches v'.front rest := (front_literal resource v').trans hsegments
  constructor
  · exact fun h' => ApiVersion.eq_of_front h' hreach
  · rintro rfl
    exact hreach

section Selected

variable [UrlTexts] {v : ApiVersion} (request : VersionRequest v) (resource : Resource)

/-- The URL of a resource is that of the version of the request. -/
theorem urlForSameApiPrefix_resource (name : String) :
    urlForSameApiPrefix request.toRequest resource.route [(resource.param, name)] =
      if name = "" ∨ '/' ∈ name.toList then .error .assertionError
      else .ok (request.absoluteUrl (resource.literal v ++ name)) := by
  obtain ⟨more, hpath⟩ := request.path_starts
  have hfirst := urlPathFor_resource resource .v1 name
  have hsecond := urlPathFor_resource resource .v2 name
  unfold urlForSameApiPrefix
  rw [filter_fits, List.mapM_cons, List.mapM_cons, List.mapM_nil, hfirst, hsecond]
  by_cases hname : name = "" ∨ '/' ∈ name.toList
  · simp only [if_pos hname]
    rfl
  · simp only [if_neg hname] at hfirst hsecond ⊢
    have hreach := @reaches_iff resource v _ _ _ hfirst
    have hreach' := @reaches_iff resource v _ _ _ hsecond
    have hbest : bestUrl request.path [resource.literal .v1 ++ name, resource.literal .v2 ++ name] =
        some (resource.literal v ++ name) := by
      cases v with
      | v1 =>
        refine @bestUrl_eq _ _ _ hpath.symm [] _ _ (by simp) (hreach.mpr rfl) ?_
        intro rest hrest
        rw [List.mem_singleton.mp hrest, hreach']
        decide
      | v2 =>
        refine @bestUrl_eq _ _ _ hpath.symm [_] _ _ ?_ (hreach'.mpr rfl) (by simp)
        intro rest hrest
        rw [List.mem_singleton.mp hrest, hreach]
        decide
    simp only [bind, pure, Except.bind, Except.pure]
    rw [hbest]

end Selected

/-! ## From the URL that is shown to the name -/

section Texts

/-- What stands before a fragment in a text without characters that are left out. -/
theorem beforeFragment_append {path fragment : List Char}
    (hpath : ∀ c ∈ path, c ≠ '#' ∧ unsafeChar c = false)
    (hfragment : ∀ c ∈ fragment, unsafeChar c = false) :
    beforeFragment (path ++ optionalPart '#' fragment) = path ∧
      fragmentOf (path ++ optionalPart '#' fragment) = fragment := by
  have hhash : '#' ∉ path := fun h => (hpath _ h).1 rfl
  have hclean : cleaned (path ++ optionalPart '#' fragment) = path ++ optionalPart '#' fragment := by
    apply cleaned_eq_self
    intro c hc
    rcases List.mem_append.mp hc with hc | hc
    · exact (hpath c hc).2
    · unfold optionalPart at hc
      split at hc
      · cases hc
      · rcases List.mem_cons.mp hc with rfl | hc
        · rfl
        · exact hfragment c hc
  rw [beforeFragment, fragmentOf, hclean, optionalPart]
  split
  · next hnil => rw [List.append_nil, cut_of_not_mem hhash, hnil]; exact ⟨rfl, rfl⟩
  · rw [cut_eq hhash]
    exact ⟨rfl, rfl⟩

theorem mem_beforeFragment {text : List Char} {c : Char} (h : c ∈ beforeFragment text) :
    c ∈ text ∧ c ≠ '#' ∧ unsafeChar c = false := by
  have hclean := mem_cleaned.mp ((List.takeWhile_sublist _).subset h)
  have htake : c ∈ (cleaned text).takeWhile (fun d => d ≠ '#') := h
  have hne := List.mem_takeWhile_imp htake
  exact ⟨hclean.1, of_decide_eq_true hne, hclean.2⟩

theorem mem_fragmentOf {text : List Char} {c : Char} (h : c ∈ fragmentOf text) :
    c ∈ text ∧ unsafeChar c = false := by
  unfold fragmentOf cut at h
  dsimp only at h
  cases hrest : (cleaned text).dropWhile (fun d => d ≠ '#') with
  | nil =>
    rw [hrest] at h
    cases h
  | cons d rest =>
    rw [hrest] at h
    have hsub : rest.Sublist (cleaned text) := by
      refine (List.sublist_cons_self d rest).trans ?_
      rw [← hrest]
      exact List.dropWhile_sublist _
    exact mem_cleaned.mp (hsub.subset h)

theorem beforeFragment_front {front text : List Char}
    (hfront : ∀ c ∈ front, c ≠ '#' ∧ unsafeChar c = false) :
    beforeFragment (front ++ text) = front ++ beforeFragment text := by
  rw [beforeFragment, cleaned_append, cleaned_eq_self (fun c hc => (hfront c hc).2), cut,
    List.takeWhile_append_of_pos (fun c hc => decide_eq_true (hfront c hc).1)]
  rfl

theorem beforeFragment_eq_self {text : List Char}
    (h : ∀ c ∈ text, c ≠ '#' ∧ unsafeChar c = false) : beforeFragment text = text := by
  have hself := @beforeFragment_front text [] h
  rwa [List.append_nil, show beforeFragment [] = [] from rfl, List.append_nil] at hself

end Texts

theorem Resource.exists_literal (resource : Resource) (v : ApiVersion) :
    ∃ rest, (resource.literal v).toList = '/' :: rest := by
  cases resource <;> cases v <;> exact ⟨_, rfl⟩

theorem Resource.literal_plain (resource : Resource) (v : ApiVersion) :
    ∀ c ∈ (resource.literal v).toList,
      (c ≠ '?' ∧ c ≠ ';') ∧ (c ≠ '#' ∧ unsafeChar c = false) ∧ c ≠ '\n' := by
  rw [← List.forall_iff_forall_mem]
  cases resource <;> cases v <;> decide

theorem beforeFragment_slash (rest : List Char) :
    beforeFragment ('/' :: rest) = '/' :: beforeFragment rest :=
  @beforeFragment_front ['/'] rest (List.forall_iff_forall_mem.mp (by decide))

theorem fragmentOf_slash (rest : List Char) : fragmentOf ('/' :: rest) = fragmentOf rest := rfl

theorem quote_slash (path : List Char) : quote ('/' :: path) = '/' :: quote path :=
  quote_cons (by decide) path

section Quoted

variable [NetlocSyntax] {scheme netloc rest : List Char}

theorem schemeAndQuote_server (hscheme : WebScheme scheme) (hnetloc : IsNetloc netloc)
    (hrest : ∀ c ∈ rest, c ≠ '?' ∧ c ≠ ';') :
    schemeAndQuote (String.ofList (serverText scheme netloc ('/' :: rest))) =
      .ok (String.ofList (serverText "https".toList netloc
        ('/' :: (quote (beforeFragment rest) ++ optionalPart '#' (fragmentOf rest))))) := by
  have hhttps : WebScheme "https".toList := List.mem_cons_of_mem _ List.mem_cons_self
  rw [schemeAndQuote, String.toList_ofList, urlparse_server hscheme hnetloc hrest]
  dsimp only
  rw [beforeFragment_slash, quote_slash, fragmentOf_slash, geturl_server hhttps hnetloc.ne_nil,
    List.cons_append]

/-- What a quoted URL becomes in a request. -/
theorem unschemeAndUnquote_server {path fragment : List Char} (hnetloc : IsNetloc netloc)
    (hfragment : ∀ c ∈ fragment, (c ≠ '?' ∧ c ≠ ';') ∧ unsafeChar c = false) :
    unschemeAndUnquote (String.ofList (serverText "https".toList netloc
        ('/' :: (quote path ++ optionalPart '#' fragment)))) =
      .ok (String.ofList (serverText "http".toList netloc
        ('/' :: (path ++ optionalPart '#' fragment)))) := by
  have hhttp : WebScheme "http".toList := List.mem_cons_self
  have hhttps : WebScheme "https".toList := List.mem_cons_of_mem _ List.mem_cons_self
  have hsafe : ∀ c ∈ '%' :: safeChars, (c ≠ '?' ∧ c ≠ ';') ∧ c ≠ '#' ∧ unsafeChar c = false :=
    List.forall_iff_forall_mem.mp (by decide)
  have hquoted : ∀ c ∈ quote path, (c ≠ '?' ∧ c ≠ ';') ∧ c ≠ '#' ∧ unsafeChar c = false :=
    fun c hc => hsafe c (List.mem_cons.mpr (quote_plain hc))
  have hrest : ∀ c ∈ quote path ++ optionalPart '#' fragment, c ≠ '?' ∧ c ≠ ';' := by
    intro c hc
    rcases List.mem_append.mp hc with hc | hc
    · exact (hquoted c hc).1
    · unfold optionalPart at hc
      split at hc
      · cases hc
      · rcases List.mem_cons.mp hc with rfl | hc
        · decide
        · exact (hfragment c hc).1
  obtain ⟨hbefore, hafter⟩ := beforeFragment_append (fun c hc => (hquoted c hc).2)
    (fun c hc => (hfragment c hc).2)
  rw [unschemeAndUnquote, String.toList_ofList, urlparse_server hhttps hnetloc hrest]
  dsimp only
  rw [beforeFragment_slash, fragmentOf_slash, hbefore, hafter, ← quote_slash, unquote_quote,
    geturl_server hhttp hnetloc.ne_nil, List.cons_append]

end Quoted

section Shown

variable [UrlTexts] {v : ApiVersion} (request : VersionRequest v) (resource : Resource)

/-- The part of a name that is in the path of its URL. -/
def pathPart (name : String) : String := String.ofList (beforeFragment name.toList)

/-- The URL that is shown for a name becomes one whose path is the text before the name and the part
of the name before a fragment. -/
theorem exists_read {name : String} (hname : ∀ c ∈ name.toList, c ≠ '?' ∧ c ≠ ';') :
    ∃ shown url, schemeAndQuote (request.absoluteUrl (resource.literal v ++ name)).text = .ok shown ∧
      unschemeAndUnquote shown = .ok url ∧ url ≠ "" ∧
        UrlRuntime.urlsplit url = some ("http", resource.literal v ++ pathPart name) := by
  obtain ⟨front, hfront⟩ := resource.exists_literal v
  have hplain := resource.literal_plain v
  have hhttp : WebScheme "http".toList := List.mem_cons_self
  have hscheme : WebScheme (request.absoluteUrl (resource.literal v ++ name)).scheme.toList := by
    unfold Request.absoluteUrl WebScheme
    dsimp only
    split <;> decide
  generalize hrest : front ++ name.toList = rest
  have htext : (request.absoluteUrl (resource.literal v ++ name)).text =
      String.ofList (serverText (request.absoluteUrl (resource.literal v ++ name)).scheme.toList
        (request.host.getD UrlRuntime.server).toList ('/' :: rest)) := by
    rw [Url.text, ← hrest, ← List.cons_append, ← hfront, ← String.toList_append]
    rfl
  have hchars : ∀ c ∈ rest, c ≠ '?' ∧ c ≠ ';' := by
    intro c hc
    rw [← hrest, List.mem_append] at hc
    rcases hc with hc | hc
    · exact (hplain c (hfront ▸ List.mem_cons_of_mem _ hc)).1
    · exact hname c hc
  have hfragment : ∀ c ∈ fragmentOf rest, (c ≠ '?' ∧ c ≠ ';') ∧ unsafeChar c = false :=
    fun c hc => ⟨hchars c (mem_fragmentOf hc).1, (mem_fragmentOf hc).2⟩
  have hbefore : ∀ c ∈ beforeFragment rest, c ≠ '#' ∧ unsafeChar c = false :=
    fun c hc => (mem_beforeFragment hc).2
  have hpath : '/' :: beforeFragment rest = (resource.literal v ++ pathPart name).toList := by
    rw [← beforeFragment_slash, ← hrest, ← List.cons_append, ← hfront,
      beforeFragment_front (fun c hc => (hplain c hc).2.1), pathPart, String.toList_append,
      String.toList_ofList]
  have hquery : '?' ∉ '/' :: beforeFragment rest := by
    rw [List.mem_cons, not_or]
    exact ⟨by decide, fun h => (hchars _ (mem_beforeFragment h).1).1 rfl⟩
  rw [htext]
  refine ⟨_, _, schemeAndQuote_server hscheme request.netloc hchars,
    unschemeAndUnquote_server request.netloc hfragment, ?_, ?_⟩
  · intro hempty
    have hlist := congrArg String.toList hempty
    rw [String.toList_ofList] at hlist
    cases hlist
  · have hsplit := @urlsplit_server _ _ _ (beforeFragment rest ++ optionalPart '#' (fragmentOf rest))
      hhttp request.netloc
    rw [beforeFragment_slash, (beforeFragment_append hbefore (fun c hc => (hfragment c hc).2)).1,
      cut_of_not_mem hquery, hpath] at hsplit
    rw [UrlTexts.urlsplit_eq, String.toList_ofList, hsplit, Option.map_some]
    dsimp only
    rw [String.ofList_toList, String.ofList_toList]

end Shown

/-! ## The entries of the caches -/

section Caches

variable [UrlTexts]

/-- The URL was found for a request to the API with the key. -/
def UrlOfKey (key : UrlKey) (url : Url) : Prop :=
  ∃ (v : ApiVersion) (request : VersionRequest v) (name : String) (params : Params),
    request.urlKey name params = key ∧
      urlForSameApiPrefix request.toRequest name params = .ok url

/-- The name is the last segment of the path of the URL. -/
def NameOfUrl (url name : String) : Prop :=
  url ≠ "" → ∃ scheme path, UrlRuntime.urlsplit url = some (scheme, path) ∧ name = lastSegment path

structure Sound (caches : UrlCaches) : Prop where
  urls : ∀ entry ∈ caches.urls.entries, UrlOfKey entry.1 entry.2
  names : ∀ entry ∈ caches.names.entries, NameOfUrl entry.1.2 entry.2

theorem Sound.empty : Sound .empty := ⟨fun _ h => (nomatch h), fun _ h => (nomatch h)⟩

section Keeps

variable {caches : UrlCaches} (h : Sound caches)

include h

theorem Sound.touch_url {key : UrlKey} {url : Url} (hfind : caches.urls.find? key = some url) :
    Sound { caches with urls := caches.urls.touch key url hfind } :=
  ⟨fun e he => h.urls e (Cache.mem_touch (h := hfind) he), h.names⟩

theorem Sound.store_url {key : UrlKey} {url : Url} (hurl : UrlOfKey key url) :
    Sound { caches with urls := caches.urls.store key url } := by
  refine ⟨fun e he => ?_, h.names⟩
  rcases Cache.mem_store he with he | rfl
  · exact h.urls e he
  · exact hurl

theorem Sound.touch_name {key : String × String} {name : String}
    (hfind : caches.names.find? key = some name) :
    Sound { caches with names := caches.names.touch key name hfind } :=
  ⟨h.urls, fun e he => h.names e (Cache.mem_touch (h := hfind) he)⟩

theorem Sound.store_name {key : String × String} {name : String} (hname : NameOfUrl key.2 name) :
    Sound { caches with names := caches.names.store key name } := by
  refine ⟨h.urls, fun e he => ?_⟩
  rcases Cache.mem_store he with he | rfl
  · exact h.names e he
  · exact hname

end Keeps

variable {v : ApiVersion} (request : VersionRequest v)

theorem ensures_cachedUrlFor (name : String) (params : Params) :
    Ensures Sound (cachedUrlFor request.toRequest name params)
      (UrlOfKey (request.urlKey name params)) := by
  refine Ensures.throughCache (Ensures.lift ?_) ?_ ?_ ?_
  · exact fun url hurl => ⟨v, request, name, params, rfl, hurl⟩
  · exact fun caches url h hfind => h.urls _ (Cache.mem_of_find? hfind)
  · exact fun caches url hfind h => h.touch_url hfind
  · exact fun caches url h hurl => h.store_url hurl

theorem ensures_urlToName (objType url : String) :
    Ensures Sound (urlToName request.toRequest objType url) (NameOfUrl url) := by
  refine Ensures.throughCache ?_ ?_ ?_ ?_
  · unfold urlToNameBody
    split
    · next hempty => exact Ensures.lift (fun _ _ hne => absurd hempty hne)
    · split
      · exact Ensures.lift (fun _ h => nomatch h)
      · next scheme path hsplit =>
        split
        · exact Ensures.lift (fun _ h => nomatch h)
        · split
          · exact Ensures.lift (fun _ h => nomatch h)
          · next call _ =>
            refine Ensures.bind (ensures_cachedUrlFor request call.1 call.2) (fun calcUrl _ => ?_)
            split
            · exact Ensures.lift (fun _ h => nomatch h)
            · refine Ensures.lift (fun name h _ => ⟨scheme, path, hsplit, ?_⟩)
              exact (Except.ok.inj h).symm
  · exact fun caches name h hfind => h.names _ (Cache.mem_of_find? hfind)
  · exact fun caches name hfind h => h.touch_name hfind
  · exact fun caches name h hname => h.store_name hname

theorem ensures_urlToDn (directory : UserDirectory) (objType url : String) :
    Ensures Sound (urlToDn directory request.toRequest objType url) (fun _ => True) := by
  refine Ensures.throughCache ?_ (fun _ _ _ _ => trivial) (fun _ _ _ h => ⟨h.urls, h.names⟩)
    (fun _ _ h _ => ⟨h.urls, h.names⟩)
  unfold urlToDnBody
  refine Ensures.bind (ensures_urlToName request objType url) (fun name _ => ?_)
  have hlift : ∀ answer : Except UrlExc String,
      Ensures Sound (fun caches => (answer, caches)) (fun _ => True) :=
    fun answer => Ensures.lift (fun _ _ => trivial)
  split
  · exact hlift (.ok _)
  · split
    · split
      · exact hlift (.error _)
      · split
        · exact hlift (.ok _)
        · exact hlift (.error _)
    · exact hlift (.error _)

/-- The caches are sound after any calls for requests to the API. -/
theorem Reached.sound {caches : UrlCaches} (h : Reached caches) : Sound caches := by
  induction h with
  | empty => exact .empty
  | @call caches _ _ request directory call ih =>
    have hmap : ∀ {α : Type} {Q : α → Prop} {x : Stateful UrlCaches UrlExc α} (f : α → UrlAnswer),
        Ensures Sound x Q → Ensures Sound (f <$> x) (fun _ => True) := by
      intro α Q x f hx
      exact Ensures.bind hx (fun a _ => Ensures.lift (fun _ _ => trivial))
    cases call with
    | cachedUrlFor name params => exact (hmap _ (ensures_cachedUrlFor request name params) _ ih).1
    | urlToName objType url => exact (hmap _ (ensures_urlToName request objType url) _ ih).1
    | urlToDn objType url => exact (hmap _ (ensures_urlToDn request directory objType url) _ ih).1

end Caches

/-! ## The answers -/

theorem lastSegment_literal (resource : Resource) (v : ApiVersion) {name : String} (hne : name ≠ "")
    (hslash : '/' ∉ name.toList) : lastSegment (resource.literal v ++ name) = name := by
  have hfront : ∃ front, (resource.literal v).toList = front ++ ['/'] := by
    cases resource <;> cases v
    · exact ⟨"/ucsschool/kelvin/v1/users".toList, by decide⟩
    · exact ⟨"/ucsschool/kelvin/v2/users".toList, by decide⟩
    · exact ⟨"/ucsschool/kelvin/v1/schools".toList, by decide⟩
    · exact ⟨"/ucsschool/kelvin/v2/schools".toList, by decide⟩
  obtain ⟨front, hfront⟩ := hfront
  have hchars : ∀ c ∈ name.toList.reverse, decide (c ≠ '/') = true := by
    intro c hc
    exact decide_eq_true (fun heq => hslash (heq ▸ List.mem_reverse.mp hc))
  have hreverse : (resource.literal v ++ name).toList.reverse =
      name.toList.reverse ++ '/' :: front.reverse := by
    rw [String.toList_append, hfront]
    simp
  have hdrop : (name.toList.reverse ++ '/' :: front.reverse).dropWhile (fun c => c = '/') =
      name.toList.reverse ++ '/' :: front.reverse := by
    cases hname : name.toList.reverse with
    | nil =>
      rw [List.reverse_eq_nil_iff] at hname
      exact absurd (String.toList_inj.mp hname) hne
    | cons c rest =>
      have hc : c ≠ '/' := of_decide_eq_true (hchars c (hname ▸ List.mem_cons_self))
      rw [List.cons_append, List.dropWhile_cons, decide_eq_false hc]
      rfl
  rw [lastSegment, hreverse, hdrop, List.takeWhile_append_of_pos hchars, List.takeWhile_cons]
  simp

theorem mem_lastSegment {path : String} {c : Char} (h : c ∈ (lastSegment path).toList) :
    c ∈ path.toList := by
  rw [lastSegment, String.toList_ofList, List.mem_reverse] at h
  have hmem := (List.dropWhile_sublist _).subset ((List.takeWhile_sublist _).subset h)
  exact List.mem_reverse.mp hmem

theorem restPath_literal (resource : Resource) (v : ApiVersion) {name : String}
    (hname : ∀ c ∈ name.toList, c ∉ ['?', '#', '\t', '\r', '\n']) :
    restPath (resource.literal v ++ name) = resource.literal v ++ name := by
  have hliteral : ∀ c ∈ (resource.literal v).toList, c ∉ ['?', '#', '\t', '\r', '\n'] := by
    rw [← List.forall_iff_forall_mem]
    cases resource <;> cases v <;> decide
  have hall : ∀ c ∈ (resource.literal v ++ name).toList, c ∉ ['?', '#', '\t', '\r', '\n'] := by
    intro c hc
    rw [String.toList_append, List.mem_append] at hc
    exact hc.elim (hliteral c) (hname c)
  have hfilter : (resource.literal v ++ name).toList.filter (fun c => c ∉ ['\t', '\r', '\n']) =
      (resource.literal v ++ name).toList := by
    refine List.filter_eq_self.mpr (fun c hc => decide_eq_true (fun hmem => hall c hc ?_))
    exact List.mem_cons_of_mem _ (List.mem_cons_of_mem _ hmem)
  have htake : ∀ c ∈ (resource.literal v ++ name).toList, decide (c ≠ '?' ∧ c ≠ '#') = true := by
    intro c hc
    refine decide_eq_true ⟨?_, ?_⟩
    · rintro rfl
      exact hall _ hc List.mem_cons_self
    · rintro rfl
      exact hall _ hc (List.mem_cons_of_mem _ List.mem_cons_self)
  rw [restPath, hfilter, List.takeWhile_eq_self_iff.mpr htake, String.ofList_toList]

theorem sortedParams_single {params : Params} {p : String × String}
    (h : sortedParams params = sortedParams [p]) : params = [p] := by
  have hperm : params.Perm [p] := by
    have hleft : (sortedParams params).Perm params := List.perm_insertionSort _ params
    exact hleft.symm.trans (h ▸ List.perm_insertionSort _ [p])
  exact List.perm_singleton.mp hperm

section Answering

variable [UrlTexts] {v : ApiVersion} (request : VersionRequest v) (resource : Resource)

/-- A URL that was kept for the key of a resource is its URL for the request. -/
theorem urlOfKey_resource {name : String} {url : Url}
    (h : UrlOfKey (request.urlKey resource.route [(resource.param, name)]) url) :
    urlForSameApiPrefix request.toRequest resource.route [(resource.param, name)] = .ok url := by
  obtain ⟨v', request', name', params, hkey, hurl⟩ := h
  obtain ⟨rfl, hscheme, hhost, hsignature, hparams⟩ := UrlKey.mk.inj hkey
  obtain rfl := sortedParams_single hparams
  have hroute := request'.route_starts
  rw [show request'.routeSignature = request.routeSignature from hsignature] at hroute
  obtain rfl := ApiVersion.eq_of_front hroute request.route_starts
  rw [urlForSameApiPrefix_resource] at hurl ⊢
  rw [← hurl]
  have habsolute : request.absoluteUrl (resource.literal v' ++ name) =
      request'.absoluteUrl (resource.literal v' ++ name) := by
    have hscheme' : (request'.absoluteUrl "/").scheme = (request.absoluteUrl "/").scheme := hscheme
    unfold Request.absoluteUrl at hscheme' ⊢
    dsimp only at hscheme'
    rw [hscheme', show request'.host = request.host from hhost]
  rw [habsolute]

theorem answers_cachedUrlFor (name : String) :
    Answers Sound (cachedUrlFor request.toRequest resource.route [(resource.param, name)])
      (urlForSameApiPrefix request.toRequest resource.route [(resource.param, name)]) := by
  refine Answers.throughCache (Answers.lift _) ?_ ?_ ?_
  · exact fun caches url h hfind => urlOfKey_resource request resource
      (h.urls _ (Cache.mem_of_find? hfind))
  · exact fun caches url hfind h => h.touch_url hfind
  · exact fun caches url h hurl => h.store_url ⟨v, request, _, _, rfl, hurl⟩

/-- The URL that is shown, whatever is in the caches. -/
theorem answers_shownUrl (name : String) :
    Answers Sound (shownUrl request.toRequest resource name)
      (urlForSameApiPrefix request.toRequest resource.route [(resource.param, name)] >>=
        fun url => schemeAndQuote url.text) :=
  Answers.bind (answers_cachedUrlFor request resource name) (fun _ _ => Answers.lift _)

/-- The end of `url_to_name`, for a URL of a resource. -/
def checkedName (resource : Resource) (v : ApiVersion) (url name : String) (calcUrl : Url) :
    Except UrlExc String :=
  if resource.literal v ++ name ≠ calcUrl.path then
    .error (.noObject (noObjectMessage resource.objType url))
  else .ok name

/-- A URL whose path ends with a plain name is read as the name, whatever is in the caches. -/
theorem answers_urlToName {url name : String} (hurl : url ≠ "") (hne : name ≠ "")
    (hname : ∀ c ∈ name.toList, c ∉ ['/', '?', '#', '\t', '\r', '\n'])
    (hsplit : UrlRuntime.urlsplit url = some ("http", resource.literal v ++ name)) :
    Answers Sound (urlToName request.toRequest resource.objType url) (.ok name) := by
  have hslash : '/' ∉ name.toList := fun h => hname _ h List.mem_cons_self
  have hlast := lastSegment_literal resource v hne hslash
  have hroute : objectRoute resource.objType name =
      some (resource.route, [(resource.param, name)]) := by
    cases resource <;> rfl
  have hcalc : urlForSameApiPrefix request.toRequest resource.route [(resource.param, name)] =
      .ok (request.absoluteUrl (resource.literal v ++ name)) := by
    rw [urlForSameApiPrefix_resource, if_neg (not_or.mpr ⟨hne, hslash⟩)]
  refine Answers.throughCache ?_ ?_ ?_ ?_
  · have hfound : (urlForSameApiPrefix request.toRequest resource.route [(resource.param, name)] >>=
        checkedName resource v url name) = .ok name := by
      have hpath : resource.literal v ++ name = (request.absoluteUrl
          (resource.literal v ++ name)).path :=
        (restPath_literal resource v (fun c hc h => hname c hc (List.mem_cons_of_mem _ h))).symm
      rw [hcalc]
      exact if_neg (not_not.mpr hpath)
    unfold urlToNameBody
    rw [if_neg hurl, hsplit, ← hfound]
    dsimp only
    rw [if_neg (by decide), hlast, hroute]
    refine Answers.bind (answers_cachedUrlFor request resource name) (fun calcUrl _ => ?_)
    by_cases hpath : resource.literal v ++ name ≠ calcUrl.path
    · dsimp only [checkedName]
      rw [if_pos hpath, if_pos hpath]
      exact Answers.lift (.error _)
    · dsimp only [checkedName]
      rw [if_neg hpath, if_neg hpath]
      exact Answers.lift (.ok _)
  · intro caches kept h hfind
    obtain ⟨scheme, path, hsplit', rfl⟩ := h.names _ (Cache.mem_of_find? hfind) hurl
    rw [hsplit] at hsplit'
    obtain ⟨-, rfl⟩ := Prod.mk.inj (Option.some.inj hsplit')
    rw [hlast]
  · exact fun caches kept hfind h => h.touch_name hfind
  · intro caches kept h hkept
    obtain rfl := Except.ok.inj hkept
    exact h.store_name (fun _ => ⟨_, _, hsplit, hlast.symm⟩)

end Answering

/-! ## The names that the lib accepts -/

section Accepted

variable [WordChars]

theorem uidMatches_chars {text : List Char} (h : uidRegex.Matches text ∨ wordRegex.Matches text) :
    ∀ c ∈ text, uidChar c = true ∨ c = '\n' := by
  have hword : ∀ c, WordChars.isWord c = true → uidChar c = true ∨ c = '\n' := by
    intro c hc
    rw [uidChar, hc]
    exact .inl rfl
  have hend : ∀ {rest : List Char}, rest = [] ∨ rest = ['\n'] → ∀ c ∈ rest, c = '\n' := by
    rintro rest (rfl | rfl) c hc
    · cases hc
    · exact List.mem_singleton.mp hc
  intro c hmem
  rcases h with h | h
  · obtain ⟨_, hrest⟩ := Regex.matches_iff.mp h
    simp only [uidRegex, Regex.mem_rests_seq, Regex.mem_rests_one, Regex.mem_rests_many,
      Regex.mem_rests_lineEnd] at hrest
    obtain ⟨_, ⟨a, ha, rfl⟩, _, ⟨inner, rfl, hinner⟩, rest, ⟨b, hb, rfl⟩, -, hlast⟩ := hrest
    simp only [List.mem_cons, List.mem_append] at hmem
    rcases hmem with rfl | hmem | rfl | hmem
    · exact hword _ ha
    · exact .inl (hinner c hmem)
    · exact hword _ hb
    · exact .inr (hend hlast c hmem)
  · obtain ⟨_, hrest⟩ := Regex.matches_iff.mp h
    simp only [wordRegex, Regex.mem_rests_seq, Regex.mem_rests_many,
      Regex.mem_rests_lineEnd] at hrest
    obtain ⟨rest, ⟨front, rfl, hfront⟩, -, hlast⟩ := hrest
    rcases List.mem_append.mp hmem with hmem | hmem
    · exact hword c (hfront c hmem)
    · exact .inr (hend hlast c hmem)

/-- No accepted name has a character with which a path, its query or its parameters begin. -/
theorem accepted_chars [Runtime] [DnEscaping] {windowsCheck : Bool} {resource : Resource}
    {name : String} (h : resource.Accepted windowsCheck name) :
    ∀ c ∈ name.toList, c ∉ ['/', '?', ';', '\t', '\r'] := by
  cases resource with
  | user =>
    change (UidUmlauts.parse name >>= fun _ => _) = .ok () at h
    obtain ⟨⟨⟩, hparse, -⟩ := bind_eq_ok.mp h
    unfold UidUmlauts.parse at hparse
    simp only [check, require_bind_eq_ok, require_eq_ok] at hparse
    have hsigns : ∀ c ∈ ['/', '?', ';', '\t', '\r'], c.toNat < 128 ∧
        (asciiAlnum c || c == '_') = false ∧ (' ' ≤ c && c ≤ '.') = false ∧ c ≠ '\n' :=
      List.forall_iff_forall_mem.mp (by decide)
    intro c hc hsign
    obtain ⟨hascii, hword, hrange, hfeed⟩ := hsigns c hsign
    rcases uidMatches_chars hparse.2 c hc with hchar | hchar
    · rw [uidChar, WordChars.isWord_ascii c hascii, hword, hrange] at hchar
      cases hchar
    · exact hfeed hchar
  | school =>
    obtain ⟨text, htext, hline⟩ := schoolName_valid_iff.mp h
    have hsigns : ∀ c ∈ ['/', '?', ';', '\t', '\r'], schoolNameChar c = false ∧ c ≠ '\n' :=
      List.forall_iff_forall_mem.mp (by decide)
    have hchars := htext.chars
    rw [String.toList_ofList] at hchars
    intro c hc hsign
    obtain ⟨hchar, hfeed⟩ := hsigns c hsign
    have hmem : c ∈ text := by
      rcases hline with heq | heq
      · exact heq ▸ hc
      · rw [heq, List.mem_append, List.mem_singleton] at hc
        exact hc.resolve_right hfeed
    rw [hchars c hmem] at hchar
    cases hchar

end Accepted

/-! ## The names that are read back -/

section Main

variable [UrlTexts] [WordChars] [DnEscaping] {v : ApiVersion} {request request' : VersionRequest v}
  {caches caches' : UrlCaches} {resource : Resource} {windowsCheck : Bool} {name name' : String}

/-- The URL of an accepted name is read as the name if and only if the name is plain. -/
theorem readBack_iff (hcaches : Reached caches) (hcaches' : Reached caches')
    (h : resource.Accepted windowsCheck name) :
    ReadBack request request' caches caches' resource name ↔ PlainName name := by
  have hchars : ∀ c ∈ name.toList, c ≠ '/' ∧ c ≠ '?' ∧ c ≠ ';' ∧ c ≠ '\t' ∧ c ≠ '\r' := by
    simpa only [List.mem_cons, List.not_mem_nil, or_false, not_or] using accepted_chars h
  have hslash : '/' ∉ name.toList := fun hc => (hchars _ hc).1 rfl
  have hshown := (answers_shownUrl request resource name caches hcaches.sound).1
  rw [urlForSameApiPrefix_resource] at hshown
  by_cases hempty : name = ""
  · rw [if_pos (.inl hempty)] at hshown
    constructor
    · rintro ⟨url, hurl, -⟩
      rw [hshown] at hurl
      cases hurl
    · exact fun hplain => absurd hempty hplain.1
  rw [if_neg (not_or.mpr ⟨hempty, hslash⟩)] at hshown
  obtain ⟨shown, url, hquote, hunquote, hne, hsplit⟩ := @exists_read _ v request resource name
    (fun c hc => ⟨(hchars c hc).2.1, (hchars c hc).2.2.1⟩)
  have hread : readName request'.toRequest resource shown =
      urlToName request'.toRequest resource.objType url := by
    change ((fun caches => (unschemeAndUnquote shown, caches)) >>= _ : Stateful _ _ _) = _
    rw [hunquote]
    rfl
  change _ = schemeAndQuote _ at hshown
  rw [hquote] at hshown
  constructor
  · rintro ⟨url', hurl, hname⟩
    obtain rfl := Except.ok.inj (hshown.symm.trans hurl)
    rw [hread] at hname
    obtain ⟨scheme, path, hsplit', hlast⟩ :=
      (ensures_urlToName request' _ _ caches' hcaches'.sound).2 name hname hne
    rw [hsplit] at hsplit'
    obtain ⟨-, rfl⟩ := Prod.mk.inj (Option.some.inj hsplit')
    have hsegment : ∀ c ∈ name.toList, c ≠ '#' ∧ c ≠ '\n' := by
      intro c hc
      rw [hlast] at hc
      have hpath := mem_lastSegment hc
      rw [String.toList_append, List.mem_append] at hpath
      rcases hpath with hliteral | hpart
      · exact ⟨(resource.literal_plain v c hliteral).2.1.1, (resource.literal_plain v c hliteral).2.2⟩
      · rw [pathPart, String.toList_ofList] at hpart
        obtain ⟨-, hhash, hsafe⟩ := mem_beforeFragment hpart
        refine ⟨hhash, ?_⟩
        rintro rfl
        cases hsafe
    exact ⟨hempty, fun hc => (hsegment _ hc).1 rfl, fun hc => (hsegment _ hc).2 rfl⟩
  · rintro ⟨-, hhash, hfeed⟩
    have hsafe : ∀ c ∈ name.toList, c ≠ '#' ∧ unsafeChar c = false := by
      intro c hc
      refine ⟨fun heq => hhash (heq ▸ hc), ?_⟩
      obtain ⟨-, -, -, htab, hreturn⟩ := hchars c hc
      have hnewline : c ≠ '\n' := fun heq => hfeed (heq ▸ hc)
      simp [unsafeChar, htab, hreturn, hnewline]
    have hpart : pathPart name = name := by
      rw [pathPart, beforeFragment_eq_self hsafe, String.ofList_toList]
    rw [hpart] at hsplit
    refine ⟨shown, hshown, ?_⟩
    rw [hread]
    refine (answers_urlToName request' resource hne hempty ?_ hsplit caches' hcaches'.sound).1
    intro c hc hmem
    simp only [List.mem_cons, List.not_mem_nil, or_false] at hmem
    obtain ⟨-, hquery, -, htab, hreturn⟩ := hchars c hc
    rcases hmem with rfl | rfl | rfl | rfl | rfl | rfl
    · exact hslash hc
    · exact hquery rfl
    · exact hhash hc
    · exact htab rfl
    · exact hreturn rfl
    · exact hfeed hc

/-- The URLs of two accepted names are read as the names, and differ if these do, if and only if the
names are plain. -/
theorem resourceUrls_iff (hcaches : Reached caches) (hcaches' : Reached caches')
    (h : resource.Accepted windowsCheck name) (h' : resource.Accepted windowsCheck name') :
    ResourceUrls request request' caches caches' resource name name' ↔
      PlainName name ∧ PlainName name' := by
  rw [← readBack_iff hcaches hcaches' h, ← readBack_iff hcaches hcaches' h']
  constructor
  · exact fun hurls => ⟨hurls.first, hurls.second⟩
  · rintro ⟨⟨url, hshown, hread⟩, url', hshown', hread'⟩
    refine ⟨⟨url, hshown, hread⟩, ⟨url', hshown', hread'⟩, fun heq => ?_⟩
    rw [hshown, hshown'] at heq
    obtain rfl := Except.ok.inj heq
    exact Except.ok.inj (hread.symm.trans hread')

end Main

/-! ## A request -/

def umlauts : List Char := ['ä', 'ö', 'ü', 'Ä', 'Ö', 'Ü', 'ß']

theorem umlauts_not_ascii : ∀ c ∈ umlauts, ¬ c.toNat < 128 :=
  List.forall_iff_forall_mem.mp (by decide)

theorem germanWords_ascii (c : Char) (h : c.toNat < 128) :
    (asciiAlnum c || c == '_' || decide (c ∈ umlauts)) = (asciiAlnum c || c == '_') := by
  rw [decide_eq_false (fun hmem => umlauts_not_ascii c hmem h), Bool.or_false]

/-- ASCII letters, digits and umlauts. -/
@[reducible] def germanWords : WordChars where
  isWord c := asciiAlnum c || c == '_' || decide (c ∈ umlauts)
  isWord_ascii := germanWords_ascii

/-- A location without brackets. -/
@[reducible] def plainNetlocs : NetlocSyntax where
  validNetloc netloc := netloc.all (fun c => c ≠ '[' && c ≠ ']')

section Concrete

attribute [local instance] plainNetlocs asciiRuntime pythonEscaping germanWords

@[reducible] def serverUrls : UrlTexts where
  urlsplit text := (Kelvin.urlsplit text.toList).map (fun up =>
    (String.ofList up.scheme, String.ofList up.path))
  reprUrl text := "URL(" ++ Runtime.repr text ++ ")"
  server := "localhost"
  ldapBase := "dc=school"
  urlsplit_eq _ := rfl

attribute [local instance] serverUrls

theorem userPath_starts : ApiVersion.v1.front <+: pathSegments "/ucsschool/kelvin/v1/users/anna" := by
  decide

theorem userRoute_starts :
    ApiVersion.v1.front <+: pathSegments "/ucsschool/kelvin/v1/users/\x7busername\x7d" := by
  decide

theorem schoolHost_isNetloc : IsNetloc "kelvin.school".toList :=
  ⟨by decide, List.forall_iff_forall_mem.mp (by decide), by decide⟩

/-- A request for a user. -/
def userRequest : VersionRequest .v1 where
  scheme := "http"
  host := some "kelvin.school"
  path := "/ucsschool/kelvin/v1/users/anna"
  route := some "/ucsschool/kelvin/v1/users/\x7busername\x7d"
  path_starts := userPath_starts
  route_starts := userRoute_starts
  netloc := schoolHost_isNetloc

theorem names_accepted : ∀ name ∈ ["anna", "jürgen.50%x", "a#b"],
    Resource.user.Accepted true name := by
  intro name hname
  simp only [List.mem_cons, List.not_mem_nil, or_false] at hname
  rcases hname with rfl | rfl | rfl
  · rfl
  · rfl
  · rfl

theorem resourceUrls_users : ResourceUrls userRequest userRequest .empty .empty .user "anna"
    "jürgen.50%x" ↔ PlainName "anna" ∧ PlainName "jürgen.50%x" :=
  resourceUrls_iff .empty .empty (names_accepted "anna" (by simp))
    (names_accepted "jürgen.50%x" (by simp))

/-- The text after the number sign is not in the path of the URL. -/
theorem numberSign_not_read : ∃ name, Resource.user.Accepted true name ∧
    ¬ ReadBack userRequest userRequest .empty .empty .user name := by
  have haccepted := names_accepted "a#b" (by simp)
  refine ⟨_, haccepted, fun hread => ?_⟩
  obtain ⟨-, hhash, -⟩ := (readBack_iff .empty .empty haccepted).mp hread
  exact hhash (by decide)

end Concrete

end Kelvin
