import Kelvin.Data.Caching
import Kelvin.Data.Text
import Kelvin.Objects.Runtime

/-!
# URLs of objects

`urls.py`: the URL of a route for the API version of a request, the name of an object by its URL,
and the DN of an object by its URL. All three are kept in caches of the process, whose keys leave
out most of the request.

* `kelvinRoutes`: the routes of the application, in their order.
* `urlForSameApiPrefix`, `urlToNameBody`, `urlToDnBody`: the functions without the caches.
* `cachedUrlFor`, `urlToName`, `urlToDn`: the cached functions.
* `cachedRun`, `uncachedRun`: what a sequence of calls and changes of the directory answers.
-/

namespace Kelvin

/-! ## Paths and routes -/

/-- The parts of a path that are not empty. -/
def pathSegments (path : String) : List (List Char) :=
  (path.toList.splitOn '/').filter (· ≠ [])

/-- The number of equal elements at the front of two lists. -/
def commonLength {α : Type*} [DecidableEq α] : List α → List α → Nat
  | a :: as, b :: bs => if a = b then commonLength as bs + 1 else 0
  | _, _ => 0

/-- `_matching_path_segments`. -/
def matchingPathSegments (pathA pathB : String) : Nat :=
  commonLength (pathSegments pathA) (pathSegments pathB)

/-- Keyword arguments in the order of a call. -/
abbrev Params := List (String × String)

/-- A route of the application, by the text before its first parameter and its parameters, between
which slashes stand. -/
structure Route where
  name : String
  literal : String
  params : List String
  mounted : Bool
deriving DecidableEq

def braced (param : String) : String := "\x7b" ++ param ++ "\x7d"

/-- `path_format`. -/
def Route.format (route : Route) : String :=
  route.literal ++ String.intercalate "/" (route.params.map braced)

section RouteTable

/-- The routes of objects that are addressed by some parameters. -/
def searchAndGet (base : String) (params : List String) : List Route :=
  [⟨"search", base, [], false⟩, ⟨"get", base, params, false⟩]

def writeRoutes (base : String) (params : List String) : List Route :=
  [⟨"create", base, [], false⟩, ⟨"partial_update", base, params, false⟩,
    ⟨"complete_update", base, params, false⟩, ⟨"delete", base, params, false⟩]

/-- The versioned routes of `doc.py`. -/
def docRoutes (version : String) : List Route :=
  [⟨"swagger_ui_html_versioned", version ++ "/docs", [], false⟩,
    ⟨"redoc_html_versioned", version ++ "/redoc", [], false⟩,
    ⟨"get_history", version ++ "/changelog", [], false⟩,
    ⟨"get_readme", version ++ "/readme", [], false⟩,
    ⟨"openapi_versioned", version ++ "/openapi.json", [], false⟩]

def v1Routes : List Route :=
  searchAndGet "/ucsschool/kelvin/v1/classes/" ["school", "class_name"] ++
    writeRoutes "/ucsschool/kelvin/v1/classes/" ["school", "class_name"] ++
    searchAndGet "/ucsschool/kelvin/v1/workgroups/" ["school", "workgroup_name"] ++
    writeRoutes "/ucsschool/kelvin/v1/workgroups/" ["school", "workgroup_name"] ++
    searchAndGet "/ucsschool/kelvin/v1/roles/" ["role_name"] ++
    [⟨"school_search", "/ucsschool/kelvin/v1/schools/", [], false⟩,
      ⟨"school_get", "/ucsschool/kelvin/v1/schools/", ["school_name"], false⟩,
      ⟨"school_create", "/ucsschool/kelvin/v1/schools/", [], false⟩,
      ⟨"school_exists", "/ucsschool/kelvin/v1/schools/", ["school_name"], false⟩] ++
    searchAndGet "/ucsschool/kelvin/v1/users/" ["username"] ++
    writeRoutes "/ucsschool/kelvin/v1/users/" ["username"] ++
    docRoutes "/ucsschool/kelvin/v1"

def v2Routes : List Route :=
  searchAndGet "/ucsschool/kelvin/v2/classes/" ["school", "class_name"] ++
    searchAndGet "/ucsschool/kelvin/v2/workgroups/" ["school", "workgroup_name"] ++
    searchAndGet "/ucsschool/kelvin/v2/roles/" ["role_name"] ++
    [⟨"search", "/ucsschool/kelvin/v2/schools/", [], false⟩,
      ⟨"school_get", "/ucsschool/kelvin/v2/schools/", ["school_name"], false⟩,
      ⟨"school_exists", "/ucsschool/kelvin/v2/schools/", ["school_name"], false⟩] ++
    searchAndGet "/ucsschool/kelvin/v2/users/" ["username"] ++
    docRoutes "/ucsschool/kelvin/v2"

/-- `app.router.routes` of `main.py`. -/
def kelvinRoutes : List Route :=
  [⟨"health", "/health", [], false⟩,
    ⟨"login_for_access_token", "/ucsschool/kelvin/token", [], false⟩,
    ⟨"swagger_ui_redirect", "/docs/oauth2-redirect", [], false⟩] ++ v1Routes ++ v2Routes ++
    [⟨"swagger_ui_html_service", "/ucsschool/kelvin/docs", [], false⟩,
      ⟨"redoc_html_service", "/ucsschool/kelvin/redoc", [], false⟩,
      ⟨"docs_redirect", "/ucsschool/kelvin", [], false⟩,
      ⟨"openapi_v1", "/ucsschool/kelvin/openapi-v1.json", [], false⟩,
      ⟨"openapi_v2", "/ucsschool/kelvin/openapi-v2.json", [], false⟩,
      ⟨"static", "/ucsschool/kelvin/v1/static/", ["path"], true⟩,
      ⟨"static_v2", "/ucsschool/kelvin/v2/static/", ["path"], true⟩]

end RouteTable

/-- `text.replace(pattern, value)`, with the number of characters that are still to be skipped. -/
def replaceFrom (pattern value : List Char) : Nat → List Char → List Char
  | _, [] => []
  | skip + 1, _ :: cs => replaceFrom pattern value skip cs
  | 0, c :: cs =>
    if pattern.isPrefixOf (c :: cs) then value ++ replaceFrom pattern value (pattern.length - 1) cs
    else c :: replaceFrom pattern value 0 cs

/-- The exceptions of these functions. -/
inductive UrlExc where
  | noMatchFound (name : String) (params : Params)
  | assertionError
  | valueError
  | noObject (message : String)
  | runtimeError (message : String)
  | notImplementedError (message : String)
deriving DecidableEq

/-- One parameter of a format replaced by its value. The value of a parameter of a route is not
empty and without slashes; that of a mounted application is any path. -/
def replaceParam (mounted : Bool) (path : String) (param : String × String) :
    Except UrlExc String :=
  if ¬ mounted ∧ (param.2 = "" ∨ '/' ∈ param.2.toList) then .error .assertionError
  else
    let value := if mounted then param.2.toList.dropWhile (· = '/') else param.2.toList
    .ok (String.ofList (replaceFrom (braced param.1).toList value 0 path.toList))

/-- The route has the name and the parameters. -/
def Route.Fits (route : Route) (name : String) (params : Params) : Prop :=
  name = route.name ∧ (∀ p ∈ params, p.1 ∈ route.params) ∧
    ∀ param ∈ route.params, param ∈ params.map Prod.fst

instance (route : Route) (name : String) (params : Params) : Decidable (route.Fits name params) :=
  inferInstanceAs (Decidable (_ ∧ _ ∧ _))

/-- `route.url_path_for(name, **path_params)`. -/
def Route.urlPathFor (params : Params) (route : Route) : Except UrlExc String :=
  params.foldlM (replaceParam route.mounted) route.format

/-! ## URLs of routes -/

class UrlRuntime extends Runtime where
  /-- The scheme and the path of a URL text; a `ValueError` is `none`. -/
  urlsplit : String → Option (String × String)
  /-- `repr(URL(text))`. -/
  reprUrl : String → String
  /-- The address of the server, for requests without a host header. -/
  server : String
  /-- `ldap/base`. -/
  ldapBase : String

/-- A URL of the server, with all that follows the host as one text. -/
structure Url where
  scheme : String
  netloc : String
  rest : String
deriving DecidableEq

/-- The path in the text after the host, as `urlsplit` finds it. -/
def restPath (rest : String) : String :=
  String.ofList ((rest.toList.filter (fun c => c ∉ ['\t', '\r', '\n'])).takeWhile
    (fun c => c ≠ '?' ∧ c ≠ '#'))

def Url.path (url : Url) : String := restPath url.rest

/-- What the functions read of a request. The route is given by its `path_format`. -/
structure Request where
  scheme : String
  host : Option String
  path : String
  route : Option String

/-- `_request_route_signature`. -/
def Request.routeSignature (request : Request) : String := request.route.getD request.path

/-- One turn of the loop over the routes: the better of two URLs, by their matching segments. -/
def betterUrl (requestPath : String) (best : Option (Nat × String)) (rest : String) :
    Option (Nat × String) :=
  let score := matchingPathSegments requestPath (restPath rest)
  match best with
  | none => some (score, rest)
  | some b => if b.1 < score then some (score, rest) else some b

/-- The URL with the best score, by its text after the host. -/
def bestUrl (requestPath : String) (rests : List String) : Option String :=
  (rests.foldl (betterUrl requestPath) none).map Prod.snd

section Urls

variable [UrlRuntime]

/-- `make_absolute_url(base_url=request.base_url)`. -/
def Request.absoluteUrl (request : Request) (rest : String) : Url where
  scheme := if request.scheme ∈ ["https", "wss"] then "https" else "http"
  netloc := request.host.getD UrlRuntime.server
  rest := rest

/-- `_url_for_same_api_prefix`. -/
def urlForSameApiPrefix (request : Request) (name : String) (params : Params) :
    Except UrlExc Url := do
  let rests ← (kelvinRoutes.filter (·.Fits name params)).mapM (Route.urlPathFor params)
  match bestUrl request.path rests with
  | some rest => .ok (request.absoluteUrl rest)
  | none => .error (.noMatchFound name params)

/-! ## Names and DNs -/

/-- `path.rstrip("/").split("/")[-1]`. -/
def lastSegment (path : String) : String :=
  String.ofList (((path.toList.reverse.dropWhile (· = '/')).takeWhile (· ≠ '/')).reverse)

/-- The route and the parameters that the URL of an object is calculated with. -/
def objectRoute (objType name : String) : Option (String × Params) :=
  if objType = "school" then some ("school_get", [("school_name", name)])
  else if objType = "user" then some ("get", [("username", name)])
  else if objType = "role" then some ("get", [("role_name", name)])
  else none

def noObjectMessage (objType url : String) : String :=
  "Could not find object of type " ++ Runtime.repr objType ++ " with " ++ UrlRuntime.reprUrl url ++
    "."

/-- The body of `url_to_name`, for some way to get the URL of a route. -/
def urlToNameBody {m : Type → Type} [Monad m] [MonadExceptOf UrlExc m]
    (urlFor : String → Params → m Url) (objType url : String) : m String :=
  if url = "" then pure url
  else
    match UrlRuntime.urlsplit url with
    | none => throw .valueError
    | some (scheme, path) =>
      if scheme = "https" then
        throw (.runtimeError ("Missed unscheme_and_unquote() for " ++ UrlRuntime.reprUrl url ++ "."))
      else
        match objectRoute objType (lastSegment path) with
        | none => throw (.noObject (noObjectMessage objType url))
        | some call => do
          let calcUrl ← urlFor call.1 call.2
          if path ≠ calcUrl.path then throw (.noObject (noObjectMessage objType url))
          else pure (lastSegment path)

/-- The DNs that a search for a user name finds. -/
abbrev UserDirectory := String → List String

/-- `get_dn_of_user`. -/
def getDnOfUser (directory : UserDirectory) (username : String) : Except UrlExc String :=
  match directory username with
  | [] => .ok ""
  | [dn] => .ok dn
  | _ => .error (.runtimeError "More than 1 result when searching LDAP")

/-- The body of `url_to_dn`, for some way to get the name. -/
def urlToDnBody {m : Type → Type} [Monad m] [MonadExceptOf UrlExc m]
    (toName : String → String → m String) (directory : UserDirectory) (objType url : String) :
    m String := do
  let name ← toName objType url
  if objType = "school" then pure ("ou=" ++ name ++ "," ++ UrlRuntime.ldapBase)
  else if objType = "user" then
    match getDnOfUser directory name with
    | .error e => throw e
    | .ok dn =>
      if dn ≠ "" then pure dn
      else throw (.noObject ("Could not find object of type " ++ Runtime.repr objType ++
        " with URL " ++ Runtime.repr url ++ "."))
  else throw (.notImplementedError ("Don't know how to create DN for obj_type " ++
    Runtime.repr objType ++ "."))

/-! ## Caches -/

/-- The key of `cached_url_for`. -/
structure UrlKey where
  name : String
  scheme : String
  host : Option String
  routeSignature : String
  params : Params
deriving DecidableEq

/-- `tuple(sorted(path_params.items()))`. -/
def sortedParams (params : Params) : Params :=
  params.insertionSort (fun a b => a.1 < b.1 ∨ (a.1 = b.1 ∧ a.2 ≤ b.2))

def Request.urlKey (request : Request) (name : String) (params : Params) : UrlKey where
  name := name
  scheme := (request.absoluteUrl "/").scheme
  host := request.host
  routeSignature := request.routeSignature
  params := sortedParams params

/-- The caches of the three functions. -/
structure UrlCaches where
  urls : Cache UrlKey Url 10240
  names : Cache (String × String) String 10240
  dns : Cache (String × String) String 10240

def UrlCaches.empty : UrlCaches := ⟨.empty, .empty, .empty⟩

/-- `cached_url_for`. -/
def cachedUrlFor (request : Request) (name : String) (params : Params) :
    Stateful UrlCaches UrlExc Url :=
  throughCache UrlCaches.urls (fun urls caches => { caches with urls := urls })
    (request.urlKey name params)
    (fun caches => (urlForSameApiPrefix request name params, caches))

/-- `url_to_name`. -/
def urlToName (request : Request) (objType url : String) : Stateful UrlCaches UrlExc String :=
  throughCache UrlCaches.names (fun names caches => { caches with names := names }) (objType, url)
    (urlToNameBody (cachedUrlFor request) objType url)

/-- `url_to_dn`. -/
def urlToDn (directory : UserDirectory) (request : Request) (objType url : String) :
    Stateful UrlCaches UrlExc String :=
  throughCache UrlCaches.dns (fun dns caches => { caches with dns := dns }) (objType, url)
    (urlToDnBody (urlToName request) directory objType url)

/-! ## Runs -/

inductive UrlCall where
  | cachedUrlFor (name : String) (params : Params)
  | urlToName (objType url : String)
  | urlToDn (objType url : String)
deriving DecidableEq

inductive UrlAnswer where
  | url (u : Url)
  | text (s : String)
deriving DecidableEq

/-- A call for a request, or another content of the directory. -/
inductive UrlEvent where
  | call (request : Request) (call : UrlCall)
  | change (directory : UserDirectory)

/-- What a call answers from the caches. -/
def UrlCall.answer (directory : UserDirectory) (request : Request) :
    UrlCall → Stateful UrlCaches UrlExc UrlAnswer
  | cachedUrlFor name params => .url <$> Kelvin.cachedUrlFor request name params
  | urlToName objType url => .text <$> Kelvin.urlToName request objType url
  | urlToDn objType url => .text <$> Kelvin.urlToDn directory request objType url

/-- `url_to_name` without caches. -/
def freshName (request : Request) (objType url : String) : Except UrlExc String :=
  urlToNameBody (urlForSameApiPrefix request) objType url

/-- `url_to_dn` without caches. -/
def freshDn (directory : UserDirectory) (request : Request) (objType url : String) :
    Except UrlExc String :=
  urlToDnBody (freshName request) directory objType url

/-- What a call answers without caches. -/
def UrlCall.freshAnswer (directory : UserDirectory) (request : Request) :
    UrlCall → Except UrlExc UrlAnswer
  | cachedUrlFor name params => .url <$> urlForSameApiPrefix request name params
  | urlToName objType url => .text <$> freshName request objType url
  | urlToDn objType url => .text <$> freshDn directory request objType url

/-- The answers of a sequence of calls and changes. -/
def cachedRun : UserDirectory → UrlCaches → List UrlEvent → List (Except UrlExc UrlAnswer)
  | _, _, [] => []
  | _, caches, .change directory :: events => cachedRun directory caches events
  | directory, caches, .call request call :: events =>
    (call.answer directory request caches).1 ::
      cachedRun directory (call.answer directory request caches).2 events

def uncachedRun : UserDirectory → List UrlEvent → List (Except UrlExc UrlAnswer)
  | _, [] => []
  | _, .change directory :: events => uncachedRun directory events
  | directory, .call request call :: events =>
    call.freshAnswer directory request :: uncachedRun directory events

end Urls

end Kelvin
