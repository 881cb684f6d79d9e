import Mathlib.Data.List.Infix
import Mathlib.Data.List.TakeWhile

/-!
# Texts of URLs

`urlsplit`, `urlparse` and `geturl` of the Python library, on lists of characters.

* `urlsplit`, `urlparse`, `ParsedUrl.geturl`: the functions.
* `urlsplit_server`, `urlparse_server`: the parts of the URL of a server, for any text after the host.
* `geturl_server`: the text of such parts.
-/

namespace Kelvin

/-- The checks of a network location: its brackets and the normal form of its characters. -/
class NetlocSyntax where
  validNetloc : List Char → Bool

/-! ## Parsing -/

structure SplitUrl where
  scheme : List Char
  netloc : List Char
  path : List Char
  query : List Char
  fragment : List Char
deriving DecidableEq

structure ParsedUrl extends SplitUrl where
  params : List Char
deriving DecidableEq

def asciiLetter (c : Char) : Bool := ('a' ≤ c && c ≤ 'z') || ('A' ≤ c && c ≤ 'Z')

/-- `scheme_chars`. -/
def schemeChar (c : Char) : Bool :=
  asciiLetter c || ('0' ≤ c && c ≤ '9') || c == '+' || c == '-' || c == '.'

/-- A control character or a space, which is left out at the beginning. -/
def c0OrSpace (c : Char) : Bool := c.toNat ≤ 0x20

/-- `_UNSAFE_URL_BYTES_TO_REMOVE`. -/
def unsafeChar (c : Char) : Bool := c == '\t' || c == '\r' || c == '\n'

def cleaned (url : List Char) : List Char := url.filter (fun c => !unsafeChar c)

/-- The text before the first `c` and the text after it, if there is one. -/
def cut (c : Char) (text : List Char) : List Char × Option (List Char) :=
  (text.takeWhile (fun d => d ≠ c),
    match text.dropWhile (fun d => d ≠ c) with
    | [] => none
    | _ :: rest => some rest)

def splitScheme (url : List Char) : List Char × List Char :=
  match cut ':' url with
  | (before, some rest) =>
    if before.head?.any asciiLetter ∧ before.all schemeChar then (before.map Char.toLower, rest)
    else ([], url)
  | (_, none) => ([], url)

def netlocChar (c : Char) : Bool := c ≠ '/' && c ≠ '?' && c ≠ '#'

/-- `_splitnetloc`, after two slashes. -/
def splitNetloc : List Char → List Char × List Char
  | '/' :: '/' :: rest => (rest.takeWhile netlocChar, rest.dropWhile netlocChar)
  | url => ([], url)

section Parsing

variable [NetlocSyntax]

/-- `urllib.parse.urlsplit`. A `ValueError` is `none`. -/
def urlsplit (url : List Char) : Option SplitUrl :=
  let withScheme := splitScheme (cleaned (url.dropWhile c0OrSpace))
  let withNetloc := splitNetloc withScheme.2
  let withFragment := cut '#' withNetloc.2
  let withQuery := cut '?' withFragment.1
  if NetlocSyntax.validNetloc withNetloc.1 then
    some ⟨withScheme.1, withNetloc.1, withQuery.1, withQuery.2.getD [], withFragment.2.getD []⟩
  else none

/-- `uses_params`. -/
def usesParams : List (List Char) :=
  ["", "ftp", "hdl", "prospero", "http", "https", "shttp", "rtsp", "rtspu", "sip", "sips", "mms",
    "sftp", "tel"].map String.toList

/-- `_splitparams`. -/
def splitParams (url : List Char) : List Char × List Char :=
  let last := (url.reverse.takeWhile (fun c => c ≠ '/')).reverse
  let front := (url.reverse.dropWhile (fun c => c ≠ '/')).reverse
  (front ++ (cut ';' last).1, (cut ';' last).2.getD [])

/-- `urllib.parse.urlparse`. -/
def urlparse (url : List Char) : Option ParsedUrl :=
  (urlsplit url).map (fun up =>
    if up.scheme ∈ usesParams ∧ ';' ∈ up.path then
      { up with path := (splitParams up.path).1, params := (splitParams up.path).2 }
    else { up with params := [] })

end Parsing

/-- `uses_netloc`. -/
def usesNetloc : List (List Char) :=
  ["", "ftp", "http", "gopher", "nntp", "telnet", "imap", "wais", "file", "mms", "https", "shttp",
    "snews", "prospero", "rtsp", "rtspu", "rsync", "svn", "svn+ssh", "sftp", "nfs", "git", "git+ssh",
    "ws", "wss"].map String.toList

/-- A separator and a part, if there is one. -/
def optionalPart (separator : Char) (part : List Char) : List Char :=
  if part = [] then [] else separator :: part

/-- `geturl`. -/
def ParsedUrl.geturl (up : ParsedUrl) : List Char :=
  let url := up.path ++ optionalPart ';' up.params
  let url :=
    if up.netloc ≠ [] ∨ (up.scheme ≠ [] ∧ up.scheme ∈ usesNetloc ∧ url.take 2 ≠ ['/', '/']) then
      '/' :: '/' :: up.netloc ++ (if url ≠ [] ∧ url.head? ≠ some '/' then '/' :: url else url)
    else url
  (if up.scheme ≠ [] then up.scheme ++ ':' :: url else url) ++ optionalPart '?' up.query ++
    optionalPart '#' up.fragment

/-! ## URLs of a server -/

/-- The schemes of a web server. -/
def WebScheme (scheme : List Char) : Prop := scheme ∈ ["http".toList, "https".toList]

/-- A network location as `urlsplit` finds it. -/
structure IsNetloc [NetlocSyntax] (netloc : List Char) : Prop where
  ne_nil : netloc ≠ []
  chars : ∀ c ∈ netloc, netlocChar c = true ∧ unsafeChar c = false
  valid : NetlocSyntax.validNetloc netloc = true

theorem cut_eq {c : Char} {before rest : List Char} (h : c ∉ before) :
    cut c (before ++ c :: rest) = (before, some rest) := by
  have hbefore : ∀ d ∈ before, decide (d ≠ c) = true := fun d hd =>
    decide_eq_true (fun heq => h (heq ▸ hd))
  have hstop : decide (c ≠ c) = false := decide_eq_false (fun hne => hne rfl)
  rw [cut, List.takeWhile_append_of_pos hbefore, List.dropWhile_append_of_pos hbefore,
    List.takeWhile_cons, List.dropWhile_cons, hstop]
  simp

theorem cut_of_not_mem {c : Char} {text : List Char} (h : c ∉ text) : cut c text = (text, none) := by
  have hall : ∀ d ∈ text, decide (d ≠ c) = true := fun d hd =>
    decide_eq_true (fun heq => h (heq ▸ hd))
  rw [cut, List.takeWhile_eq_self_iff.mpr hall, List.dropWhile_eq_nil_iff.mpr hall]

theorem cleaned_append (text text' : List Char) :
    cleaned (text ++ text') = cleaned text ++ cleaned text' := List.filter_append ..

theorem cleaned_eq_self {text : List Char} (h : ∀ c ∈ text, unsafeChar c = false) :
    cleaned text = text := by
  refine List.filter_eq_self.mpr (fun c hc => ?_)
  rw [h c hc]
  rfl

theorem mem_cleaned {text : List Char} {c : Char} :
    c ∈ cleaned text ↔ c ∈ text ∧ unsafeChar c = false := by
  rw [cleaned, List.mem_filter, Bool.not_eq_true']

theorem splitScheme_web {scheme rest : List Char} (h : WebScheme scheme) :
    splitScheme (scheme ++ ':' :: rest) = (scheme, rest) := by
  have hweb : ∀ scheme ∈ ["http".toList, "https".toList], ':' ∉ scheme ∧
      (scheme.head?.any asciiLetter = true ∧ scheme.all schemeChar = true) ∧
        scheme.map Char.toLower = scheme := by
    decide
  obtain ⟨hcolon, hchars, hlower⟩ := hweb scheme h
  rw [splitScheme, cut_eq hcolon]
  dsimp only
  rw [if_pos hchars, hlower]

theorem splitNetloc_slash {netloc rest : List Char} (h : ∀ c ∈ netloc, netlocChar c = true) :
    splitNetloc ('/' :: '/' :: netloc ++ '/' :: rest) = (netloc, '/' :: rest) := by
  have hslash : netlocChar '/' = false := by decide
  rw [List.cons_append, List.cons_append, splitNetloc, List.takeWhile_append_of_pos h,
    List.dropWhile_append_of_pos h, List.takeWhile_cons, List.dropWhile_cons, hslash]
  simp

/-- The text of the URL of a server. -/
def serverText (scheme netloc rest : List Char) : List Char :=
  scheme ++ ':' :: '/' :: '/' :: netloc ++ rest

section Server

variable [NetlocSyntax] {scheme netloc rest : List Char}

/-- The part of a text after the host that is before a fragment. -/
def beforeFragment (rest : List Char) : List Char := (cut '#' (cleaned rest)).1

def fragmentOf (rest : List Char) : List Char := (cut '#' (cleaned rest)).2.getD []

/-- The parts of the URL of a server. -/
theorem urlsplit_server (hscheme : WebScheme scheme) (hnetloc : IsNetloc netloc) :
    urlsplit (serverText scheme netloc ('/' :: rest)) =
      some ⟨scheme, netloc, (cut '?' (beforeFragment ('/' :: rest))).1,
        (cut '?' (beforeFragment ('/' :: rest))).2.getD [], fragmentOf ('/' :: rest)⟩ := by
  have hweb : ∀ scheme ∈ ["http".toList, "https".toList],
      List.Forall (unsafeChar · = false) scheme ∧
        scheme.head?.any (fun c => !c0OrSpace c) = true := by
    decide
  obtain ⟨hsafe, hhead⟩ := hweb scheme hscheme
  rw [List.forall_iff_forall_mem] at hsafe
  have hdrop : (serverText scheme netloc ('/' :: rest)).dropWhile c0OrSpace =
      serverText scheme netloc ('/' :: rest) := by
    cases scheme with
    | nil => cases hhead
    | cons c scheme =>
      have hc : c0OrSpace c = false := by simpa using hhead
      rw [serverText, List.cons_append, List.cons_append, List.dropWhile_cons, hc]
      rfl
  have hclean : cleaned (serverText scheme netloc ('/' :: rest)) =
      scheme ++ ':' :: ('/' :: '/' :: netloc ++ '/' :: cleaned rest) := by
    have hslash : cleaned ('/' :: rest) = '/' :: cleaned rest := rfl
    have hfront : cleaned (scheme ++ ':' :: '/' :: '/' :: netloc) =
        scheme ++ ':' :: '/' :: '/' :: netloc := by
      apply cleaned_eq_self
      intro c hc
      simp only [List.mem_append, List.mem_cons] at hc
      rcases hc with hc | rfl | rfl | rfl | hc
      · exact hsafe c hc
      · rfl
      · rfl
      · rfl
      · exact (hnetloc.chars c hc).2
    rw [serverText, cleaned_append, hfront, hslash]
    simp
  unfold urlsplit
  dsimp only
  rw [hdrop, hclean, splitScheme_web hscheme, splitNetloc_slash (fun c hc => (hnetloc.chars c hc).1)]
  exact if_pos hnetloc.valid

theorem urlparse_server (hscheme : WebScheme scheme) (hnetloc : IsNetloc netloc)
    (hrest : ∀ c ∈ rest, c ≠ '?' ∧ c ≠ ';') :
    urlparse (serverText scheme netloc ('/' :: rest)) =
      some ⟨⟨scheme, netloc, beforeFragment ('/' :: rest), [], fragmentOf ('/' :: rest)⟩, []⟩ := by
  have hmem : ∀ c ∈ beforeFragment ('/' :: rest), c ≠ '?' ∧ c ≠ ';' := by
    intro c hc
    have hc' := (mem_cleaned.mp ((List.takeWhile_sublist _).subset hc)).1
    rcases List.mem_cons.mp hc' with rfl | hc'
    · decide
    · exact hrest c hc'
  have hquery : '?' ∉ beforeFragment ('/' :: rest) := fun h => (hmem _ h).1 rfl
  have hparams : ';' ∉ beforeFragment ('/' :: rest) := fun h => (hmem _ h).2 rfl
  rw [urlparse, urlsplit_server hscheme hnetloc, cut_of_not_mem hquery]
  simp [hparams]

omit [NetlocSyntax] in
/-- The text of the parts, without the separator of an empty fragment. -/
theorem geturl_server (hscheme : WebScheme scheme) (hnetloc : netloc ≠ []) (fragment : List Char) :
    (⟨⟨scheme, netloc, '/' :: rest, [], fragment⟩, []⟩ : ParsedUrl).geturl =
      serverText scheme netloc ('/' :: rest ++ optionalPart '#' fragment) := by
  have hne : scheme ≠ [] := by
    have hweb : ∀ scheme ∈ ["http".toList, "https".toList], scheme ≠ [] := by decide
    exact hweb scheme hscheme
  simp [ParsedUrl.geturl, optionalPart, hnetloc, hne, serverText]

end Server

end Kelvin
