import Kelvin.Data.Json
import Kelvin.Data.Text

/-!
# JSON documents and pointers

Members of JSON objects, the value at a path, its replacement, and the pointers that write a path
as a text.

* `Json.valueAt`, `Json.replaceAt`: the value at a path, and the document with another one.
* `pointerText`, `pointerTokens`: a path as a text without escapes, and the path that a text is
  read as (RFC 6901).
* `pointerTokens_pointerText`: the path is read back if none of its keys needs an escape.
-/

namespace Kelvin

/-- The members of a JSON object. -/
abbrev Members := List (String × Json)

namespace Json

/-! ## Members of an object -/

/-- The members without the one of a name (`dict.pop`). -/
def eraseField (name : String) (fields : Members) : Members := fields.filter (fun f => f.1 ≠ name)

/-- The members with another value under a name that is there. -/
def setField (name : String) (value : Json) (fields : Members) : Members :=
  fields.map (fun f => if f.1 = name then (f.1, value) else f)

variable {name other : String} {value : Json} {fields : Members}

theorem field?_nil : field? name [] = none := rfl

theorem field?_cons {f : String × Json} :
    field? name (f :: fields) = if f.1 = name then some f.2 else field? name fields := by
  unfold field?
  rw [List.find?_cons]
  by_cases h : f.1 = name
  · simp [h]
  · simp only [beq_eq_false_iff_ne.mpr h, if_neg h]

theorem field?_eraseField_self : field? name (eraseField name fields) = none := by
  induction fields with
  | nil => rfl
  | cons f fields ih =>
    unfold eraseField at ih ⊢
    by_cases h : f.1 = name
    · rwa [List.filter_cons_of_neg (by simpa using h)]
    · rw [List.filter_cons_of_pos (by simpa using h), field?_cons, if_neg h, ih]

theorem field?_eraseField_ne (hne : other ≠ name) :
    field? other (eraseField name fields) = field? other fields := by
  induction fields with
  | nil => rfl
  | cons f fields ih =>
    unfold eraseField at ih ⊢
    by_cases h : f.1 = name
    · rw [List.filter_cons_of_neg (by simpa using h), ih, field?_cons, if_neg (h ▸ hne.symm)]
    · rw [List.filter_cons_of_pos (by simpa using h), field?_cons, ih, ← field?_cons]

theorem field?_setField_self (h : field? name fields ≠ none) :
    field? name (setField name value fields) = some value := by
  induction fields with
  | nil => exact absurd rfl h
  | cons f fields ih =>
    unfold setField at ih ⊢
    rw [List.map_cons, field?_cons]
    by_cases hf : f.1 = name
    · simp [hf]
    · rw [if_neg hf, if_neg hf]
      rw [field?_cons, if_neg hf] at h
      exact ih h

theorem field?_setField_ne (hne : other ≠ name) :
    field? other (setField name value fields) = field? other fields := by
  induction fields with
  | nil => rfl
  | cons f fields ih =>
    unfold setField at ih ⊢
    rw [List.map_cons, field?_cons, field?_cons, ih]
    by_cases hf : f.1 = name
    · rw [if_pos hf, if_neg (hf ▸ hne.symm), if_neg (hf ▸ hne.symm)]
    · rw [if_neg hf]

/-! ## Paths -/

/-- The value at a path through objects. -/
def valueAt : List String → Json → Option Json
  | [], j => some j
  | k :: path, .obj fields => (field? k fields).bind (valueAt path)
  | _ :: _, _ => none

/-- The place that a token stands for in an array. -/
def arrayIndex? (token : String) : Option Nat :=
  match token.toList with
  | ['0'] => some 0
  | '0' :: _ => none
  | digits => if digits ≠ [] ∧ digits.all Char.isDigit then token.toNat? else none

/-- A document with another value at a path that is there (`replace` of RFC 6902). -/
def replaceAt : List String → Json → Json → Option Json
  | [], value, _ => some value
  | k :: path, value, .obj fields =>
    (field? k fields).bind (fun child =>
      (replaceAt path value child).map (fun child' => .obj (setField k child' fields)))
  | k :: path, value, .arr items =>
    (arrayIndex? k).bind (fun i => (items[i]?).bind (fun child =>
      (replaceAt path value child).map (fun child' => .arr (items.set i child'))))
  | _ :: _, _, _ => none

theorem valueAt_nil {j : Json} : valueAt [] j = some j := rfl

theorem valueAt_cons {k : String} {path : List String} :
    valueAt (k :: path) (.obj fields) = (field? k fields).bind (valueAt path) := rfl

theorem valueAt_singleton {k : String} : valueAt [k] (.obj fields) = field? k fields := by
  rw [valueAt_cons]
  cases field? k fields <;> rfl

theorem valueAt_cons_of_not_obj {k : String} {path : List String} {doc : Json}
    (h : ∀ fields, doc ≠ .obj fields) : valueAt (k :: path) doc = none := by
  cases doc with
  | obj fields => exact absurd rfl (h fields)
  | _ => rfl

end Json

/-! ## Pointers -/

/-- A path as the text in which a slash stands before each key. -/
def pointerText (path : List String) : String :=
  String.ofList (path.flatMap (fun key => '/' :: key.toList))

/-- A reference token without its escapes. -/
def unescape : List Char → Option (List Char)
  | [] => some []
  | '~' :: '0' :: cs => (unescape cs).map ('~' :: ·)
  | '~' :: '1' :: cs => (unescape cs).map ('/' :: ·)
  | '~' :: _ => none
  | c :: cs => (unescape cs).map (c :: ·)

/-- The path that a pointer text is read as. -/
def pointerTokens (text : String) : Option (List String) :=
  match text.toList.splitOn '/' with
  | [] :: tokens => tokens.mapM (fun token => (unescape token).map String.ofList)
  | _ => none

/-- A key that stands for itself in a pointer. -/
def plainKey (key : String) : Bool := key.toList.all (fun c => c ≠ '/' && c ≠ '~')

theorem unescape_cons {c : Char} {cs : List Char} (hc : c ≠ '~') :
    unescape (c :: cs) = (unescape cs).map (c :: ·) := by
  rw [unescape.eq_def]
  split
  · next h => exact absurd h (by simp)
  · next h => exact absurd (List.cons.inj h).1 hc
  · next h => exact absurd (List.cons.inj h).1 hc
  · next h => exact absurd (List.cons.inj h).1 hc
  · next h =>
    obtain ⟨rfl, rfl⟩ := List.cons.inj h
    rfl

theorem unescape_of_plain {cs : List Char} (h : '~' ∉ cs) : unescape cs = some cs := by
  induction cs with
  | nil => rfl
  | cons c cs ih =>
    obtain ⟨hc, hrest⟩ := not_or.mp (List.mem_cons.not.mp h)
    rw [unescape_cons (Ne.symm hc), ih hrest]
    rfl

theorem plainKey_iff {key : String} :
    plainKey key = true ↔ '/' ∉ key.toList ∧ '~' ∉ key.toList := by
  unfold plainKey
  rw [List.all_eq_true]
  constructor
  · intro h
    refine ⟨fun hc => ?_, fun hc => ?_⟩
    · simpa using h _ hc
    · simpa using h _ hc
  · rintro ⟨hslash, htilde⟩ c hc
    have hne : c ≠ '/' := fun heq => hslash (heq ▸ hc)
    have hne' : c ≠ '~' := fun heq => htilde (heq ▸ hc)
    simp [hne, hne']

theorem splitOn_append_keys (front : List Char) (path : List String) :
    (front ++ path.flatMap (fun key => '/' :: key.toList)).splitOn '/' =
      front.splitOn '/' ++ path.flatMap (fun key => key.toList.splitOn '/') := by
  induction path generalizing front with
  | nil => simp
  | cons key path ih =>
    rw [List.flatMap_cons, List.flatMap_cons, List.cons_append, List.splitOn_append_cons_self, ih]

/-- The parts between the slashes of a pointer. -/
theorem splitOn_pointerText (path : List String) :
    (pointerText path).toList.splitOn '/' =
      [] :: path.flatMap (fun key => key.toList.splitOn '/') := by
  rw [pointerText, String.toList_ofList]
  exact splitOn_append_keys [] path

theorem pointerTokens_eq (path : List String) :
    pointerTokens (pointerText path) = (path.flatMap (fun key => key.toList.splitOn '/')).mapM
      (fun token => (unescape token).map String.ofList) := by
  rw [pointerTokens, splitOn_pointerText]

/-- A path of plain keys is read back from its pointer. -/
theorem pointerTokens_pointerText {path : List String} (h : ∀ key ∈ path, plainKey key = true) :
    pointerTokens (pointerText path) = some path := by
  rw [pointerTokens_eq]
  induction path with
  | nil => rfl
  | cons key path ih =>
    obtain ⟨hkey, hrest⟩ := List.forall_mem_cons.mp h
    obtain ⟨hslash, htilde⟩ := plainKey_iff.mp hkey
    rw [List.flatMap_cons, List.splitOn_eq_singleton hslash, List.singleton_append, List.mapM_cons,
      unescape_of_plain htilde, ih hrest]
    simp

/-! ## Paths that are not read back -/

end Kelvin
