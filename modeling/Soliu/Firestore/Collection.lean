import Mathlib.Data.List.AList
import Soliu.Basic.UnionList
import Soliu.Firestore.Value

/-!
# Collections and write requests

One Firestore collection, and the two kinds of request the application writes to it: `setData` with
`merge: false` and `updateData` of one field with `FieldValue.arrayUnion`. `Request.apply` is what
the backend makes of a request that it does not refuse on its own account: `updateData` still fails
when its document does not exist. The application never looks at the outcome of a request, so a
refused request (`Request.submit` with `accepted := false`) just leaves the collection as it is.
-/

namespace Soliu

/-- A document as its fields. -/
abbrev Document := Fields

/-- The documents of one collection, by path. -/
abbrev Collection := AList fun _ : String => Document

/-- `collection.document(path)`. The empty path leaves the reference with an odd number of segments,
on which the SDK traps (`HARD_FAIL`). It also traps on other paths of an even number of segments,
such as `a/b`, which `Uid` excludes: a uid consists of letters and digits. -/
def document (path : String) : Option String :=
  if path = "" then none else some path

/-- `document?.data(as:)` of a snapshot that was delivered: `none` when decoding throws, and
`some none` when the document does not exist. -/
def dataAs {α : Type} (decode : Document → Option α) : Option Document → Option (Option α)
  | none => some none
  | some d => (decode d).map some

/-- `ArrayTransform::Rep::Apply` for a union: whatever is not an array counts as the empty one. -/
def arrayUnion (previous : Option Value) (elements : List Value) : Value :=
  match previous with
  | some (.array vs) => .array (elements.foldl UnionList.addNew vs)
  | _ => .array (elements.foldl UnionList.addNew [])

/-- Whatever the field held, the union with one value is an array that has the value. -/
lemma exists_arrayUnion (previous : Option Value) (v : Value) :
    ∃ vs, arrayUnion previous [v] = .array vs ∧ v ∈ vs := by
  have h : ∀ us : List Value, v ∈ UnionList.addNew us v := fun us =>
    UnionList.mem_addNew.mpr (.inr rfl)
  match previous with
  | some (.array us) => exact ⟨_, rfl, h us⟩
  | none | some .null | some (.boolean _) | some (.integer _) | some (.double _)
  | some (.timestamp _ _) | some (.string _) | some (.bytes _) | some (.reference _)
  | some (.geoPoint _ _) | some (.map _) => exact ⟨_, rfl, h []⟩

/-- A write request, with the path of its document. -/
inductive Request where
  | setData (path : String) (data : Document)
  | updateData (path : String) (field : String) (union : List Value)
deriving DecidableEq

namespace Request

/-- The document a request writes to. -/
def path : Request → String
  | setData path _ => path
  | updateData path _ _ => path

/-- The collection after a request, unless the request fails. -/
def apply : Request → Collection → Option Collection
  | setData path data, c => some (c.insert path data)
  -- the precondition `exists` of an update fails without the document
  | updateData path field union, c =>
    (c.lookup path).map fun d =>
      c.insert path (d.insert field (arrayUnion (List.lookup field d) union))

/-- A request that is sent off and accepted or refused. -/
def submit (accepted : Bool) (r : Request) (c : Collection) : Collection :=
  if accepted then (r.apply c).getD c else c

/-- A request leaves the documents at other paths as they are. -/
lemma lookup_submit_of_ne {accepted : Bool} {r : Request} {c : Collection} {p : String}
    (h : p ≠ r.path) : (r.submit accepted c).lookup p = c.lookup p := by
  cases accepted with
  | false => rfl
  | true =>
    cases r with
    | setData path data => exact AList.lookup_insert_ne h
    | updateData path field union =>
      simp only [submit, apply, if_true]
      cases c.lookup path with
      | none => rfl
      | some d => exact AList.lookup_insert_ne h

/-- A request, accepted or not, makes no document disappear. -/
lemma lookup_submit_isSome {accepted : Bool} {r : Request} {c : Collection} {p : String}
    (h : (c.lookup p).isSome) : ((r.submit accepted c).lookup p).isSome := by
  by_cases hp : p = r.path
  · subst hp
    cases accepted with
    | false => exact h
    | true =>
      cases r with
      | setData p data => simp [submit, apply, path]
      | updateData p field union =>
        obtain ⟨d, hd⟩ := Option.isSome_iff_exists.mp h
        change c.lookup p = some d at hd
        simp [submit, apply, path, hd]
  · rwa [lookup_submit_of_ne hp]

/-- An accepted `setData` leaves exactly its data at its path. -/
lemma lookup_submit_setData {p : String} {data : Document} {c : Collection} :
    ((setData p data).submit true c).lookup p = some data := by
  simp [submit, apply]

/-- An accepted `updateData` unites its field with the values given. -/
lemma lookup_submit_updateData {p field : String} {union : List Value} {c : Collection}
    {d : Document} (h : c.lookup p = some d) :
    ((updateData p field union).submit true c).lookup p =
      some (d.insert field (arrayUnion (List.lookup field d) union)) := by
  simp [submit, apply, h]

/-- An `updateData` of a document that does not exist changes nothing. -/
lemma submit_updateData_of_none {accepted : Bool} {p field : String} {union : List Value}
    {c : Collection} (h : c.lookup p = none) :
    (updateData p field union).submit accepted c = c := by
  cases accepted <;> simp [submit, apply, h]

end Request

end Soliu
