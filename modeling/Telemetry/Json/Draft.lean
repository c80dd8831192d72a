import Telemetry.Json.Value

/-!
# Drafts: what a JSON text holds, faults included

A text is read from left to right, and whoever uses it meets the first thing
that is wrong with it: a value of an unexpected type before a bracket that is
missing further on, or the other way round. A draft is the tree of everything
up to the first fault of the text, so that a reader who visits it in order
meets faults and values in the order of the text.

Two kinds of value harm only a reader who uses them and not one who skips
them: `unusable` (a number beyond the range of a double, or a string with half
a surrogate pair), and `tooDeep` (an array or object nested deeper than 127
levels).

* `Draft.ofJson`: the draft of a value, which has no fault;
* `Draft.skips`, `Draft.usable`: whether a value can be skipped, or used;
* `Draft.toJson?`: the value that a usable draft stands for.
-/

namespace Telemetry

/-- How an array or object of a text ends. -/
inductive Ending where
  /-- With its closing bracket. -/
  | closed
  /-- With a fault of the text. -/
  | broken
  /-- With a value that is no string where a key should stand. -/
  | misplaced
  deriving DecidableEq

/-- The tree of a JSON text up to its first fault. A member without a key has a
key that cannot be used. -/
inductive Draft where
  | null
  | bool (b : Bool)
  | int (n : WideInt)
  | float (x : FiniteDouble)
  | str (s : String)
  | arr (items : List Draft) (ending : Ending)
  | obj (members : List (Option String × Draft)) (ending : Ending)
  /-- A scalar that can be skipped but not used. -/
  | unusable
  /-- An array or object that is nested too deeply to be used. -/
  | tooDeep (inner : Draft)
  /-- The place where no value can be read. -/
  | fault
  deriving Inhabited

namespace Draft

mutual

/-- The draft of a value. -/
def ofJson : Json → Draft
  | .null => .null
  | .bool b => .bool b
  | .int n => .int n
  | .float x => .float x
  | .str s => .str s
  | .arr items => .arr (ofItems items) .closed
  | .obj members => .obj (ofMembers members) .closed

/-- The drafts of the items of an array. -/
def ofItems : List Json → List Draft
  | [] => []
  | v :: rest => ofJson v :: ofItems rest

/-- The drafts of the members of an object. -/
def ofMembers : List (String × Json) → List (Option String × Draft)
  | [] => []
  | (k, v) :: rest => (some k, ofJson v) :: ofMembers rest

end

mutual

/-- Whether the value can be skipped: no fault of the text is in it. -/
def skips : Draft → Bool
  | .arr items ending => skipsItems items && ending == .closed
  | .obj members ending => skipsMembers members && ending == .closed
  | .tooDeep inner => skips inner
  | .fault => false
  | _ => true

/-- Whether all items can be skipped. -/
def skipsItems : List Draft → Bool
  | [] => true
  | d :: rest => skips d && skipsItems rest

/-- Whether all members can be skipped. -/
def skipsMembers : List (Option String × Draft) → Bool
  | [] => true
  | (_, d) :: rest => skips d && skipsMembers rest

end

mutual

/-- Whether the value can be used as it stands. -/
def usable : Draft → Bool
  | .arr items ending => usableItems items && ending == .closed
  | .obj members ending => usableMembers members && ending == .closed
  | .unusable | .tooDeep _ | .fault => false
  | _ => true

/-- Whether all items can be used. -/
def usableItems : List Draft → Bool
  | [] => true
  | d :: rest => usable d && usableItems rest

/-- Whether all members can be used, their keys included. -/
def usableMembers : List (Option String × Draft) → Bool
  | [] => true
  | (k, d) :: rest => k.isSome && usable d && usableMembers rest

end

mutual

/-- The canonical value of a draft without faults: of several members with one
key the last one counts. -/
def toJson? : Draft → Option { v : Json // v.Canonical }
  | .null => some ⟨.null, trivial⟩
  | .bool b => some ⟨.bool b, trivial⟩
  | .int n => some ⟨.int n, trivial⟩
  | .float x => some ⟨.float x, trivial⟩
  | .str s => some ⟨.str s, trivial⟩
  | .arr items ending =>
    match toItems? items, ending with
    | some vs, .closed => some ⟨.arr vs.1, vs.2⟩
    | _, _ => none
  | .obj members ending =>
    match toMembers? Json.Object.empty members, ending with
    | some ms, .closed => some ⟨.obj ms.1, ms.2⟩
    | _, _ => none
  | .unusable | .tooDeep _ | .fault => none

/-- The values of the items of an array. -/
def toItems? : List Draft → Option { vs : List Json // Json.CanonicalItems vs }
  | [] => some ⟨[], trivial⟩
  | d :: rest =>
    match toJson? d, toItems? rest with
    | some v, some vs => some ⟨v.1 :: vs.1, v.2, vs.2⟩
    | _, _ => none

/-- The members of an object, added to those read before. -/
def toMembers? (before : Json.Object) : List (Option String × Draft) → Option Json.Object
  | [] => some before
  | (key, d) :: rest =>
    match key, toJson? d with
    | some k, some v => toMembers? (before.put k v) rest
    | _, _ => none

end

end Draft

end Telemetry
