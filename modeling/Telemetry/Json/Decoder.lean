import Telemetry.Id
import Telemetry.Json.Reader

/-!
# Decoding

A decoder reads a draft as a value of a type, or says what is wrong with it.
Of several faults the one that is met first counts, where a draft is visited in
its own order; fields that are missing are noticed at the end, in the order in
which they are declared.

* `DecodeError`: the faults, and `DecodeError.message` their wording;
* `Source`: where a draft comes from, which decides a few questions of form;
* `Decoder`: decoders of scalars, lists, options and maps;
* `Reading`, `Fields`, `Decoder.record`: a record, from an object or from an
  array of its fields. Each field is read on its own, and `Reading` keeps the
  fault at the least position;
* `Decoder.variants`: one of several named alternatives.
-/

namespace Telemetry

/-- What is wrong with a draft that cannot be decoded. -/
inductive DecodeError where
  /-- The text is not JSON. -/
  | malformed
  /-- A value of another type was expected. -/
  | wrongType
  /-- A number outside the range of its field, or not exactly one alternative. -/
  | outOfRange
  /-- An array that is too long or too short for a record. -/
  | wrongLength
  /-- A text that is no time stamp. -/
  | badTime
  /-- A field that has to be there is not. -/
  | missing (field : String)
  /-- A field is given twice. -/
  | duplicate (field : String)
  /-- There is no alternative of this name. -/
  | unknownVariant (name : String)
  /-- A value that is none of the unnamed alternatives. -/
  | noVariant (of : String)
  /-- A text that is no identifier. -/
  | badId (e : IdError)
  deriving DecidableEq

/-- The message of a fault; none for a text that is not JSON. -/
def DecodeError.message? : DecodeError → Option String
  | .malformed => none
  | .wrongType => some "invalid type"
  | .outOfRange => some "invalid value"
  | .wrongLength => some "invalid length"
  | .badTime => some "invalid datetime"
  | .missing field => some ("missing field `" ++ field ++ "`")
  | .duplicate field => some ("duplicate field `" ++ field ++ "`")
  | .unknownVariant name => some ("unknown variant `" ++ name ++ "`")
  | .noVariant type => some ("data did not match any variant of untagged enum " ++ type)
  | .badId e => some e.message

/-- Where a draft comes from. -/
inductive Source where
  /-- From a text that is read as it is decoded. -/
  | text
  /-- From a value. -/
  | value
  /-- From a part of either that had to be held back. -/
  | held
  /-- From a settings file. -/
  | settings
  deriving DecidableEq

/-- Reads a draft as a value of a type. -/
abbrev Decoder (α : Type) := Source → Draft → Except DecodeError α

namespace Draft

/-- The fault of a value of the wrong type: if it cannot even be read, that comes
first. -/
def mismatch : Draft → DecodeError
  | .fault | .unusable | .tooDeep _ => .malformed
  | _ => .wrongType

end Draft

namespace Decoder

/-! ## Scalars -/

/-- A text. -/
def string : Decoder String
  | _, .str s => .ok s
  | _, d => .error d.mismatch

/-- A truth value. -/
def bool : Decoder Bool
  | _, .bool b => .ok b
  | _, d => .error d.mismatch

/-- An integer of a given range. -/
def intBetween (low high : Int) : Decoder { n : Int // low ≤ n ∧ n ≤ high }
  | _, .int n => if h : low ≤ n.1 ∧ n.1 ≤ high then .ok ⟨n.1, h⟩ else .error .outOfRange
  | _, d => .error d.mismatch

/-- A signed integer of 32 bits. -/
def int32 : Decoder Int32 := fun src d =>
  (intBetween (-0x80000000) 0x7FFFFFFF src d).map fun n => Int32.ofInt n.1

/-- A signed integer of 64 bits. -/
def int64 : Decoder Int64 := fun src d =>
  (intBetween (-0x8000000000000000) 0x7FFFFFFFFFFFFFFF src d).map fun n => Int64.ofInt n.1

/-- An unsigned integer of 32 bits. -/
def uint32 : Decoder UInt32 := fun src d =>
  (intBetween 0 0xFFFFFFFF src d).map fun n => UInt32.ofNat n.1.toNat

/-- An unsigned integer of 64 bits. -/
def uint64 : Decoder UInt64 := fun src d =>
  (intBetween 0 0xFFFFFFFFFFFFFFFF src d).map fun n => UInt64.ofNat n.1.toNat

/-- A count, below `2^64`. -/
def count : Decoder Nat := fun src d =>
  (intBetween 0 0xFFFFFFFFFFFFFFFF src d).map fun n => n.1.toNat

/-- A double; an integer is rounded to the nearest one. -/
def double : Decoder Binary64
  | _, .float x => .ok x.1
  | _, .int n => .ok (Binary64.ofInt n.1)
  | _, d => .error d.mismatch

/-- An identifier; the empty text stands for "none". -/
def id {kind : IdKind} : Decoder (Id kind)
  | _, .str s =>
    if s.isEmpty then .ok .zero
    else match Id.ofText s with
      | .ok i => .ok i
      | .error e => .error (.badId e)
  | _, d => .error d.mismatch

/-! ## Lists, options and maps -/

variable {α : Type}

/-- A value that may be null. -/
def option (decode : Decoder α) : Decoder (Option α)
  | _, .null => .ok none
  | src, d => (decode src d).map some

/-- The items of an array, one after the other. -/
def items (decode : Decoder α) (src : Source) : List Draft → Except DecodeError (List α)
  | [] => .ok []
  | d :: rest =>
    match decode src d with
    | .error e => .error e
    | .ok a => (items decode src rest).map (a :: ·)

/-- The end of an array or object whose contents were in order. -/
def atEnd (ending : Ending) (a : α) : Except DecodeError α :=
  if ending = .closed then .ok a else .error .malformed

/-- An array of values. -/
def list (decode : Decoder α) : Decoder (List α)
  | src, .arr ds ending => (items decode src ds).bind (atEnd ending)
  | _, d => .error d.mismatch

/-- An object of any members. -/
def object : Decoder Json.Object
  | _, .obj members ending =>
    match Draft.toMembers? .empty members with
    | some o => atEnd ending o
    | none => .error .malformed
  | _, d => .error d.mismatch

end Decoder

/-! ## Records -/

/-- The outcome of reading part of a record: a value, or a fault and the position
of the member or item where it is met. -/
def Reading (α : Type) := Except (Nat × DecodeError) α

namespace Reading

/-- The fault that is met first; of two at one place the first one given. -/
def firstFault (a b : Nat × DecodeError) : Nat × DecodeError :=
  if b.1 < a.1 then b else a

instance : Applicative Reading where
  pure a := Except.ok a
  seq f x :=
    match f, x () with
    | .ok f, .ok a => .ok (f a)
    | .error e, .ok _ | .ok _, .error e => .error e
    | .error e, .error e' => .error (firstFault e e')

/-- The reading with a fault of the whole added to it. -/
def finish {α : Type} (fault : Option (Nat × DecodeError)) (r : Reading α) :
    Except DecodeError α :=
  match fault, r with
  | none, .ok a => .ok a
  | none, .error e | some e, .ok _ => .error e.2
  | some e, .error e' => .error (firstFault e e').2

end Reading

/-- The fields of a record as they are found in an object or array. -/
structure Fields where
  source : Source
  /-- The value of a field, and its position. -/
  find? : String → Option (Nat × Draft)
  /-- The fault of a field that has to be there and is not. -/
  absent : String → Nat × DecodeError

namespace Fields

/-- The first member with a given key and its position, counted from `pos`. -/
def findMember? (key : String) (pos : Nat) :
    List (Option String × Draft) → Option (Nat × Draft)
  | [] => none
  | (k, d) :: rest => if k = some key then some (pos, d) else findMember? key (pos + 1) rest

/-- The fields as the members of an object. -/
def ofMembers (source : Source) (members : List (Option String × Draft)) : Fields where
  source
  find? name := findMember? name 0 members
  absent name := (members.length + 1, .missing name)

/-- The fields as the items of an array, in the order of their names. -/
def ofItems (source : Source) (names : List String) (ds : List Draft) : Fields where
  source
  find? name :=
    let i := names.idxOf name
    ds[i]?.map (i, ·)
  absent _ := (ds.length, .wrongLength)

variable {α : Type}

/-- The value of a field that is there. -/
def read (fields : Fields) (decode : Decoder α) (found : Nat × Draft) : Reading α :=
  match decode fields.source found.2 with
  | .ok a => .ok a
  | .error e => .error (found.1, e)

/-- A field that has to be there. -/
def required (fields : Fields) (name : String) (decode : Decoder α) : Reading α :=
  match fields.find? name with
  | some found => fields.read decode found
  | none => .error (fields.absent name)

/-- A field with a default. -/
def optional (fields : Fields) (name : String) (decode : Decoder α) (default : α) : Reading α :=
  match fields.find? name with
  | some found => fields.read decode found
  | none => .ok default

/-- The first fault of an object apart from the values of its fields, counted from
`pos`: a key that cannot be used, a field that has been `seen`, a fault in the
value of a member that is no field, or the fault that ends the object. -/
def memberFault (names : List String) (ending : Ending) (seen : List String) (pos : Nat) :
    List (Option String × Draft) → Option (Nat × DecodeError)
  | [] => if ending = .closed then none else some (pos, .malformed)
  | (none, _) :: _ => some (pos, .malformed)
  | (some key, d) :: rest =>
    if key ∈ names then
      if key ∈ seen then some (pos, .duplicate key)
      else memberFault names ending (key :: seen) (pos + 1) rest
    else if d.skips then memberFault names ending seen (pos + 1) rest
    else some (pos, .malformed)

/-- The first fault of an array apart from the values of its items: items beyond
the fields of the record, or the fault that ends the array. -/
def itemFault (source : Source) (names : List String) (ending : Ending) (ds : List Draft) :
    Option (Nat × DecodeError) :=
  if ds.length ≤ names.length then
    if ending = .closed then none else some (ds.length, .malformed)
  else match source with
    | .text => some (names.length, .malformed)
    | .value | .held => some (names.length, .wrongLength)
    | .settings => none

end Fields

namespace Decoder

variable {α : Type}

/-- A record with the given fields: an object, or an array of the fields in order,
from whose end fields with a default may be absent. -/
def record (names : List String) (build : Fields → Reading α) : Decoder α
  | src, .obj members ending =>
    (build (.ofMembers src members)).finish (Fields.memberFault names ending [] 0 members)
  | src, .arr ds ending =>
    (build (.ofItems src names ds)).finish (Fields.itemFault src names ending ds)
  | _, d => .error d.mismatch

/-! ## Alternatives -/

/-- A named alternative: what its bare name stands for, and how the value of an
object with that name as its only key is read. -/
structure Variant (α : Type) where
  name : String
  bare : Except DecodeError α
  decode : Decoder α

/-- The value that goes with an alternative without content: null, or, if it was
held back, an object without members. -/
def unit (a : α) : Decoder α
  | _, .null => .ok a
  | .held, .obj [] .closed => .ok a
  | _, d => .error d.mismatch

/-- An alternative without content. -/
def Variant.unit (name : String) (a : α) : Variant α := ⟨name, .ok a, Decoder.unit a⟩

/-- An alternative with content. -/
def Variant.content (name : String) (decode : Decoder α) : Variant α :=
  ⟨name, .error .wrongType, decode⟩

/-- The alternative of a given name. -/
def findVariant (alternatives : List (Variant α)) (name : String) :
    Except DecodeError (Variant α) :=
  match alternatives.find? (·.name == name) with
  | some v => .ok v
  | none => .error (.unknownVariant name)

/-- One of several alternatives, out of a text. -/
def variantsOfText (alternatives : List (Variant α)) : Decoder α
  | _, .str name => (findVariant alternatives name).bind (·.bare)
  | src, .obj ((some key, d) :: rest) ending => do
    let v ← findVariant alternatives key
    let a ← v.decode src d
    if rest.isEmpty then atEnd ending a else .error .malformed
  | _, .obj [] .misplaced => .error .wrongType
  | _, _ => .error .malformed

/-- One of several alternatives, out of a value. -/
def variantsOfValue (alternatives : List (Variant α)) : Decoder α
  | _, .str name => (findVariant alternatives name).bind (·.bare)
  | src, .obj [(some key, d)] _ => (findVariant alternatives key).bind (·.decode src d)
  | _, .obj _ _ => .error .outOfRange
  | _, d => .error d.mismatch

/-- One of several alternatives: its name, or an object with its name as the only
key. -/
def variants (alternatives : List (Variant α)) : Decoder α
  | .text, d => variantsOfText alternatives .text d
  | src, d => variantsOfValue alternatives src d

/-! ## Texts and values -/

/-- Decodes a JSON text. -/
def ofText (decode : Decoder α) (s : String) : Except DecodeError α :=
  match decode .text (Draft.ofText s).1 with
  | .error e => .error e
  | .ok a => if (Draft.ofText s).2 then .error .malformed else .ok a

/-- Decodes a JSON value. -/
def ofValue (decode : Decoder α) (v : Json) : Except DecodeError α :=
  decode .value (Draft.ofJson v)

end Decoder

end Telemetry
