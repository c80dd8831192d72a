import Telemetry.Number.Hexadecimal
import Telemetry.Text.Quoted

/-!
# Trace and span identifiers

An identifier is a number of a fixed count of hexadecimal digits: 32 for a
trace, 16 for a span. It is shown as exactly these digits in lower case and
read from exactly as many in either case. Zero stands for "none".

* `Id.text`, `Id.ofText`: the text and its reading;
* `Id.bytes`, `Id.ofBytes`: the bytes, most significant byte first;
* the order of identifiers is that of their numbers, and equality is what the
  order says (`LawfulEqOrd`).
-/

namespace Telemetry

open Telemetry.Number

/-- What an identifier names. -/
inductive IdKind where
  | trace
  | span
  deriving DecidableEq

/-- How many hexadecimal digits an identifier has. -/
def IdKind.width : IdKind → Nat
  | .trace => 32
  | .span => 16

/-- The name of the kind in messages. -/
def IdKind.name : IdKind → String
  | .trace => "trace"
  | .span => "span"

/-- An identifier: a number of `kind.width` hexadecimal digits. -/
structure Id (kind : IdKind) where
  value : BitVec (4 * kind.width)
  deriving DecidableEq

/-- The identifier of a trace. -/
abbrev TraceId := Id .trace

/-- The identifier of a span. -/
abbrev SpanId := Id .span

/-- A text that is no identifier of the kind that was asked for. -/
structure IdError where
  kind : IdKind
  text : String
  deriving DecidableEq

/-- The message of the error, with the text in quotes. -/
def IdError.message (e : IdError) : String :=
  "invalid " ++ e.kind.name ++ " id: " ++ Text.quoted e.text

namespace Id

variable {kind : IdKind}

/-- The identifier that stands for "none". -/
def zero : Id kind := ⟨0⟩

instance : Inhabited (Id kind) := ⟨zero⟩

/-- Whether the identifier stands for "none". -/
def isZero (i : Id kind) : Bool :=
  i.value == 0

theorem isZero_iff {i : Id kind} : i.isZero ↔ i = zero := by
  rw [isZero, beq_iff_eq]
  exact ⟨fun h => congrArg Id.mk h, fun h => congrArg Id.value h⟩

instance : Ord (Id kind) := ⟨fun a b => compare a.value b.value⟩

instance : Std.TransOrd (Id kind) where
  eq_swap {a b} :=
    (Std.OrientedCmp.eq_swap : compare a.value b.value = (compare b.value a.value).swap)
  isLE_trans {a b c} h h' :=
    have h : (compare a.value b.value).isLE := h
    have h' : (compare b.value c.value).isLE := h'
    (Std.TransCmp.isLE_trans h h' : (compare a.value c.value).isLE)

instance : Std.LawfulEqOrd (Id kind) where
  compare_self {a} := (Std.ReflCmp.compare_self : compare a.value a.value = .eq)
  eq_of_compare {a b} h := by
    have h : compare a.value b.value = .eq := h
    have := Std.LawfulEqCmp.eq_of_compare h
    cases a; cases b; simp_all

/-- The digits of the identifier. -/
def text (i : Id kind) : String :=
  String.ofList (hexText kind.width i.value.toNat)

/-- The identifier with the given number. -/
def ofNat (n : Nat) : Id kind :=
  ⟨BitVec.ofNat _ n⟩

/-- Reads an identifier from exactly as many hexadecimal digits as it has. -/
def ofText (s : String) : Except IdError (Id kind) :=
  if s.toList.length = kind.width then
    match ofHex? s.toList with
    | some n => .ok (ofNat n)
    | none => .error ⟨kind, s⟩
  else .error ⟨kind, s⟩

/-- The bytes of the identifier, most significant byte first. -/
def bytes (i : Id kind) : List UInt8 :=
  octets (kind.width / 2) i.value.toNat

/-- The identifier with the given bytes, most significant byte first. -/
def ofBytes (bytes : List UInt8) : Id kind :=
  ofNat (ofOctets bytes)

end Id

end Telemetry
