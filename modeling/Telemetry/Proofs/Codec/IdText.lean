import Mathlib.Data.String.Basic
import Telemetry.Json.Decoder
import Telemetry.Proofs.Number.Numeral

/-!
# Identifiers and their texts

The text of an identifier is a code of it: one text in lower case for each, read back in either
case, and in the order of the identifiers. Nothing else is read, be it of the same length with a
sign, a prefix, a hyphen or white space in it.

* `IdKind.Spells kind s`: the text is one of as many digits as an identifier has;
* `ofText_of_spells`, `ofText_of_not_spells`: these texts are read, and no others;
* `bytes_ofBytes`, `ofBytes_bytes`, `toList_text_eq_flatMap`: the bytes of an identifier, two
  digits each;
* `compare_text`: the order of identifiers is that of their texts;
* `Decoder.id_eq_ok_iff`: from a payload the empty text is read too;
* `text_canonical`: all of it.
-/

namespace Telemetry

open Number

/-- The text holds as many hexadecimal digits as an identifier has, and nothing else. -/
def IdKind.Spells (kind : IdKind) (s : String) : Prop :=
  s.toList.length = kind.width ∧ ∀ c ∈ s.toList, c ∈ hexDigits

instance (kind : IdKind) (s : String) : Decidable (kind.Spells s) :=
  @instDecidableAnd _ _ _ (List.decidableBAll _ _)

/-- Two digits of an identifier are a byte. -/
theorem IdKind.width_eq (kind : IdKind) : kind.width = 2 * (kind.width / 2) := by
  cases kind <;> rfl

theorem IdKind.pow_width (kind : IdKind) : 16 ^ kind.width = 256 ^ (kind.width / 2) := by
  rw [kind.width_eq, Nat.pow_mul, Nat.mul_div_cancel_left _ Nat.two_pos]

namespace Id

variable {kind : IdKind}

theorem toNat_value_ofNat {n : Nat} (h : n < 16 ^ kind.width) :
    (ofNat n : Id kind).value.toNat = n := by
  rw [ofNat, BitVec.toNat_ofNat, Nat.pow_mul]
  exact Nat.mod_eq_of_lt h

theorem toList_text_ofNat {n : Nat} (h : n < 16 ^ kind.width) :
    (ofNat n : Id kind).text.toList = hexText kind.width n := by
  rw [toList_text, toNat_value_ofNat h]

/-! ## Reading -/

theorem ofText_of_spells {s : String} (h : kind.Spells s) :
    ∃ i : Id kind, ofText s = .ok i ∧ i.text.toList = s.toList.map Char.toLower := by
  obtain ⟨hlength, hdigits⟩ := h
  obtain ⟨n, hn⟩ := exists_ofHex?_iff.mpr hdigits
  obtain ⟨hlt, htext⟩ := hexText_of_ofHex? hn
  rw [hlength] at hlt htext
  refine ⟨ofNat n, ?_, ?_⟩
  · rw [ofText, if_pos hlength, hn]
  · rw [toList_text_ofNat hlt, htext]

theorem ofText_of_not_spells {s : String} (h : ¬kind.Spells s) :
    (ofText s : Except IdError (Id kind)) = .error ⟨kind, s⟩ := by
  rw [ofText]
  split
  · rename_i hlength
    cases hn : ofHex? s.toList with
    | none => rfl
    | some n => exact absurd ⟨hlength, exists_ofHex?_iff.mp ⟨n, hn⟩⟩ h
  · rfl

/-- A sign is no digit, though a number may have one elsewhere. -/
example : (ofText "+00000000000000f" : Except IdError SpanId) =
    .error ⟨.span, "+00000000000000f"⟩ :=
  ofText_of_not_spells (by decide)

theorem spells_of_ofText {s : String} {i : Id kind} (h : ofText s = .ok i) : kind.Spells s := by
  by_contra hs
  rw [ofText_of_not_spells hs] at h
  cases h

/-! ## Bytes -/

section

variable {bytes : List UInt8}

theorem ofOctets_lt_of_length (h : bytes.length = kind.width / 2) :
    ofOctets bytes < 16 ^ kind.width := by
  rw [kind.pow_width, ← h]
  exact ofOctets_lt bytes

theorem bytes_ofBytes (h : bytes.length = kind.width / 2) :
    (ofBytes bytes : Id kind).bytes = bytes := by
  rw [Id.bytes, ofBytes, toNat_value_ofNat (ofOctets_lt_of_length h), ← h, octets_ofOctets]

end

theorem length_bytes (i : Id kind) : i.bytes.length = kind.width / 2 :=
  length_octets ..

theorem ofBytes_bytes (i : Id kind) : ofBytes i.bytes = i := by
  have hlt := i.toNat_value_lt
  rw [kind.pow_width] at hlt
  rw [ofBytes, Id.bytes, ofOctets_octets hlt, ofNat_toNat_value]

/-- The text is made of the digits of the bytes, the most significant one first. -/
theorem toList_text_eq_flatMap (i : Id kind) : i.text.toList = i.bytes.flatMap byteText := by
  calc i.text.toList = hexText kind.width i.value.toNat := i.toList_text
    _ = hexText (2 * (kind.width / 2)) i.value.toNat := congrArg (hexText · _) kind.width_eq
    _ = i.bytes.flatMap byteText := hexText_octets ..

/-! ## Order -/

theorem text_lt_iff {i j : Id kind} : i.text < j.text ↔ i.value < j.value := by
  rw [String.lt_iff_toList_lt, toList_text, toList_text,
    hexText_lt_iff i.toNat_value_lt j.toNat_value_lt, BitVec.lt_def]

theorem text_inj {i j : Id kind} : i.text = j.text ↔ i.value = j.value := by
  rw [← String.toList_inj, toList_text, toList_text,
    hexText_inj i.toNat_value_lt j.toNat_value_lt, BitVec.toNat_inj]

/-- Identifiers are ordered as their texts are. -/
theorem compare_text (i j : Id kind) : compare i.text j.text = compare i j := by
  show compareOfLessAndEq i.text j.text = compareOfLessAndEq i.value j.value
  simp only [compareOfLessAndEq, text_lt_iff, text_inj]

end Id

/-! ## Payloads -/

namespace Decoder

variable {kind : IdKind}

theorem id_str (src : Source) (s : String) :
    (id src (.str s) : Except DecodeError (Id kind)) =
      if s = "" then .ok .zero else (Id.ofText s).mapError .badId := by
  rw [id]
  simp only [String.isEmpty_iff]
  split
  · rfl
  · cases (Id.ofText s : Except IdError (Id kind)) <;> rfl

/-- From wherever it comes, an identifier is read from its texts and from the empty one, and
from nothing else. -/
theorem id_eq_ok_iff {src : Source} {d : Draft} {i : Id kind} :
    id src d = .ok i ↔ ∃ s, d = .str s ∧ (s = "" ∧ i = .zero ∨ Id.ofText s = .ok i) := by
  constructor
  · intro h
    cases d with
    | str s =>
      refine ⟨s, rfl, ?_⟩
      rw [id_str] at h
      split at h
      · rename_i hs
        exact .inl ⟨hs, (Except.ok.inj h).symm⟩
      · cases hread : (Id.ofText s : Except IdError (Id kind)) with
        | ok j =>
          rw [hread] at h
          exact .inr (congrArg Except.ok (Except.ok.inj h))
        | error e =>
          rw [hread] at h
          cases h
    | _ => cases h
  · rintro ⟨s, rfl, ⟨rfl, rfl⟩ | h⟩
    · rfl
    · have hne : s ≠ "" := by
        rintro rfl
        cases kind <;> cases (Id.spells_of_ofText h).1
      rw [id_str, if_neg hne, h]
      rfl

/-- A text that is neither is an error that carries the text. -/
theorem id_of_not_spells {src : Source} {s : String} (hne : s ≠ "") (h : ¬kind.Spells s) :
    (id src (.str s) : Except DecodeError (Id kind)) = .error (.badId ⟨kind, s⟩) := by
  rw [id_str, if_neg hne, Id.ofText_of_not_spells h]
  rfl

end Decoder

/-- Texts of identifiers. Every identifier is read back from its text. A text is read if it
holds exactly as many hexadecimal digits as identifiers of the kind have, in either case, and
the text of what is read is that text in lower case; any other text is an error that carries
it. From as many bytes as an identifier has it is made and gives them back, and its text is
their digits, byte for byte. Identifiers are ordered as their texts are, character by
character. In a payload the same texts are read, and the empty one as the identifier that is
all zeros; any other text is the same error, and what is no text is not read. -/
theorem Id.text_canonical (kind : IdKind) :
    (∀ i : Id kind, ofText i.text = .ok i) ∧
    (∀ s, kind.Spells s →
      ∃ i : Id kind, ofText s = .ok i ∧ i.text.toList = s.toList.map Char.toLower) ∧
    (∀ s, ¬kind.Spells s → (ofText s : Except IdError (Id kind)) = .error ⟨kind, s⟩) ∧
    (∀ bytes : List UInt8, bytes.length = kind.width / 2 →
      (ofBytes bytes : Id kind).bytes = bytes ∧
      (ofBytes bytes : Id kind).text.toList = bytes.flatMap byteText) ∧
    (∀ i : Id kind, i.bytes.length = kind.width / 2 ∧ ofBytes i.bytes = i) ∧
    (∀ i j : Id kind, compare i j = compare i.text j.text) ∧
    (∀ src d (i : Id kind), Decoder.id src d = .ok i ↔
      ∃ s, d = .str s ∧ (s = "" ∧ i = zero ∨ ofText s = .ok i)) ∧
    (∀ src s, s ≠ "" → ¬kind.Spells s →
      (Decoder.id src (.str s) : Except DecodeError (Id kind)) = .error (.badId ⟨kind, s⟩)) := by
  refine ⟨ofText_text, fun s => ofText_of_spells, fun s => ofText_of_not_spells,
    fun bytes h => ⟨bytes_ofBytes h, ?_⟩, fun i => ⟨i.length_bytes, i.ofBytes_bytes⟩,
    fun i j => (compare_text i j).symm, fun src d i => Decoder.id_eq_ok_iff,
    fun src s => Decoder.id_of_not_spells⟩
  rw [toList_text_eq_flatMap, bytes_ofBytes h]

end Telemetry
