import Mathlib.Data.List.Induction
import Telemetry.Proofs.Number.Hexadecimal

/-!
# Hexadecimal numerals, their order and their bytes

Every text of hexadecimal digits stands for a number, and its lower case is the numeral of that
number. Numerals of one length are ordered as their numbers are, and two digits are one byte.

* `hexDigits`, `exists_ofHex?_iff`: which texts stand for a number;
* `hexText_of_ofHex?`: the numeral of that number is the text in lower case;
* `hexText_lt_iff`, `hexText_inj`: numerals of one length;
* `octets_ofOctets`, `ofOctets_octets`: a number and its bytes, as many as it needs;
* `hexText_octets`: its numeral is made of the numerals of its bytes.
-/

namespace Telemetry.Number

/-! ## Digits -/

/-- The hexadecimal digits, letters in lower and in upper case. -/
def hexDigits : List Char := "0123456789abcdefABCDEF".toList

theorem mem_hexDigits_of_hexValue? {c : Char} {d : Nat} (h : hexValue? c = some d) :
    c ∈ hexDigits := by
  have hdigit : ∀ n < 58, 48 ≤ n → Char.ofNat n ∈ hexDigits := by decide
  have hlower : ∀ n < 103, 97 ≤ n → Char.ofNat n ∈ hexDigits := by decide
  have hupper : ∀ n < 71, 65 ≤ n → Char.ofNat n ∈ hexDigits := by decide
  have hc : Char.ofNat c.toNat = c := Char.ofNat_toNat c
  rw [hexValue?] at h
  split at h
  · rename_i hr
    exact hc ▸ hdigit c.toNat (Nat.lt_succ_of_le hr.2) hr.1
  · split at h
    · rename_i hr
      exact hc ▸ hlower c.toNat (Nat.lt_succ_of_le hr.2) hr.1
    · split at h
      · rename_i hr
        exact hc ▸ hupper c.toNat (Nat.lt_succ_of_le hr.2) hr.1
      · cases h

/-- A digit has a value below sixteen, and is the digit of that value but for its case. -/
theorem exists_hexValue? {c : Char} (h : c ∈ hexDigits) :
    ∃ d, hexValue? c = some d ∧ d < 16 ∧ hexDigit d = c.toLower := by
  have hall : hexDigits.all fun c =>
      (hexValue? c).any fun d => d < 16 && hexDigit d == c.toLower := by decide
  obtain ⟨d, hd, hvalue⟩ := (Option.any_eq_true _ _).mp (List.all_eq_true.mp hall c h)
  rw [Bool.and_eq_true, decide_eq_true_eq, beq_iff_eq] at hvalue
  exact ⟨d, hd, hvalue⟩

theorem hexDigit_lt {d e : Nat} (he : e < 16) (h : d < e) : hexDigit d < hexDigit e := by
  have hall : ∀ e < 16, ∀ d < e, hexDigit d < hexDigit e := by decide
  exact hall e he d h

/-! ## Texts of digits -/

theorem exists_ofHexFrom?_iff {m : Nat} {cs : List Char} :
    (∃ n, ofHexFrom? m cs = some n) ↔ ∀ c ∈ cs, c ∈ hexDigits := by
  induction cs generalizing m with
  | nil => exact ⟨fun _ => List.forall_mem_nil _, fun _ => ⟨m, rfl⟩⟩
  | cons c cs ih =>
    rw [List.forall_mem_cons]
    constructor
    · rintro ⟨n, h⟩
      obtain ⟨d, hd, h⟩ := Option.bind_eq_some_iff.mp h
      exact ⟨mem_hexDigits_of_hexValue? hd, ih.mp ⟨n, h⟩⟩
    · rintro ⟨hc, hcs⟩
      obtain ⟨d, hd, -⟩ := exists_hexValue? hc
      obtain ⟨n, hn⟩ := ih.mpr hcs
      exact ⟨n, by rw [ofHexFrom?, hd, Option.bind_some, hn]⟩

/-- A text stands for a number if it holds nothing but digits. -/
theorem exists_ofHex?_iff {cs : List Char} :
    (∃ n, ofHex? cs = some n) ↔ ∀ c ∈ cs, c ∈ hexDigits :=
  exists_ofHexFrom?_iff

/-- The number of a text is one of as many digits as the text has, and its numeral is the
text in lower case. -/
theorem hexText_of_ofHex? {cs : List Char} {n : Nat} (h : ofHex? cs = some n) :
    n < 16 ^ cs.length ∧ hexText cs.length n = cs.map Char.toLower := by
  induction cs using List.reverseRecOn generalizing n with
  | nil =>
    obtain rfl := Option.some.inj h
    exact ⟨Nat.one_pos, rfl⟩
  | append_singleton cs c ih =>
    rw [ofHex?, ofHexFrom?_append] at h
    obtain ⟨m, hm, h⟩ := Option.bind_eq_some_iff.mp h
    obtain ⟨d, hd, h⟩ := Option.bind_eq_some_iff.mp h
    obtain rfl : 16 * m + d = n := Option.some.inj h
    obtain ⟨hlt, htext⟩ := ih hm
    obtain ⟨d', hd', hdlt, hdigit⟩ := exists_hexValue? (mem_hexDigits_of_hexValue? hd)
    obtain rfl : d = d' := Option.some.inj (hd.symm.trans hd')
    have hdiv : (16 * m + d) / 16 = m := by omega
    have hmod : (16 * m + d) % 16 = d := by omega
    rw [List.length_append, List.length_singleton, hexText, hdiv, hmod, htext, hdigit,
      List.map_append, List.map_singleton, Nat.pow_succ]
    exact ⟨by omega, rfl⟩

/-! ## Order -/

/-- Of two texts of one length that differ, the smaller one stays so whatever follows. -/
theorem append_lt_append {l l' : List Char} (h : l < l') (hlength : l.length = l'.length)
    (t t' : List Char) : l ++ t < l' ++ t' := by
  induction h with
  | nil => cases hlength
  | rel h => exact .rel h
  | cons _ ih => exact .cons (ih (Nat.succ.inj hlength))

theorem hexText_lt {width n m : Nat} (hm : m < 16 ^ width) (h : n < m) :
    hexText width n < hexText width m := by
  induction width generalizing n m with
  | zero => omega
  | succ width ih =>
    rw [Nat.pow_succ] at hm
    rw [hexText, hexText]
    rcases Nat.lt_or_ge (n / 16) (m / 16) with hlt | hge
    · exact append_lt_append (ih (by omega) hlt) (by rw [length_hexText, length_hexText]) ..
    · -- the numbers differ in the last digit only
      have hdiv : n / 16 = m / 16 := by omega
      rw [hdiv]
      exact List.append_left_lt (.rel (hexDigit_lt (by omega) (by omega)))

section

variable {width n m : Nat}

theorem hexText_inj (hn : n < 16 ^ width) (hm : m < 16 ^ width) :
    hexText width n = hexText width m ↔ n = m := by
  refine ⟨fun h => ?_, congrArg _⟩
  have hread := ofHex?_hexText hn
  rw [h, ofHex?_hexText hm] at hread
  exact (Option.some.inj hread).symm

/-- Numerals of one length are ordered as their numbers are. -/
theorem hexText_lt_iff (hn : n < 16 ^ width) (hm : m < 16 ^ width) :
    hexText width n < hexText width m ↔ n < m := by
  refine ⟨fun h => ?_, hexText_lt hm⟩
  rcases Nat.lt_trichotomy n m with hlt | rfl | hgt
  · exact hlt
  · exact absurd h (List.lt_irrefl _)
  · exact absurd (hexText_lt hn hgt) (List.lt_asymm h)

end

/-! ## Bytes -/

theorem ofOctets_concat (bytes : List UInt8) (b : UInt8) :
    ofOctets (bytes ++ [b]) = 256 * ofOctets bytes + b.toNat := by
  rw [ofOctets, List.foldl_append]
  rfl

theorem ofOctets_lt (bytes : List UInt8) : ofOctets bytes < 256 ^ bytes.length := by
  induction bytes using List.reverseRecOn with
  | nil => exact Nat.one_pos
  | append_singleton bytes b ih =>
    have hb := b.toNat_lt
    rw [ofOctets_concat, List.length_append, List.length_singleton, Nat.pow_succ]
    omega

theorem toNat_ofNat_mod (n : Nat) : (UInt8.ofNat (n % 256)).toNat = n % 256 :=
  UInt8.toNat_ofNat_of_lt' (Nat.mod_lt n (by decide))

theorem length_octets (count n : Nat) : (octets count n).length = count := by
  induction count generalizing n with
  | zero => rfl
  | succ count ih => rw [octets, List.length_append, ih, List.length_singleton]

/-- Bytes are those of the number that they stand for. -/
theorem octets_ofOctets (bytes : List UInt8) : octets bytes.length (ofOctets bytes) = bytes := by
  induction bytes using List.reverseRecOn with
  | nil => rfl
  | append_singleton bytes b ih =>
    have hb := b.toNat_lt
    have hdiv : (256 * ofOctets bytes + b.toNat) / 256 = ofOctets bytes := by omega
    have hmod : (256 * ofOctets bytes + b.toNat) % 256 = b.toNat := by omega
    rw [ofOctets_concat, List.length_append, List.length_singleton, octets, hdiv, hmod, ih,
      UInt8.ofNat_toNat]

/-- A number is that of its bytes, if they are as many as it needs. -/
theorem ofOctets_octets {count n : Nat} (h : n < 256 ^ count) : ofOctets (octets count n) = n := by
  induction count generalizing n with
  | zero => exact (Nat.lt_one_iff.mp h).symm
  | succ count ih =>
    rw [Nat.pow_succ] at h
    rw [octets, ofOctets_concat, ih (by omega), toNat_ofNat_mod]
    omega

/-- The two digits of a byte. -/
def byteText (b : UInt8) : List Char := hexText 2 b.toNat

/-- A numeral of twice as many digits as there are bytes is made of the digits of the bytes. -/
theorem hexText_octets (count n : Nat) :
    hexText (2 * count) n = (octets count n).flatMap byteText := by
  induction count generalizing n with
  | zero => rfl
  | succ count ih =>
    have hbyte : byteText (UInt8.ofNat (n % 256)) =
        [hexDigit (n / 16 % 16), hexDigit (n % 16)] := by
      have hhigh : n % 256 / 16 % 16 = n / 16 % 16 := by omega
      have hlow : n % 256 % 16 = n % 16 := by omega
      rw [byteText, toNat_ofNat_mod, hexText, hexText, hexText, hhigh, hlow]
      rfl
    rw [octets, List.flatMap_append, List.flatMap_singleton, hbyte, ← ih, Nat.mul_succ, hexText,
      hexText, Nat.div_div_eq_div_mul, List.append_assoc]
    rfl

end Telemetry.Number
