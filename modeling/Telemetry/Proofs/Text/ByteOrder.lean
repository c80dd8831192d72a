/-!
# The order of texts and of their bytes

Texts are compared by their characters. In UTF-8 this is the order of their bytes.

* `Text.bytes`: the bytes of a text;
* `utf8EncodeChar_lt`: the bytes of a smaller character come first, whatever follows;
* `bytes_lt`: so do those of a smaller text.
-/

namespace Telemetry.Text

theorem toNat_val_lt (c : Char) : c.val.toNat < 0x110000 := by
  rcases c.valid with h | ⟨-, h⟩
  · exact Nat.lt_trans h (by decide)
  · exact h

theorem ofNat_cons_lt {a b : Nat} {xs ys : List UInt8} (ha : a < 256) (hb : b < 256)
    (h : a < b ∨ a = b ∧ xs < ys) : UInt8.ofNat a :: xs < UInt8.ofNat b :: ys := by
  rw [List.cons_lt_cons_iff, UInt8.lt_iff_toNat_lt, UInt8.toNat_ofNat_of_lt' ha,
    UInt8.toNat_ofNat_of_lt' hb]
  exact h.imp_right fun ⟨e, h⟩ => ⟨congrArg _ e, h⟩

/-- The last byte of several. -/
theorem lastByte_lt {v w : Nat} {xs ys : List UInt8} (h : v % 64 < w % 64) :
    UInt8.ofNat (v % 0x40 + 0x80) :: xs < UInt8.ofNat (w % 0x40 + 0x80) :: ys :=
  ofNat_cons_lt (by omega) (by omega) (.inl (by omega))

/-- The last two bytes of several. -/
theorem lastBytes_lt {v w : Nat} {xs ys : List UInt8}
    (h : v / 64 % 64 < w / 64 % 64 ∨ v / 64 % 64 = w / 64 % 64 ∧ v % 64 < w % 64) :
    UInt8.ofNat (v / 64 % 0x40 + 0x80) :: UInt8.ofNat (v % 0x40 + 0x80) :: xs <
      UInt8.ofNat (w / 64 % 0x40 + 0x80) :: UInt8.ofNat (w % 0x40 + 0x80) :: ys := by
  refine ofNat_cons_lt (by omega) (by omega) ?_
  rcases h with h | ⟨e, h⟩
  · exact .inl (by omega)
  · exact .inr ⟨by omega, lastByte_lt h⟩

/-- The bytes of two characters differ before either ends, and first where the greater
character has the greater byte. -/
theorem utf8EncodeChar_lt {c d : Char} (h : c < d) (x y : List UInt8) :
    String.utf8EncodeChar c ++ x < String.utf8EncodeChar d ++ y := by
  have h : c.val.toNat < d.val.toNat := h
  have hd := toNat_val_lt d
  unfold String.utf8EncodeChar
  generalize c.val.toNat = v at h
  generalize d.val.toNat = w at h hd
  show (if v ≤ 0x7f then _ else _) ++ x < (if w ≤ 0x7f then _ else _) ++ y
  split
  · -- one byte
    split
    · exact ofNat_cons_lt (by omega) (by omega) (.inl h)
    · split
      · exact ofNat_cons_lt (by omega) (by omega) (.inl (by omega))
      · split <;> exact ofNat_cons_lt (by omega) (by omega) (.inl (by omega))
  · rw [if_neg (by omega : ¬ w ≤ 0x7f)]
    split
    · -- two bytes
      split
      · refine ofNat_cons_lt (by omega) (by omega) ?_
        by_cases e : v / 64 = w / 64
        · exact .inr ⟨by omega, lastByte_lt (by omega)⟩
        · exact .inl (by omega)
      · split <;> exact ofNat_cons_lt (by omega) (by omega) (.inl (by omega))
    · rw [if_neg (by omega : ¬ w ≤ 0x7ff)]
      split
      · -- three bytes
        split
        · refine ofNat_cons_lt (by omega) (by omega) ?_
          by_cases e : v / 4096 = w / 4096
          · exact .inr ⟨by omega, lastBytes_lt (by omega)⟩
          · exact .inl (by omega)
        · exact ofNat_cons_lt (by omega) (by omega) (.inl (by omega))
      · -- four bytes
        rw [if_neg (by omega : ¬ w ≤ 0xffff)]
        refine ofNat_cons_lt (by omega) (by omega) ?_
        by_cases e : v / 262144 = w / 262144
        · refine .inr ⟨by omega, ofNat_cons_lt (by omega) (by omega) ?_⟩
          by_cases e' : v / 4096 = w / 4096
          · exact .inr ⟨by omega, lastBytes_lt (by omega)⟩
          · exact .inl (by omega)
        · exact .inl (by omega)

/-- The bytes of a text in UTF-8. -/
def bytes (s : String) : List UInt8 := s.toUTF8.data.toList

theorem bytes_eq (s : String) : bytes s = s.toList.flatMap String.utf8EncodeChar := by
  have h := String.utf8Encode_toList (b := s)
  rw [bytes, String.toUTF8_eq_toByteArray, ← h, List.utf8Encode]
  simp

theorem flatMap_utf8EncodeChar_lt {l l' : List Char} (h : l < l') :
    l.flatMap String.utf8EncodeChar < l'.flatMap String.utf8EncodeChar := by
  induction h with
  | nil =>
    rw [List.flatMap_cons, List.flatMap_nil]
    obtain ⟨b, bs, e⟩ := List.exists_cons_of_ne_nil (@String.utf8EncodeChar_ne_nil _)
    rw [e]
    exact List.nil_lt_cons _ _
  | rel h => exact utf8EncodeChar_lt h _ _
  | cons _ ih => exact List.append_left_lt ih

/-- Texts are ordered as their bytes are. -/
theorem bytes_lt {s s' : String} (h : compare s s' = .lt) : bytes s < bytes s' := by
  have hlt : s < s' := compareOfLessAndEq_eq_lt.mp h
  rw [bytes_eq, bytes_eq]
  exact flatMap_utf8EncodeChar_lt hlt

end Telemetry.Text
