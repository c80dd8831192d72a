import Mathlib.Data.List.TakeWhile
import Telemetry.Proofs.Number.Decimal
import Telemetry.Proofs.Text.Pieces
import Telemetry.Time.Stamp

/-!
# Time stamps read back

A stamp is read as the instant that it was written of, part by part: after the digits of a
part stands a character that is no digit, so each part is read to its end and no further.

* `digits?_append`, `number?_append`, `year?_append`, `fraction?_append`: the parts;
* `ofStampChars?_stampChars`: the whole, leap seconds and years of any length included.
-/

namespace Telemetry.Instant

open Telemetry.Number Telemetry.Text

/-! ## Parts -/

/-- The text does not begin with a digit. -/
def NoDigit (rest : List Char) : Prop := ∀ c ∈ rest.head?, ¬c.isDigit

theorem noDigit_cons {c : Char} {rest : List Char} (h : ¬c.isDigit) : NoDigit (c :: rest) := by
  rintro d ⟨⟩
  exact h

theorem takeWhile_take_of_noDigit {rest : List Char} (h : NoDigit rest) (count : Nat) :
    (rest.take count).takeWhile Char.isDigit = [] := by
  cases rest with
  | nil => rw [List.take_nil, List.takeWhile_nil]
  | cons c rest =>
    cases count with
    | zero => rfl
    | succ count =>
      rw [List.take_succ_cons]
      exact List.takeWhile_cons_of_neg (h c rfl)

variable {ds rest : List Char}

theorem digits?_append {width : Nat} (hne : ds ≠ []) (hds : ∀ c ∈ ds, c.isDigit)
    (hwidth : ds.length ≤ width) (hrest : NoDigit rest) :
    digits? width (ds ++ rest) = some (ofDigits ds, rest) := by
  have hrun : ((ds ++ rest).take width).takeWhile Char.isDigit = ds := by
    rw [List.take_append, List.take_of_length_le hwidth, List.takeWhile_append_of_pos hds,
      takeWhile_take_of_noDigit hrest, List.append_nil]
  simp only [digits?, hrun, List.isEmpty_iff, hne, if_false, List.drop_left]

theorem trimStart_append (hne : ds ≠ []) (hds : ∀ c ∈ ds, c.isDigit) :
    trimStart (ds ++ rest) = ds ++ rest := by
  apply trimStart_eq_self
  rw [List.head?_append_of_ne_nil _ hne]
  exact fun c hc => isBlank_of_isDigit (hds c (List.mem_of_head? hc))

/-- A number of two digits is read to its end. -/
theorem number?_append {n : Nat} (hn : n < 100) (hrest : NoDigit rest) :
    number? 2 (padded 2 n ++ rest) = some (n, rest) := by
  have hlength : (padded 2 n).length = 2 := length_padded (length_digits_le (by decide) hn)
  have hdigit : ∀ c ∈ padded 2 n, c.isDigit := fun _ => isDigit_of_mem_padded
  rw [number?, trimStart_append (padded_ne_nil 2 n) hdigit,
    digits?_append (padded_ne_nil 2 n) hdigit hlength.le hrest, ofDigits_padded]

theorem separator?_cons {c : Char} (hc : ¬isBlank c) : separator? c (c :: rest) = some rest := by
  have htrim : trimStart (c :: rest) = c :: rest := trimStart_eq_self fun d hd => by
    cases hd
    exact hc
  rw [separator?, htrim]
  exact if_pos rfl

/-! ## The year -/

/-- A year after a sign, with however many digits. -/
theorem digits?_signed (n : Nat) (hrest : NoDigit rest) :
    digits? (padded 4 n ++ rest).length (padded 4 n ++ rest) = some (n, rest) := by
  have hdigit : ∀ c ∈ padded 4 n, c.isDigit := fun _ => isDigit_of_mem_padded
  rw [digits?_append (padded_ne_nil 4 n) hdigit (by simp) hrest, ofDigits_padded]

/-- A year of four digits without a sign. -/
theorem year?_padded {n : Nat} (hn : n < 10000) (hrest : NoDigit rest) :
    year? (padded 4 n ++ rest) = some ((n : Int), rest) := by
  have hlength : (padded 4 n).length = 4 := length_padded (length_digits_le (by decide) hn)
  have hdigit : ∀ c ∈ padded 4 n, c.isDigit := fun _ => isDigit_of_mem_padded
  have hread := digits?_append (padded_ne_nil 4 n) hdigit hlength.le hrest
  -- a digit is no sign
  have hsign : ∀ c, ¬c.isDigit → ∀ cs, padded 4 n ++ rest ≠ c :: cs := by
    intro c hc cs h
    have hhead : (padded 4 n ++ rest).head? = (padded 4 n).head? :=
      List.head?_append_of_ne_nil _ (padded_ne_nil 4 n)
    rw [h, List.head?_cons] at hhead
    exact hc (hdigit c (List.mem_of_head? hhead.symm))
  rw [year?, trimStart_append (padded_ne_nil 4 n) hdigit]
  split
  · rename_i h
    exact absurd h (hsign '-' (by decide) _)
  · rename_i h
    exact absurd h (hsign '+' (by decide) _)
  · rw [hread, ofDigits_padded]
    rfl

theorem year?_append (year : Int) (hrest : NoDigit rest) :
    year? (yearText year ++ rest) = some (year, rest) := by
  rw [yearText]
  split
  · rename_i h
    rw [year?_padded (by omega) hrest, Int.toNat_of_nonneg h.1]
  · rename_i h
    split
    · rename_i hneg
      have htrim : trimStart (('-' :: padded 4 year.natAbs) ++ rest) =
          '-' :: (padded 4 year.natAbs ++ rest) := rfl
      rw [year?, htrim]
      simp only [digits?_signed _ hrest, Option.map_some]
      congr 2
      omega
    · rename_i hneg
      have htrim : trimStart (('+' :: padded 4 year.natAbs) ++ rest) =
          '+' :: (padded 4 year.natAbs ++ rest) := rfl
      rw [year?, htrim]
      simp only [digits?_signed _ hrest, Option.map_some]
      congr 2
      omega

/-! ## The fraction -/

/-- A fraction of some digits counts nanoseconds when it is filled up to nine. -/
theorem fraction?_padded {width n : Nat} (hw : 0 < width) (hle : width ≤ 9)
    (hn : n < Nat.pow 10 width) (hrest : NoDigit rest) :
    fraction? (('.' :: padded width n) ++ rest) = some (Nat.pow 10 (9 - width) * n, rest) := by
  have hlength : (padded width n).length = width := length_padded (length_digits_le hw hn)
  have hdigit : ∀ c ∈ padded width n, c.isDigit := fun _ => isDigit_of_mem_padded
  have hspan : spanDigits (padded width n ++ rest) = (padded width n, rest) := by
    have hnone : rest.takeWhile Char.isDigit = [] := by
      have := takeWhile_take_of_noDigit hrest rest.length
      rwa [List.take_length] at this
    rw [spanDigits, List.span_eq_takeWhile_dropWhile, List.takeWhile_append_of_pos hdigit,
      List.dropWhile_append_of_pos hdigit, hnone, List.append_nil,
      List.dropWhile_eq_self_iff.mpr fun hl => hrest _ (List.head?_eq_getElem? ▸ by simp [hl])]
  have hfill : (padded width n ++ List.replicate 9 '0').take 9 =
      padded width n ++ List.replicate (9 - width) '0' := by
    rw [List.take_append, List.take_of_length_le (hlength.le.trans hle), hlength,
      List.take_replicate, Nat.min_eq_left (Nat.sub_le 9 width)]
  rw [List.cons_append, fraction?, hspan]
  split
  · rename_i h
    exact absurd (Prod.mk.inj h).1 (padded_ne_nil width n)
  · rename_i h
    obtain ⟨rfl, rfl⟩ := Prod.mk.inj h
    rw [hfill, ofDigits_append_zeros, ofDigits_padded]

theorem fraction?_append {nano : Nat} (hn : nano < secondNanos) :
    fraction? (fractionText nano ++ ['Z']) = some (nano, ['Z']) := by
  have hrest : NoDigit ['Z'] := noDigit_cons (by decide)
  have hn : nano < 1000000000 := hn
  rw [fractionText]
  split
  · rename_i h
    rw [h]
    rfl
  split
  · rename_i h
    rw [fraction?_padded (by decide) (by decide) (show _ < 1000 by omega) hrest]
    congr 2
    show 1000000 * _ = _
    omega
  split
  · rename_i h
    rw [fraction?_padded (by decide) (by decide) (show _ < 1000000 by omega) hrest]
    congr 2
    show 1000 * _ = _
    omega
  · rw [fraction?_padded (by decide) (by decide) (show _ < 1000000000 by omega) hrest]
    congr 2
    show 1 * _ = _
    omega

/-! ## The whole -/

theorem noDigit_fractionText (nano : Nat) : NoDigit (fractionText nano ++ ['Z']) := by
  rw [fractionText]
  repeat' split
  all_goals exact noDigit_cons (by decide)

/-- A clock without offset shows universal time. -/
theorem shift?_zero (t : Instant) : shift? t.date t.second t.nano 0 = some t := by
  obtain ⟨hlt, -⟩ := t.isTime
  have hlt : t.second < 86400 := hlt
  have hday : ¬((t.second : Int) - 0 < 0) ∧ ¬(((daySeconds : Nat) : Int) ≤ t.second - 0) := by
    constructor
    · omega
    · show ¬((86400 : Int) ≤ _)
      omega
  rw [shift?, if_neg hday.1, if_neg hday.2, Int.sub_zero, Int.toNat_natCast, ofParts?,
    dif_pos t.isTime]

theorem ofParts?_date (d : Date) : Date.ofParts? d.year d.month d.day = some d := dif_pos d.isDate

theorem month_lt (d : Date) : d.month < 100 := by
  obtain ⟨-, ⟨-, h⟩, -⟩ := d.isDate
  omega

theorem day_lt (d : Date) : d.day < 100 := by
  obtain ⟨-, -, -, h⟩ := d.isDate
  have hlength : monthLength d.year d.month ≤ 31 := by
    rw [monthLength]
    repeat' split
    all_goals decide
  omega

/-- The text of a date and of what a clock shows, in universal time. -/
def clockText (date : Date) (hour minute second nano : Nat) : List Char :=
  yearText date.year ++ '-' :: (padded 2 date.month ++ '-' :: (padded 2 date.day ++ 'T' ::
    (padded 2 hour ++ ':' :: (padded 2 minute ++ ':' :: (padded 2 second ++
      (fractionText nano ++ ['Z']))))))

/-- A part that can be read leaves the rest to be read. -/
theorem bind_eq_of_eq_some {α β : Type} {x : Option α} {a : α} {rest : α → Option β} {b : Option β}
    (hx : x = some a) (hrest : rest a = b) : (x >>= rest) = b := by
  rw [hx]
  exact hrest

/-- The text of a clock is read part by part; a sixtieth second is a leap second. -/
theorem ofStampChars?_clockText (date : Date) {hour minute second nano : Nat} (hhour : hour < 24)
    (hminute : minute < 60) (hsecond : second ≤ 60) (hnano : nano < secondNanos) :
    ofStampChars? (clockText date hour minute second nano) =
      if second = 60 then shift? date (3600 * hour + 60 * minute + 59) (nano + secondNanos) 0
      else shift? date (3600 * hour + 60 * minute + second) nano 0 := by
  have hdash : ∀ {rest}, NoDigit ('-' :: rest) := noDigit_cons (by decide)
  have hday : ∀ {rest}, NoDigit ('T' :: rest) := noDigit_cons (by decide)
  have hcolon : ∀ {rest}, NoDigit (':' :: rest) := noDigit_cons (by decide)
  have hzone : zone? (trimStart ['Z']) = some (0, []) := rfl
  rw [ofStampChars?, clockText]
  refine bind_eq_of_eq_some (year?_append _ hdash) ?_
  refine bind_eq_of_eq_some (separator?_cons (by decide)) ?_
  refine bind_eq_of_eq_some (number?_append (month_lt date) hdash) ?_
  refine bind_eq_of_eq_some (separator?_cons (by decide)) ?_
  refine bind_eq_of_eq_some (number?_append (day_lt date) hday) ?_
  refine bind_eq_of_eq_some (ofParts?_date date) ?_
  refine bind_eq_of_eq_some (a := padded 2 hour ++ ':' :: (padded 2 minute ++ ':' ::
    (padded 2 second ++ (fractionText nano ++ ['Z'])))) rfl ?_
  refine bind_eq_of_eq_some (number?_append (by omega) hcolon) ?_
  refine bind_eq_of_eq_some (separator?_cons (by decide)) ?_
  refine bind_eq_of_eq_some (number?_append (by omega) hcolon) ?_
  refine bind_eq_of_eq_some (separator?_cons (by decide)) ?_
  refine bind_eq_of_eq_some (number?_append (by omega) (noDigit_fractionText nano)) ?_
  refine bind_eq_of_eq_some (fraction?_append hnano) ?_
  refine bind_eq_of_eq_some hzone ?_
  exact bind_eq_of_eq_some (if_pos ⟨rfl, hhour, hminute, hsecond, by decide⟩) rfl

/-- The second that a stamp shows, which is the sixtieth in a leap second. -/
def shownSecond (t : Instant) : Nat := t.second % 60 + if t.inLeapSecond then 1 else 0

theorem stampChars_eq (t : Instant) :
    t.stampChars = clockText t.date (t.second / 3600) (t.second / 60 % 60) t.shownSecond
      (t.nano % secondNanos) := by
  simp only [stampChars, clockText, shownSecond, List.append_assoc, List.cons_append]

theorem shownSecond_cases (t : Instant) :
    (t.shownSecond = 60 ∧ t.second % 60 = 59 ∧ t.nano % secondNanos + secondNanos = t.nano) ∨
      (t.shownSecond = t.second % 60 ∧ t.nano % secondNanos = t.nano) := by
  obtain ⟨-, hnano, hleap⟩ := t.isTime
  have hnano : t.nano < 2 * 1000000000 := hnano
  rw [shownSecond]
  by_cases h : secondNanos ≤ t.nano
  · have hin : t.inLeapSecond := decide_eq_true h
    have h' : 1000000000 ≤ t.nano := h
    refine .inl ⟨?_, hleap h, ?_⟩
    · rw [if_pos hin, hleap h]
    · show t.nano % 1000000000 + 1000000000 = _
      omega
  · have hout : ¬t.inLeapSecond := fun hl => h (of_decide_eq_true hl)
    rw [if_neg hout]
    exact .inr ⟨rfl, Nat.mod_eq_of_lt (Nat.not_le.mp h)⟩

/-- The characters of a stamp are read as the instant that they were written of. -/
theorem ofStampChars?_stampChars (t : Instant) : ofStampChars? t.stampChars = some t := by
  have hsecond : t.second < 86400 := t.isTime.1
  have hshown := t.shownSecond_cases
  rw [stampChars_eq, ofStampChars?_clockText t.date (by omega) (by omega) (by omega)
    (Nat.mod_lt t.nano (by decide))]
  rcases hshown with ⟨hshown, hlast, hnano⟩ | ⟨hshown, hnano⟩
  · have htime : 3600 * (t.second / 3600) + 60 * (t.second / 60 % 60) + 59 = t.second := by omega
    rw [if_pos hshown, hnano, htime]
    exact t.shift?_zero
  · have htime :
        3600 * (t.second / 3600) + 60 * (t.second / 60 % 60) + t.second % 60 = t.second := by omega
    rw [if_neg (by omega), hnano, hshown, htime]
    exact t.shift?_zero

/-- A stamp is read as the instant that it was written of. -/
theorem ofStamp?_stamp (t : Instant) : ofStamp? t.stamp = some t := by
  rw [ofStamp?, stamp, String.toList_ofList, ofStampChars?_stampChars]

end Telemetry.Instant
