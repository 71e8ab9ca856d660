import BrowserTelemetry.Calendar.Timestamp
import BrowserTelemetry.Proofs.Digits
import Mathlib.Algebra.Group.Nat.Defs

/-!
# The text of a moment is read as the moment

Every part of a timestamp is read off the text that follows it (`year?_print`, `twoDigits?_padded`,
`fraction?_print`), so the parts of the whole are read one after the other, and a time with the
offset zero is universal time. A number of a fixed width takes its digits and no more. The year of a
sign is as long as its digits go, but a minus sign follows it.
-/

namespace BrowserTelemetry

set_option autoImplicit false

namespace Digits

/-- A part of a text that begins with no digit does not either. -/
theorem NoDigit.take {rest : List Char} (h : NoDigit rest) (k : Nat) : NoDigit (rest.take k) := by
  cases k with
  | zero => exact noDigit_nil
  | succ k =>
    cases rest with
    | nil => exact noDigit_nil
    | cons c rest => exact noDigit_cons (h c rfl)

end Digits

open Digits (NoDigit)

namespace Timestamp

variable {width n : Nat} {ds rest : List Char}

/-! ## Numbers with zeros in front -/

theorem isDigit_of_mem_padded {c : Char} (h : c ∈ padded width n) : c.isDigit = true := by
  rcases List.mem_append.1 h with h | h
  · obtain rfl := List.eq_of_mem_replicate h
    rfl
  · exact Digits.isDigit_of_mem h

theorem padded_ne_nil : padded width n ≠ [] :=
  fun h => Nat.toDigits_ne_nil (List.append_eq_nil_iff.1 h).2

theorem length_padded (hwidth : 0 < width) (h : n < 10 ^ width) :
    (padded width n).length = width := by
  have hlen := (Nat.length_toDigits_le_iff (by decide) hwidth).2 h
  rw [padded, List.length_append, List.length_replicate]
  omega

theorem digitsValue_padded (width n : Nat) : digitsValue (padded width n) = n := by
  have hzeros : ∀ k, (List.replicate k '0').foldl (fun n c => n * 10 + (c.toNat - 48)) 0 = 0 := by
    intro k
    induction k with
    | zero => rfl
    | succ k ih => exact ih
  rw [digitsValue, padded, List.foldl_append, hzeros]
  exact Digits.foldl_toDigits n

/-- As many digits as there are, when that is within the width. -/
theorem takeWhile_take (hds : ∀ c ∈ ds, c.isDigit = true) (hlen : ds.length ≤ width)
    (hrest : NoDigit (rest.take (width - ds.length))) :
    ((ds ++ rest).take width).takeWhile Char.isDigit = ds := by
  rw [List.take_append, List.take_of_length_le hlen, Digits.takeWhile_append hds hrest]

theorem number?_append (hds : ∀ c ∈ ds, c.isDigit = true) (hne : ds ≠ []) (hlen : ds.length ≤ width)
    (hrest : NoDigit (rest.take (width - ds.length))) :
    number? width (ds ++ rest) = some (digitsValue ds, rest) := by
  simp only [number?, takeWhile_take hds hlen hrest, List.isEmpty_eq_false_iff.2 hne,
    List.drop_left]
  rfl

/-- A number that takes up all its places. -/
theorem number?_padded (hwidth : 0 < width) (h : n < 10 ^ width) :
    number? width (padded width n ++ rest) = some (n, rest) := by
  have hlen := length_padded hwidth h
  rw [number?_append (fun _ => isDigit_of_mem_padded) padded_ne_nil (Nat.le_of_eq hlen),
    digitsValue_padded]
  rw [hlen, Nat.sub_self, List.take_zero]
  exact Digits.noDigit_nil

/-- A digit is no blank. -/
theorem dropBlanks_digits (hds : ∀ c ∈ ds, c.isDigit = true) (hne : ds ≠ []) :
    Text.dropBlanks (ds ++ rest) = ds ++ rest := by
  cases ds with
  | nil => exact absurd rfl hne
  | cons c cs =>
    have hc := Char.isDigit_iff_toNat.1 (hds c List.mem_cons_self)
    refine List.dropWhile_cons_of_neg ?_
    simp only [Text.isBlank]
    have h0 : '0'.toNat = 48 := rfl
    have h9 : '9'.toNat = 57 := rfl
    simp
    omega

theorem twoDigits?_padded (h : n < 100) : twoDigits? (padded 2 n ++ rest) = some (n, rest) := by
  rw [twoDigits?, dropBlanks_digits (fun _ => isDigit_of_mem_padded) padded_ne_nil,
    number?_padded (by decide) h]

/-! ## The parts of a timestamp -/

/-- A year that begins with a digit has no sign. -/
theorem year?_digits (hds : ∀ c ∈ ds, c.isDigit = true) (hne : ds ≠ []) :
    year? (ds ++ rest) = (number? 4 (ds ++ rest)).map fun (n, rest) => ((n : Int), rest) := by
  have hhead : ∀ c cs, c.isDigit = false → ds ++ rest ≠ c :: cs := by
    rintro c cs hc heq
    cases ds with
    | nil => exact absurd rfl hne
    | cons d ds =>
      obtain rfl := (List.cons.inj heq).1
      exact absurd (hds d List.mem_cons_self) (by simp [hc])
  rw [year?, dropBlanks_digits hds hne]
  split
  · exact absurd ‹_› (hhead _ _ rfl)
  · exact absurd ‹_› (hhead _ _ rfl)
  · rfl

theorem year?_print (year : Int) :
    year? (printYear year ++ '-' :: rest) = some (year, '-' :: rest) := by
  have hdigits {n : Nat} : ∀ c ∈ padded 4 n, c.isDigit = true := fun _ => isDigit_of_mem_padded
  -- Behind a sign all that is left may be digits, so it is the separator that ends the year.
  have hyear : number? (padded 4 year.natAbs ++ '-' :: rest).length
      (padded 4 year.natAbs ++ '-' :: rest) = some (year.natAbs, '-' :: rest) := by
    have hnot : NoDigit ('-' :: rest) := Digits.noDigit_cons rfl
    rw [number?_append hdigits padded_ne_nil (by simp) (hnot.take _), digitsValue_padded]
  rw [printYear]
  split
  · -- Four digits, without a sign.
    rename_i hfour
    rw [year?_digits hdigits padded_ne_nil, number?_padded (by decide) (by omega)]
    simp [Int.toNat_of_nonneg hfour.1]
  · split
    · rename_i hneg
      have hsign : year? ('-' :: (padded 4 year.natAbs ++ '-' :: rest)) =
          some (-(year.natAbs : Int), '-' :: rest) := congrArg (Option.map _) hyear
      rw [List.cons_append, hsign]
      congr 2
      omega
    · rename_i hneg
      have hsign : year? ('+' :: (padded 4 year.natAbs ++ '-' :: rest)) =
          some ((year.natAbs : Int), '-' :: rest) := congrArg (Option.map _) hyear
      rw [List.cons_append, hsign]
      congr 2
      omega

theorem separator?_cons {c : Char} (h : Text.isBlank c = false) :
    separator? c (c :: rest) = some rest := by
  simp [separator?, Text.dropBlanks, h]

theorem fraction?_padded (hwidth : 0 < width) (hle : width ≤ 9) (h : n < 10 ^ width)
    (hrest : NoDigit rest) :
    fraction? ('.' :: (padded width n ++ rest)) = some (n * 10 ^ (9 - width), rest) := by
  have hlen := length_padded hwidth h
  have htake : ((padded width n ++ rest).take 9).takeWhile Char.isDigit = padded width n :=
    takeWhile_take (fun _ => isDigit_of_mem_padded) (by omega) (hrest.take _)
  have hdrop : ((padded width n ++ rest).drop width).dropWhile Char.isDigit = rest := by
    rw [List.drop_left' hlen]
    exact @Digits.dropWhile_append [] rest nofun hrest
  simp only [fraction?, htake, List.isEmpty_eq_false_iff.2 padded_ne_nil, hlen, hdrop,
    digitsValue_padded]
  rfl

/-- The fraction has as many digits as it needs to be exact. -/
theorem fraction?_print {nanos : Nat} (h : nanos ≤ 999999999) :
    fraction? (printFraction nanos ++ ['Z']) = some (nanos, ['Z']) := by
  have hz : NoDigit ['Z'] := Digits.noDigit_cons rfl
  rw [printFraction]
  split
  · rename_i hzero
    rw [hzero]
    rfl
  · split
    · rw [List.cons_append, fraction?_padded (by decide) (by decide) (by omega) hz]
      congr 2
      omega
    · split
      · rw [List.cons_append, fraction?_padded (by decide) (by decide) (by omega) hz]
        congr 2
        omega
      · rw [List.cons_append, fraction?_padded (by decide) (by decide) (by omega) hz]
        congr 2
        omega

end Timestamp

theorem Calendar.daysOf_le (year : Int) (month : Nat) : daysOf year month ≤ 31 := by
  unfold daysOf
  split
  · split <;> decide
  all_goals decide

/-- A time at the offset zero is universal time. -/
theorem Moment.ofLocal?_zero (m : Moment) :
    ofLocal? 0 m.year m.month m.day m.hour m.minute m.second m.nanos = some m := by
  have hvalid := m.valid
  obtain ⟨hhour, hminute⟩ : m.hour ≤ 23 ∧ m.minute ≤ 59 := by
    simp only [Bool.and_eq_true, Calendar.validTime, decide_eq_true_eq] at hvalid
    exact ⟨hvalid.2.1.1.1, hvalid.2.1.1.2⟩
  have hday : ((m.hour : Int) * 60 + m.minute - 0) / 1440 = 0 := by omega
  have hhours : (((m.hour : Int) * 60 + m.minute - 0) % 1440).toNat / 60 = m.hour := by omega
  have hminutes : (((m.hour : Int) * 60 + m.minute - 0) % 1440).toNat % 60 = m.minute := by omega
  rw [ofLocal?, if_neg (by decide), if_pos hvalid]
  simp only [hday, hhours, hminutes]
  exact of?_self m

namespace Timestamp

/-- A moment is read from its text. -/
theorem parse_print (m : Moment) : parse (print m) = some m := by
  have hvalid := m.valid
  simp only [Calendar.validDate, Calendar.validTime, Bool.and_eq_true, decide_eq_true_eq] at hvalid
  obtain ⟨⟨⟨⟨-, hmonth⟩, -⟩, hday⟩, ⟨⟨hhour, hminute⟩, hsecond⟩, hnanos⟩ := hvalid
  have hdays : m.day < 100 := by
    have := Calendar.daysOf_le m.year m.month
    omega
  have hmark (rest : List Char) : timeMark? ('T' :: rest) = some rest := rfl
  have hoffset : offset? (Text.dropBlanks ['Z']) = some (0, []) := rfl
  rw [parse, print, String.toList_ofList, printChars]
  simp only [List.append_assoc, List.cons_append, parseChars, Option.bind_eq_bind, Option.bind_some,
    year?_print, separator?_cons (c := '-') rfl, separator?_cons (c := ':') rfl, hmark,
    twoDigits?_padded (show m.month < 100 by omega), twoDigits?_padded hdays,
    twoDigits?_padded (show m.hour < 100 by omega),
    twoDigits?_padded (show m.minute < 100 by omega),
    twoDigits?_padded (show m.second < 100 by omega), fraction?_print hnanos, hoffset]
  exact m.ofLocal?_zero

end Timestamp

end BrowserTelemetry
