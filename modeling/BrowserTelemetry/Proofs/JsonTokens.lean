import BrowserTelemetry.Json.Printer
import BrowserTelemetry.Proofs.Digits

/-!
# Tokens that are written are read

The text of a token is cut off again as that token (`scan_write`, `scan_integer`). Two kinds of
token take more than a look at their first letter. A **string** is read as pieces, one for each
character that was written, and what was written as the number of a character is told apart from the
character only there (`pieces_quote`). A **number** goes on as long as there are digits, so it is
read as it was written only where the text after it cannot go on it (`EndsNumber`), which nothing in
a JSON text does.
-/

namespace BrowserTelemetry
namespace Token

set_option autoImplicit false

/-! ## Strings -/

/-- The piece that a character is read as after it has been written. -/
def pieceOf (c : Char) : Piece :=
  if c.toNat < 0x20 ∧ c ∉ ['\x08', '\x0c', '\n', '\r', '\t'] then .unit c.toNat else .char c

theorem hexUnit?_hexDigit {n : Nat} (h : n < 0x20) :
    hexUnit? '0' '0' (Json.hexDigit (n / 16)) (Json.hexDigit (n % 16)) = some n := by
  have hall : ∀ n < 0x20,
      hexUnit? '0' '0' (Json.hexDigit (n / 16)) (Json.hexDigit (n % 16)) = some n := by decide
  exact hall n h

theorem pieces_escape (c : Char) (rest : List Char) :
    pieces (Json.escape c ++ rest) = (pieceOf c :: (pieces rest).1, (pieces rest).2) := by
  by_cases hletter : c ∈ ['"', '\\', '\x08', '\x0c', '\n', '\r', '\t']
  · -- An escape of one letter each.
    simp only [List.mem_cons, List.not_mem_nil, or_false] at hletter
    rcases hletter with rfl | rfl | rfl | rfl | rfl | rfl | rfl <;> rfl
  · simp only [List.mem_cons, List.not_mem_nil, or_false, not_or] at hletter
    obtain ⟨hquote, hslash, h8, hc, hn, hr, ht⟩ := hletter
    by_cases hcontrol : c.toNat < 0x20
    · have hunit := hexUnit?_hexDigit hcontrol
      simp [Json.escape, pieceOf, pieces, hquote, hslash, h8, hc, hn, hr, ht, hcontrol, hunit]
    · simp [Json.escape, pieceOf, pieces, hquote, hslash, h8, hc, hn, hr, ht, hcontrol]

/-- A string is read as a piece for each of its characters, up to its quote. -/
theorem pieces_quote (cs rest : List Char) :
    pieces (cs.flatMap Json.escape ++ '"' :: rest) = (cs.map pieceOf, .ok rest) := by
  induction cs with
  | nil => rfl
  | cons c cs ih =>
    rw [List.flatMap_cons, List.append_assoc, pieces_escape, ih]
    rfl

theorem text?_unit {n : Nat} (h : n < 0xD800) (ps : List Piece) :
    text? (.unit n :: ps) = (text? ps).map (Char.ofNat n :: ·) := by
  have hhigh : isHigh n = false := by simp [isHigh]; omega
  have hlow : isLow n = false := by simp [isLow]; omega
  cases ps with
  | nil => simp [text?, hhigh, hlow]
  | cons p ps => cases p <;> simp [text?, hhigh, hlow]

/-- The text of the pieces is the text that was written. -/
theorem text?_map_pieceOf (cs : List Char) : text? (cs.map pieceOf) = some cs := by
  induction cs with
  | nil => rfl
  | cons c cs ih =>
    rw [List.map_cons]
    by_cases hunit : c.toNat < 0x20 ∧ c ∉ ['\x08', '\x0c', '\n', '\r', '\t']
    · rw [pieceOf, if_pos hunit, text?_unit (Nat.lt_trans hunit.1 (by decide)), ih, Option.map_some,
        Char.ofNat_toNat]
    · rw [pieceOf, if_neg hunit, text?, ih, Option.map_some]

theorem string?_quote (s : String) (rest : List Char) :
    string? (s.toList.flatMap Json.escape ++ '"' :: rest) = (.string (some s), rest) := by
  rw [string?, pieces_quote]
  simp only [text?_map_pieceOf, Option.map_some, String.ofList_toList]

/-! ## Numbers -/

/-- The text does not go on a number. -/
def EndsNumber (rest : List Char) : Prop :=
  ∀ c ∈ rest.head?, c.isDigit = false ∧ c ≠ '.' ∧ c ≠ 'e' ∧ c ≠ 'E'

theorem endsNumber_cons {c : Char} {rest : List Char}
    (h : c.isDigit = false ∧ c ≠ '.' ∧ c ≠ 'e' ∧ c ≠ 'E') : EndsNumber (c :: rest) := by
  intro d hd
  obtain rfl := Option.some.inj hd
  exact h

theorem EndsNumber.noDigit {rest : List Char} (h : EndsNumber rest) : Digits.NoDigit rest :=
  fun c hc => (h c hc).1

/-- The digits of a number that has at most 64 bits are gathered without a loss. -/
theorem scaledWhole_eq {ds : List Nat} (h : Numeral.exponentValue ds ≤ Numeral.maxSignificand) :
    Numeral.scaledWhole ds = ⟨Numeral.exponentValue ds, 0, false⟩ := by
  induction ds using List.reverseRecOn with
  | nil => rfl
  | append_singleton ds d ih =>
    have hvalue : Numeral.exponentValue (ds ++ [d]) = Numeral.exponentValue ds * 10 + d := by
      rw [Numeral.exponentValue, List.foldl_append]
      rfl
    rw [hvalue] at h ⊢
    have hwhole : Numeral.scaledWhole (ds ++ [d]) = (Numeral.scaledWhole ds).wholeDigit d := by
      rw [Numeral.scaledWhole, List.foldl_append]
      rfl
    rw [hwhole, ih (by omega), Numeral.Scaled.wholeDigit, if_neg (by simp), if_pos h]

theorem exponentValue_toDigits (n : Nat) :
    Numeral.exponentValue ((Nat.toDigits 10 n).map fun c => c.toNat - 48) = n := by
  rw [Numeral.exponentValue, List.foldl_map]
  exact Digits.foldl_toDigits n

theorem digits_append (n : Nat) {rest : List Char} (h : EndsNumber rest) :
    digits (Nat.toDigits 10 n ++ rest) =
      ((Nat.toDigits 10 n).map fun c => c.toNat - 48, rest) := by
  rw [digits, Digits.takeWhile_append (fun _ => Digits.isDigit_of_mem) h.noDigit,
    Digits.dropWhile_append (fun _ => Digits.isDigit_of_mem) h.noDigit]

theorem withExponent_of_ends (negative : Bool) (whole : List Nat) {rest : List Char}
    (h : EndsNumber rest) :
    withExponent negative whole none rest =
      (.number (Numeral.value ⟨negative, whole, none, none⟩), rest) := by
  cases rest with
  | nil => rfl
  | cons c rest =>
    obtain ⟨-, -, he, hE⟩ := h c rfl
    rw [withExponent, if_neg (by simp [he, hE])]

theorem number?_toDigits (negative : Bool) (n : Nat) {rest : List Char} (h : EndsNumber rest) :
    number? negative (Nat.toDigits 10 n ++ rest) =
      (.number
        (Numeral.value ⟨negative, (Nat.toDigits 10 n).map fun c => c.toNat - 48, none, none⟩),
        rest) := by
  rw [number?, digits_append n h]
  split
  · rename_i hnone
    exact absurd (List.map_eq_nil_iff.1 (congrArg Prod.fst hnone)) Nat.toDigits_ne_nil
  · -- A zero in front of other digits.
    rename_i hzero
    obtain ⟨c, more, hdigits, hc, hmore⟩ := List.map_eq_cons_iff.1 (congrArg Prod.fst hzero)
    obtain ⟨d, cs, rfl, -, -⟩ := List.map_eq_cons_iff.1 hmore
    have hdigit := Char.isDigit_iff_toNat.1 (Digits.isDigit_of_mem (hdigits ▸ List.mem_cons_self))
    have hc0 : c.toNat = '0'.toNat := Nat.le_antisymm (Nat.sub_eq_zero_iff_le.1 hc) hdigit.1
    exact absurd (Char.toNat_inj.1 hc0) (Digits.head_ne_zero hdigits)
  · rename_i hpoint
    obtain ⟨-, rfl⟩ := Prod.mk.inj hpoint
    exact absurd rfl (h '.' rfl).2.1
  · rename_i hwhole
    obtain ⟨rfl, rfl⟩ := Prod.mk.inj hwhole
    exact withExponent_of_ends negative _ h

/-- The numbers that are written: whole ones of 64 bits, with a sign or without. -/
def InRange (i : Int) : Prop := Int64.minValue.toInt ≤ i ∧ i < UInt64.size

theorem value_toDigits {i : Int} (h : InRange i) :
    Numeral.value
        ⟨decide (i < 0), (Nat.toDigits 10 i.natAbs).map fun c => c.toNat - 48, none, none⟩ =
      .integer i := by
  have hmin : Int64.minValue.toInt = -9223372036854775808 := by decide
  have hsize : UInt64.size = 18446744073709551616 := rfl
  obtain ⟨hlow, hhigh⟩ := h
  have hbound : Numeral.exponentValue ((Nat.toDigits 10 i.natAbs).map fun c => c.toNat - 48) ≤
      Numeral.maxSignificand := by
    rw [exponentValue_toDigits, Numeral.maxSignificand]
    omega
  rw [Numeral.value]
  simp only [scaledWhole_eq hbound, exponentValue_toDigits, Bool.false_eq_true, if_false]
  by_cases hneg : i < 0
  · have hfits : ¬ (i.natAbs = 0 ∨ -(i.natAbs : Int) < Int64.minValue.toInt) := by omega
    rw [if_pos (by simpa using hneg), if_neg hfits]
    congr 1
    omega
  · rw [if_neg (by simpa using hneg)]
    congr 1
    omega

theorem not_isSpace_of_isDigit {c : Char} (h : c.isDigit = true) : isSpace c = false := by
  simp only [isSpace, Bool.or_eq_false_iff, decide_eq_false_iff_not]
  refine ⟨⟨⟨?_, ?_⟩, ?_⟩, ?_⟩ <;> rintro rfl <;> exact absurd h (by decide)

/-- A digit begins a number. -/
theorem next_of_isDigit {c : Char} (h : c.isDigit = true) (cs : List Char) :
    next c cs = number? false (c :: cs) := by
  fun_cases next c cs with
  | case12 => rfl
  | case13 => exact absurd h ‹_›
  | _ => exact absurd h (by decide)

theorem next_integer {i : Int} (h : InRange i) {rest : List Char} (hrest : EndsNumber rest) :
    ∃ c cs, Json.integer i ++ rest = c :: cs ∧ isSpace c = false ∧
      next c cs = (.number (.integer i), rest) := by
  have hvalue := value_toDigits h
  by_cases hneg : i < 0
  · refine ⟨'-', Nat.toDigits 10 i.natAbs ++ rest, by simp [Json.integer, hneg], rfl, ?_⟩
    rw [decide_eq_true hneg] at hvalue
    calc next '-' (Nat.toDigits 10 i.natAbs ++ rest)
        = number? true (Nat.toDigits 10 i.natAbs ++ rest) := rfl
      _ = (.number (.integer i), rest) := by rw [number?_toDigits true _ hrest, hvalue]
  · rw [decide_eq_false hneg] at hvalue
    cases hdigits : Nat.toDigits 10 i.natAbs with
    | nil => exact absurd hdigits Nat.toDigits_ne_nil
    | cons c cs =>
      have hc : c.isDigit = true := Digits.isDigit_of_mem (hdigits ▸ List.mem_cons_self)
      refine ⟨c, cs ++ rest, by simp [Json.integer, hneg, hdigits], not_isSpace_of_isDigit hc, ?_⟩
      calc next c (cs ++ rest)
          = number? false (Nat.toDigits 10 i.natAbs ++ rest) := by
            rw [next_of_isDigit hc, hdigits]
            rfl
        _ = (.number (.integer i), rest) := by rw [number?_toDigits false _ hrest, hvalue]

/-! ## All tokens -/

/-- The sound tokens whose own text says where they end: all but the numbers. -/
def Delimited : Token → Prop
  | .number _ | .string none | .unclosed _ | .broken _ => False
  | _ => True

variable {t : Token}

theorem scan_cons {c : Char} {cs rest : List Char} (hspace : isSpace c = false)
    (hnext : next c cs = (t, rest)) : scan (c :: cs) = t :: scan rest := by
  rw [scan, if_neg (by simp [hspace]), hnext]

/-- The text of a delimited token is cut off as that token, whatever follows. -/
theorem scan_write (h : t.Delimited) (rest : List Char) :
    scan (t.write ++ rest) = t :: scan rest := by
  cases t with
  | openArray | closeArray | openObject | closeObject | comma | colon | null =>
    exact scan_cons rfl rfl
  | bool b => cases b <;> exact scan_cons rfl rfl
  | string s =>
    cases s with
    | none => exact h.elim
    | some s =>
      have htext : Token.write (.string (some s)) ++ rest =
          '"' :: (s.toList.flatMap Json.escape ++ '"' :: rest) := by
        simp [write, Json.quote]
      rw [htext]
      exact scan_cons rfl (string?_quote s rest)
  | number => exact h.elim
  | unclosed => exact h.elim
  | broken => exact h.elim

/-- The text of a number is cut off as that number, if what follows does not go on it. -/
theorem scan_integer {i : Int} (h : InRange i) {rest : List Char} (hrest : EndsNumber rest) :
    scan (Json.integer i ++ rest) = .number (.integer i) :: scan rest := by
  obtain ⟨c, cs, htext, hspace, hnext⟩ := next_integer h hrest
  rw [htext]
  exact scan_cons hspace hnext

/-- No number goes on with a delimited token. -/
theorem Delimited.endsNumber (h : t.Delimited) (rest : List Char) :
    EndsNumber (t.write ++ rest) := by
  cases t with
  | openArray | closeArray | openObject | closeObject | comma | colon | null =>
    exact endsNumber_cons (by decide)
  | bool b => cases b <;> exact endsNumber_cons (by decide)
  | string s =>
    cases s with
    | none => exact h.elim
    | some s => exact endsNumber_cons (by decide)
  | number => exact h.elim
  | unclosed => exact h.elim
  | broken => exact h.elim

end Token
end BrowserTelemetry
