import Mathlib.Data.List.Induction

/-!
# Decimal digits

What every reader of numbers needs to know of the digits of a number: they are digits, their value
is the number, and no number but zero begins with a zero. A reader takes digits as long as there are
any, so it takes those of a number exactly if what follows begins with no digit (`NoDigit`).
-/

namespace BrowserTelemetry
namespace Digits

set_option autoImplicit false

variable {ds rest : List Char} {n : Nat}

/-- The text does not begin with a digit. -/
def NoDigit (rest : List Char) : Prop := ∀ c ∈ rest.head?, c.isDigit = false

theorem noDigit_nil : NoDigit [] := nofun

theorem noDigit_cons {c : Char} (h : c.isDigit = false) : NoDigit (c :: rest) := by
  intro d hd
  obtain rfl := Option.some.inj hd
  exact h

theorem isDigit_of_mem {c : Char} (h : c ∈ Nat.toDigits 10 n) : c.isDigit = true :=
  Nat.isDigit_of_mem_toDigits (by decide) (by decide) h

theorem takeWhile_append (hds : ∀ c ∈ ds, c.isDigit = true) (hrest : NoDigit rest) :
    (ds ++ rest).takeWhile Char.isDigit = ds := by
  rw [List.takeWhile_append_of_pos hds]
  cases rest with
  | nil => simp
  | cons c rest => simp [hrest c rfl]

theorem dropWhile_append (hds : ∀ c ∈ ds, c.isDigit = true) (hrest : NoDigit rest) :
    (ds ++ rest).dropWhile Char.isDigit = rest := by
  rw [List.dropWhile_append_of_pos hds]
  cases rest with
  | nil => rfl
  | cons c rest => simp [hrest c rfl]

/-- The value of digits, as all readers gather it. -/
theorem foldl_eq_ofDigitChars (ds : List Char) :
    ds.foldl (fun n c => n * 10 + (c.toNat - 48)) 0 = Nat.ofDigitChars 10 ds 0 := by
  rw [Nat.ofDigitChars_eq_foldl]
  congr
  funext n c
  rw [Nat.mul_comm]
  rfl

theorem foldl_toDigits (n : Nat) :
    (Nat.toDigits 10 n).foldl (fun n c => n * 10 + (c.toNat - 48)) 0 = n := by
  rw [foldl_eq_ofDigitChars, Nat.ofDigitChars_ten_toDigits]

/-- A number of several digits does not begin with a zero. -/
theorem head_ne_zero {c d : Char} {cs : List Char} (h : Nat.toDigits 10 n = c :: d :: cs) :
    c ≠ '0' := by
  induction n using Nat.strongRecOn generalizing d cs with
  | ind n ih =>
    rw [Nat.toDigits_eq_if (by decide)] at h
    split at h
    · exact absurd h (by simp)
    · -- The first digit is that of the number without its last one.
      rename_i hge
      cases hfirst : Nat.toDigits 10 (n / 10) with
      | nil => exact absurd hfirst Nat.toDigits_ne_nil
      | cons c' more =>
        rw [hfirst] at h
        obtain rfl := List.head_eq_of_cons_eq h
        cases more with
        | nil =>
          rintro rfl
          have hvalue := Nat.ofDigitChars_ten_toDigits (n := n / 10)
          rw [hfirst] at hvalue
          have hzero : 0 = n / 10 := hvalue
          omega
        | cons d' more => exact ih (n / 10) (by omega) hfirst

end Digits
end BrowserTelemetry
