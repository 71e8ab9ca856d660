import Mathlib.Data.List.Basic
import Mathlib.Tactic.SplitIfs
import BrowserTelemetry.Unicode.LowerCase

/-!
# Small letters

**Lowering leaves small letters, and leaves them alone**: every character of a lowered text is one
that lowering would not change (`isSmall_of_mem_lower`), and a text of such characters is its own
lower case (`lower_of_isSmall`).

In ASCII that is a matter of arithmetic. Beyond it, it is one of the table: the small letter of a
capital must not be a capital of another line, and as both are given by ranges, it is enough to look
at pairs of ranges (`avoids`).
-/

namespace BrowserTelemetry.Unicode

set_option autoImplicit false

/-! ## The table -/

namespace TargetRange

/-- No target of the one range has a target in the other. -/
def avoids (r r' : TargetRange) : Bool :=
  r.target + (r.last - r.first) < r'.first || r'.last < r.target ||
    -- Capitals and small letters may take turns.
    (r.step = 2 && r'.step = 2 && (r.target + r'.first) % 2 = 1)

/-- The targets are characters, and neither ASCII capitals nor the capital `i` with a dot. -/
def isPlain (r : TargetRange) : Bool :=
  0x5a < r.target && (r.target + (r.last - r.first) < 0xd800 || 0xdfff < r.target) &&
    r.target + (r.last - r.first) < 0x110000 &&
    (r.target + (r.last - r.first) < 0x130 || 0x130 < r.target)

theorem target?_eq_some_iff {r : TargetRange} {n t : Nat} :
    r.target? n = some t ↔
      (r.first ≤ n ∧ n ≤ r.last ∧ (n - r.first) % r.step = 0) ∧ r.target + (n - r.first) = t := by
  rw [target?, Option.ite_none_right_eq_some, Option.some.injEq]

theorem target?_of_avoids {r r' : TargetRange} (h : r.avoids r' = true) {n t : Nat}
    (ht : r.target? n = some t) : r'.target? t = none := by
  rw [Option.eq_none_iff_forall_ne_some]
  intro t' ht'
  obtain ⟨⟨hfirst, hlast, hstep⟩, rfl⟩ := target?_eq_some_iff.1 ht
  obtain ⟨⟨hfirst', hlast', hstep'⟩, -⟩ := target?_eq_some_iff.1 ht'
  simp only [avoids, Bool.or_eq_true, Bool.and_eq_true, decide_eq_true_eq] at h
  rcases h with (hbelow | habove) | ⟨⟨htwo, htwo'⟩, hodd⟩
  · omega
  · omega
  · rw [htwo] at hstep
    rw [htwo'] at hstep'
    omega

end TargetRange

theorem avoids_lowerRanges : (lowerRanges.all fun r => lowerRanges.all r.avoids) = true := by
  decide +kernel

theorem isPlain_lowerRanges : lowerRanges.all TargetRange.isPlain = true := by
  decide +kernel

/-! ## Single characters -/

/-- Does lowering leave the character alone? -/
def isSmall (c : Char) : Bool := lowerChar c = [c]

theorem isSmall_iff {c : Char} : isSmall c = true ↔ lowerChar c = [c] := decide_eq_true_iff

theorem toLower_of_lt {c : Char} (h : 0x5a < c.toNat) : c.toLower = c := by
  unfold Char.toLower
  refine dif_neg fun hupper => ?_
  have hle : c.toNat ≤ 0x5a := UInt32.le_iff_toNat_le.1 hupper.2
  omega

theorem isSmall_toLower {c : Char} (hc : c.toNat < 0x80) : isSmall c.toLower = true := by
  have hall : ∀ n < 0x80, isSmall (Char.ofNat n).toLower = true := by decide +kernel
  simpa only [Char.ofNat_toNat] using hall c.toNat hc

/-- What lowering leaves alone is no ASCII capital. -/
theorem toLower_of_isSmall {c : Char} (h : isSmall c = true) : c.toLower = c := by
  by_cases hc : c.toNat < 0x80
  · rw [isSmall_iff, lowerChar, if_pos hc] at h
    exact List.singleton_inj.1 h
  · exact toLower_of_lt (Nat.lt_of_lt_of_le (by decide) (Nat.not_lt.1 hc))

theorem isSmall_of_target? {r : TargetRange} (hr : r ∈ lowerRanges) {n t : Nat}
    (ht : r.target? n = some t) : isSmall (Char.ofNat t) = true := by
  have hplain : r.isPlain = true := List.all_eq_true.1 isPlain_lowerRanges r hr
  simp only [TargetRange.isPlain, Bool.and_eq_true, Bool.or_eq_true, decide_eq_true_eq] at hplain
  obtain ⟨⟨⟨hcapital, hvalid⟩, hmax⟩, hdot⟩ := hplain
  obtain ⟨⟨hfirst, hlast, -⟩, htarget⟩ := TargetRange.target?_eq_some_iff.1 ht
  have hnat : (Char.ofNat t).toNat = t := by
    have hchar : t.isValidChar := by
      unfold Nat.isValidChar
      omega
    rw [Char.ofNat, dif_pos hchar]
    rfl
  rw [isSmall_iff, lowerChar, hnat]
  split_ifs with hc hi
  · rw [toLower_of_lt]
    omega
  · rw [hi, show 'İ'.toNat = 0x130 by decide] at hnat
    omega
  · rw [List.findSome?_eq_none_iff.2]
    intro r' hr'
    refine TargetRange.target?_of_avoids ?_ ht
    exact List.all_eq_true.1 (List.all_eq_true.1 avoids_lowerRanges r hr) r' hr'

theorem isSmall_of_mem_lowerChar {c d : Char} (h : d ∈ lowerChar c) : isSmall d = true := by
  unfold lowerChar at h
  split_ifs at h with hc hdot
  · rw [List.mem_singleton.1 h]
    exact isSmall_toLower hc
  · rcases List.mem_cons.1 h with rfl | h
    · decide +kernel
    · obtain rfl := List.mem_singleton.1 h
      decide +kernel
  · split at h
    · rename_i t hfound
      obtain ⟨r, hr, ht⟩ := List.exists_of_findSome?_eq_some hfound
      rw [List.mem_singleton.1 h]
      exact isSmall_of_target? hr ht
    · rename_i hnone
      rw [List.mem_singleton.1 h, isSmall_iff, lowerChar, if_neg hc, if_neg hdot, hnone]

/-! ## Texts -/

theorem isSmall_lowerSigma (before after : List Char) :
    isSmall (lowerSigma before after) = true := by
  unfold lowerSigma
  split_ifs
  · decide +kernel
  · decide +kernel

theorem isSmall_of_mem_lowerAfter {before cs : List Char} {d : Char}
    (h : d ∈ lowerAfter before cs) : isSmall d = true := by
  induction cs generalizing before with
  | nil => exact absurd h List.not_mem_nil
  | cons c rest ih =>
    rw [lowerAfter] at h
    rcases List.mem_append.1 h with h | h
    · split_ifs at h
      · rw [List.mem_singleton.1 h]
        exact isSmall_lowerSigma before rest
      · exact isSmall_of_mem_lowerChar h
    · exact ih h

theorem isSmall_of_mem_lower {cs : List Char} {d : Char} (h : d ∈ lower cs) : isSmall d = true :=
  isSmall_of_mem_lowerAfter h

theorem lowerAfter_of_isSmall {before cs : List Char} (h : ∀ c ∈ cs, isSmall c = true) :
    lowerAfter before cs = cs := by
  induction cs generalizing before with
  | nil => rfl
  | cons c rest ih =>
    obtain ⟨hc, hrest⟩ := List.forall_mem_cons.1 h
    have hsigma : c ≠ 'Σ' := by
      rintro rfl
      exact absurd hc (by decide +kernel)
    rw [lowerAfter, if_neg hsigma, isSmall_iff.1 hc, ih hrest]
    rfl

theorem lower_of_isSmall {cs : List Char} (h : ∀ c ∈ cs, isSmall c = true) : lower cs = cs :=
  lowerAfter_of_isSmall h

end BrowserTelemetry.Unicode
