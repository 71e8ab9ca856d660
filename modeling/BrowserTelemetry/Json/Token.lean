import BrowserTelemetry.Json.Numeral

/-!
# Tokens

A JSON text is cut into tokens first. The cut does not depend on where a token stands, only what
is made of it does. After a token that is no sound one the rest of the text is not looked at.
-/

namespace BrowserTelemetry

set_option autoImplicit false

/-- One token of a JSON text. -/
inductive Token where
  | openArray
  | closeArray
  | openObject
  | closeObject
  | comma
  | colon
  | null
  | bool (b : Bool)
  | number (n : Number)
  /-- A string; without text when it holds half of a surrogate pair. -/
  | string (s : Option String)
  /-- A string that does not end as it should. -/
  | unclosed (b : Break)
  /-- Any other text that is no token. -/
  | broken (b : Break)
  deriving Repr, DecidableEq, Inhabited

namespace Token

/-- The four characters that may stand between tokens. -/
def isSpace (c : Char) : Bool := c = ' ' || c = '\n' || c = '\t' || c = '\r'

/-! ## Strings -/

/-- A part of a string: a character, or a 16-bit unit written as a hexadecimal escape. -/
inductive Piece where
  | char (c : Char)
  | unit (n : Nat)
  deriving Repr, DecidableEq, Inhabited

/-- The first half of a surrogate pair. -/
def isHigh (n : Nat) : Bool := 0xD800 ≤ n && n ≤ 0xDBFF

/-- The second half of a surrogate pair. -/
def isLow (n : Nat) : Bool := 0xDC00 ≤ n && n ≤ 0xDFFF

/-- The text of the pieces, when every half of a surrogate pair has its other half right beside
    it. -/
def text? : List Piece → Option (List Char)
  | [] => some []
  | .char c :: rest => (text? rest).map (c :: ·)
  | .unit n :: .unit m :: rest =>
    if isHigh n then
      if isLow m then
        (text? rest).map (Char.ofNat (0x10000 + (n - 0xD800) * 0x400 + (m - 0xDC00)) :: ·)
      else none
    else if isLow n then none
    else (text? (.unit m :: rest)).map (Char.ofNat n :: ·)
  | .unit n :: rest =>
    if isHigh n || isLow n then none else (text? rest).map (Char.ofNat n :: ·)

/-- Can the pieces be the beginning of a text? Only a first half at the very end may still wait for
    its other half. -/
def mayPair : List Piece → Bool
  | [] => true
  | .char _ :: rest => mayPair rest
  | .unit n :: .unit m :: rest =>
    if isHigh n then isLow m && mayPair rest
    else if isLow n then false
    else mayPair (.unit m :: rest)
  | [.unit n] => !isLow n
  | .unit n :: .char _ :: rest => !(isHigh n || isLow n) && mayPair rest

/-- The value of a hexadecimal digit. -/
def hexDigit? (c : Char) : Option Nat :=
  if '0' ≤ c ∧ c ≤ '9' then some (c.toNat - 48)
  else if 'a' ≤ c ∧ c ≤ 'f' then some (c.toNat - 87)
  else if 'A' ≤ c ∧ c ≤ 'F' then some (c.toNat - 55)
  else none

/-- The unit written by four hexadecimal digits. -/
def hexUnit? (a b c d : Char) : Option Nat := do
  let a ← hexDigit? a
  let b ← hexDigit? b
  let c ← hexDigit? c
  let d ← hexDigit? d
  return a * 4096 + b * 256 + c * 16 + d

/-- The fault of an escape whose digits are wrong: the text ends too early when fewer than four
    bytes are left of it. -/
def hexFault (cs : List Char) : Fault :=
  if 4 ≤ (String.ofList (cs.take 4)).utf8ByteSize then .malformed else .unfinished

/-- The character that a one-letter escape stands for. -/
def simpleEscape? (c : Char) : Option Char :=
  if c = '"' then some '"'
  else if c = '\\' then some '\\'
  else if c = '/' then some '/'
  else if c = 'b' then some '\x08'
  else if c = 'f' then some '\x0c'
  else if c = 'n' then some '\n'
  else if c = 'r' then some '\r'
  else if c = 't' then some '\t'
  else none

/-- The pieces of a string up to its closing quote, and the text after that quote or the fault
    that stands in its place. -/
def pieces : List Char → List Piece × Except Fault (List Char)
  | [] => ([], .error .unfinished)
  | '"' :: rest => ([], .ok rest)
  | ['\\'] => ([], .error .unfinished)
  | '\\' :: 'u' :: a :: b :: c :: d :: rest =>
    match hexUnit? a b c d with
    | none => ([], .error .malformed)
    | some n =>
      let (ps, r) := pieces rest
      (.unit n :: ps, r)
  | '\\' :: 'u' :: rest => ([], .error (hexFault rest))
  | '\\' :: c :: rest =>
    match simpleEscape? c with
    | none => ([], .error .malformed)
    | some e =>
      let (ps, r) := pieces rest
      (.char e :: ps, r)
  | c :: rest =>
    if c.toNat < 0x20 then ([], .error .malformed)
    else
      let (ps, r) := pieces rest
      (.char c :: ps, r)

/-- A string token from the text after its opening quote, with the text after it. -/
def string? (cs : List Char) : Token × List Char :=
  match pieces cs with
  | (ps, .ok rest) => (.string ((text? ps).map String.ofList), rest)
  | (ps, .error f) => (.unclosed ⟨if mayPair ps then f else .malformed, f⟩, [])

/-! ## Numbers and words -/

/-- The values of the leading decimal digits, and what follows them. -/
def digits (cs : List Char) : List Nat × List Char :=
  ((cs.takeWhile Char.isDigit).map (fun c => c.toNat - 48), cs.dropWhile Char.isDigit)

/-- The token in place of a number of which a digit is missing before `cs`. -/
def digitMissing (cs : List Char) : Token × List Char :=
  (.broken ⟨if cs.isEmpty then .unfinished else .malformed, .malformed⟩, [])

/-- The sign of an exponent, `true` for minus, and the text after it. -/
def exponentSign : List Char → Bool × List Char
  | '+' :: rest => (false, rest)
  | '-' :: rest => (true, rest)
  | rest => (false, rest)

/-- The exponent, when one follows. -/
def withExponent (negative : Bool) (whole : List Nat) (fraction : Option (List Nat)) :
    List Char → Token × List Char
  | c :: rest =>
    if c = 'e' ∨ c = 'E' then
      let (minus, unsigned) := exponentSign rest
      match digits unsigned with
      | ([], _) => digitMissing unsigned
      | (ds, rest) => (.number (Numeral.value ⟨negative, whole, fraction, some (minus, ds)⟩), rest)
    else (.number (Numeral.value ⟨negative, whole, fraction, none⟩), c :: rest)
  | [] => (.number (Numeral.value ⟨negative, whole, fraction, none⟩), [])

/-- A number token from the text after its sign, with the text after it. A leading zero stands
    alone. -/
def number? (negative : Bool) (cs : List Char) : Token × List Char :=
  match digits cs with
  | ([], _) => digitMissing cs
  | (0 :: _ :: _, _) => (.broken (.both .malformed), [])
  | (whole, '.' :: rest) =>
    match digits rest with
    | ([], _) => digitMissing rest
    | (ds, rest) => withExponent negative whole (some ds) rest
  | (whole, rest) => withExponent negative whole none rest

/-- A word token from the text after its first letter: `more` are the letters to come. -/
def word? (t : Token) : List Char → List Char → Token × List Char
  | [], cs => (t, cs)
  | _ :: _, [] => (.broken (.both .unfinished), [])
  | m :: more, c :: cs => if c = m then word? t more cs else (.broken (.both .malformed), [])

/-- The token that begins with `c`, and the text after it. -/
def next (c : Char) (cs : List Char) : Token × List Char :=
  match c with
  | '[' => (.openArray, cs)
  | ']' => (.closeArray, cs)
  | '{' => (.openObject, cs)
  | '}' => (.closeObject, cs)
  | ',' => (.comma, cs)
  | ':' => (.colon, cs)
  | '"' => string? cs
  | 'n' => word? .null ['u', 'l', 'l'] cs
  | 't' => word? (.bool true) ['r', 'u', 'e'] cs
  | 'f' => word? (.bool false) ['a', 'l', 's', 'e'] cs
  | '-' => number? true cs
  | c => if c.isDigit then number? false (c :: cs) else (.broken (.both .malformed), [])

/-! ## No token is followed by more text than it was taken from -/

theorem length_of_pieces {cs : List Char} {ps : List Piece} {rest : List Char}
    (h : pieces cs = (ps, .ok rest)) : rest.length ≤ cs.length := by
  fun_induction pieces cs generalizing ps rest with
  | case2 rest' =>
    obtain ⟨-, rfl⟩ : [] = ps ∧ rest' = rest := by simpa using h
    simp
  | case5 a b c d rest' n hn ps' r' heq ih =>
    simp only [Prod.mk.injEq] at h
    have := ih (by rw [heq, h.2])
    simp only [List.length_cons]
    omega
  | case8 | case10 =>
    next heq ih =>
    simp only [Prod.mk.injEq] at h
    have := ih (by rw [heq, h.2])
    simp only [List.length_cons]
    omega
  | _ => simp at h

theorem length_string? (cs : List Char) : (string? cs).2.length ≤ cs.length := by
  unfold string?
  split
  · next h => exact length_of_pieces h
  · simp

theorem length_digits {cs : List Char} {ds : List Nat} {rest : List Char}
    (h : digits cs = (ds, rest)) : ds.length + rest.length = cs.length := by
  obtain ⟨rfl, rfl⟩ := Prod.mk.injEq .. ▸ h.symm
  rw [List.length_map, ← List.length_append, List.takeWhile_append_dropWhile]

theorem length_exponentSign (cs : List Char) : (exponentSign cs).2.length ≤ cs.length := by
  unfold exponentSign
  split <;> simp

theorem length_withExponent (b : Bool) (w : List Nat) (f : Option (List Nat)) (cs : List Char) :
    (withExponent b w f cs).2.length ≤ cs.length := by
  cases cs with
  | nil => simp [withExponent]
  | cons c rest =>
    have hs := length_exponentSign rest
    simp only [withExponent]
    split
    · split
      · simp [digitMissing]
      · next hd =>
        have := length_digits hd
        simp only [List.length_cons]
        omega
    · simp

/-- A number takes at least one character. -/
theorem length_number? (b : Bool) (cs : List Char) : (number? b cs).2.length ≤ cs.length - 1 := by
  have hpos {ds : List Nat} (h : ds = [] → False) : 0 < ds.length := List.length_pos_iff.2 h
  unfold number?
  split
  · simp [digitMissing]
  · simp
  · next hne _ hd =>
    have := length_digits hd
    have := hpos hne
    split
    · simp [digitMissing]
    · next hf =>
      have := length_digits hf
      simp only [List.length_cons] at *
      exact Nat.le_trans (length_withExponent _ _ _ _) (by omega)
  · next hne _ _ hd =>
    have := length_digits hd
    have := hpos hne
    exact Nat.le_trans (length_withExponent _ _ _ _) (by omega)

theorem length_word? (t : Token) (more cs : List Char) :
    (word? t more cs).2.length ≤ cs.length := by
  fun_induction word? t more cs with
  | case1 => exact Nat.le_refl _
  | case2 | case4 => exact Nat.zero_le _
  | case3 _ _ _ ih => exact Nat.le_succ_of_le ih

theorem length_next (c : Char) (cs : List Char) : (next c cs).2.length ≤ cs.length := by
  fun_cases next c cs with
  | case1 | case2 | case3 | case4 | case5 | case6 => exact Nat.le_refl _
  | case7 => exact length_string? cs
  | case8 | case9 | case10 => exact length_word? _ _ cs
  | case11 => exact Nat.le_trans (length_number? true cs) (Nat.sub_le ..)
  | case12 => exact length_number? false (c :: cs)
  | case13 => exact Nat.zero_le _

/-- The tokens of a text. -/
def scan : List Char → List Token
  | [] => []
  | c :: cs =>
    if isSpace c then scan cs
    else (next c cs).1 :: scan (next c cs).2
termination_by cs => cs.length
decreasing_by
  · simp
  · have := length_next c cs
    simp
    omega

end Token

end BrowserTelemetry
