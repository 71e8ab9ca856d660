import BrowserTelemetry.Json.Token

/-!
# Writing a value

A value is written as its tokens, one right after the other. Reading (`Json/Reader.lean`) takes the
same two steps backwards, so each step can be undone on its own.
-/

namespace BrowserTelemetry

set_option autoImplicit false

namespace Json

mutual

/-- The tokens of a value. -/
def tokens : Json → List Token
  | .null => [.null]
  | .bool b => [.bool b]
  | .int i => [.number (.integer i)]
  | .string s => [.string (some s)]
  | .array items => .openArray :: (itemTokens items ++ [.closeArray])
  | .object members => .openObject :: (memberTokens members ++ [.closeObject])

/-- The tokens of the items of an array, with commas between them. -/
def itemTokens : List Json → List Token
  | [] => []
  | [j] => j.tokens
  | j :: rest => j.tokens ++ .comma :: itemTokens rest

/-- The tokens of the members of an object, with commas between them. -/
def memberTokens : List (String × Json) → List Token
  | [] => []
  | [(k, j)] => .string (some k) :: .colon :: j.tokens
  | (k, j) :: rest => .string (some k) :: .colon :: (j.tokens ++ .comma :: memberTokens rest)

end

/-- A lower-case hexadecimal digit. -/
def hexDigit (n : Nat) : Char := Char.ofNat (if n < 10 then 48 + n else 87 + n)

/-- A character inside a string: only the quote, the backslash and the control characters below a
    space are escaped. -/
def escape (c : Char) : List Char :=
  if c = '"' then ['\\', '"']
  else if c = '\\' then ['\\', '\\']
  else if c = '\x08' then ['\\', 'b']
  else if c = '\x0c' then ['\\', 'f']
  else if c = '\n' then ['\\', 'n']
  else if c = '\r' then ['\\', 'r']
  else if c = '\t' then ['\\', 't']
  else if c.toNat < 0x20 then
    ['\\', 'u', '0', '0', hexDigit (c.toNat / 16), hexDigit (c.toNat % 16)]
  else [c]

/-- A string with its quotes. -/
def quote (cs : List Char) : List Char := '"' :: (cs.flatMap escape ++ ['"'])

/-- The decimal digits of a whole number, with a minus sign where one is due. -/
def integer (i : Int) : List Char :=
  if i < 0 then '-' :: Nat.toDigits 10 i.natAbs else Nat.toDigits 10 i.natAbs

end Json

/-- The text of a sound token. -/
def Token.write : Token → List Char
  | .openArray => ['[']
  | .closeArray => [']']
  | .openObject => ['\x7b']
  | .closeObject => ['\x7d']
  | .comma => [',']
  | .colon => [':']
  | .null => ['n', 'u', 'l', 'l']
  | .bool true => ['t', 'r', 'u', 'e']
  | .bool false => ['f', 'a', 'l', 's', 'e']
  | .number (.integer i) => Json.integer i
  | .string (some s) => Json.quote s.toList
  | .number _ | .string none | .unclosed _ | .broken _ => []

/-- The text of a value, without blanks. -/
def Json.render (j : Json) : String := String.ofList (j.tokens.flatMap Token.write)

end BrowserTelemetry
