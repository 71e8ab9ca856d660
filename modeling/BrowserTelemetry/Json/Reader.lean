import BrowserTelemetry.Json.Token

/-!
# Reading a text

The tokens of a text are put together one after the other. What has been opened and not yet closed
waits in a list of frames, the innermost first, so a single pass over the tokens is enough and the
depth of a document costs nothing but the list.

The first token that cannot stand where it does, or the end of the text in the wrong place, becomes
a leaf of the document, and everything that is still open is closed around it.
-/

namespace BrowserTelemetry

set_option autoImplicit false

namespace Document

/-- An array or object that is still open, its latest item first. -/
inductive Frame where
  | array (items : List Document)
  /-- The value of `key` is being read. -/
  | object (entries : List (Option String × Document)) (key : Option String)

/-- What may come next. -/
inductive Reading where
  /-- A value. -/
  | value (outer : List Frame)
  /-- A first item, or the end of an array. -/
  | firstItem (outer : List Frame)
  /-- A comma, or the end of an array. -/
  | afterItem (items : List Document) (outer : List Frame)
  /-- A first key, or the end of an object. -/
  | firstKey (outer : List Frame)
  /-- A key. -/
  | nextKey (entries : List (Option String × Document)) (outer : List Frame)
  /-- A colon. -/
  | colon (entries : List (Option String × Document)) (key : Option String) (outer : List Frame)
  /-- A comma, or the end of an object. -/
  | afterEntry (entries : List (Option String × Document)) (outer : List Frame)
  /-- Nothing: the document is read, or it is broken. -/
  | done (root : Document) (trailing : Bool)

/-- Close everything that is open around a broken document. -/
def enclose (b : Break) (d : Document) : List Frame → Document
  | [] => d
  | .array items :: rest => enclose b (.array (d :: items).reverse (some b)) rest
  | .object entries key :: rest => enclose b (.object ((key, d) :: entries).reverse (some b)) rest

/-- The reading ends at a break; `d` is what was being read there. -/
def halt (b : Break) (d : Document) (outer : List Frame) : Reading :=
  .done (enclose b d outer) false

/-- A character that cannot stand where it does. -/
def stray : Break := .both .malformed

/-- The end of the text in the wrong place. -/
def ended : Break := .both .unfinished

/-- A complete value has been read. -/
def deliver (d : Document) : List Frame → Reading
  | [] => .done d false
  | .array items :: rest => .afterItem (d :: items) rest
  | .object entries key :: rest => .afterEntry ((key, d) :: entries) rest

/-- A token where a value should begin. -/
def beginValue (outer : List Frame) : Token → Reading
  | .null => deliver .null outer
  | .bool b => deliver (.bool b) outer
  | .number n => deliver (.number n) outer
  | .string (some s) => deliver (.string s) outer
  | .string none => deliver .unpaired outer
  | .openArray => .firstItem outer
  | .openObject => .firstKey outer
  | .unclosed b => halt b (.unclosed b) outer
  | .broken b => halt b (.broken b) outer
  | .closeArray | .closeObject | .comma | .colon => halt stray (.broken stray) outer

/-- A token where a key should stand. -/
def beginEntry (entries : List (Option String × Document)) (outer : List Frame) : Token → Reading
  | .string s => .colon entries s outer
  | .unclosed b => halt b (.object entries.reverse (some b)) outer
  | _ => halt stray (.object entries.reverse (some stray)) outer

namespace Reading

/-- One more token. -/
def step : Reading → Token → Reading
  | .value fs, t => beginValue fs t
  | .firstItem fs, .closeArray => deliver (.array [] none) fs
  | .firstItem fs, t => beginValue (.array [] :: fs) t
  | .afterItem items fs, .closeArray => deliver (.array items.reverse none) fs
  | .afterItem items fs, .comma => .value (.array items :: fs)
  | .afterItem items fs, _ => halt stray (.array items.reverse (some stray)) fs
  | .firstKey fs, .closeObject => deliver (.object [] none) fs
  | .firstKey fs, t => beginEntry [] fs t
  | .nextKey entries fs, t => beginEntry entries fs t
  | .colon entries key fs, .colon => .value (.object entries key :: fs)
  | .colon entries key fs, _ => halt stray (.broken stray) (.object entries key :: fs)
  | .afterEntry entries fs, .closeObject => deliver (.object entries.reverse none) fs
  | .afterEntry entries fs, .comma => .nextKey entries fs
  | .afterEntry entries fs, _ => halt stray (.object entries.reverse (some stray)) fs
  | .done root _, _ => .done root true

/-- The end of the text: the document, and whether anything followed it. -/
def finish : Reading → Document × Bool
  | .value fs => (enclose ended .missing fs, false)
  | .firstItem fs => (enclose ended (.array [] (some ended)) fs, false)
  | .afterItem items fs => (enclose ended (.array items.reverse (some ended)) fs, false)
  | .firstKey fs => (enclose ended (.object [] (some ended)) fs, false)
  | .nextKey entries fs => (enclose ended (.object entries.reverse (some ended)) fs, false)
  | .colon entries key fs => (enclose ended .missing (.object entries key :: fs), false)
  | .afterEntry entries fs => (enclose ended (.object entries.reverse (some ended)) fs, false)
  | .done root trailing => (root, trailing)

end Reading

/-- The document that a list of tokens spells, and whether further tokens follow it. -/
def ofTokens (ts : List Token) : Document × Bool := (ts.foldl Reading.step (.value [])).finish

/-- The document of a text, and whether anything but blanks follows it. -/
def read (text : String) : Document × Bool := ofTokens (Token.scan text.toList)

end Document

end BrowserTelemetry
