import BrowserTelemetry.Url.Basic
import BrowserTelemetry.Url.Domain
import BrowserTelemetry.Url.Ipv4
import BrowserTelemetry.Url.Ipv6
import BrowserTelemetry.Url.PercentCode

/-!
# Reading addresses

An address is read the way browsers read what is typed: blanks around it and line breaks within it
do not count, and for the schemes of the web a backslash is a slash and the slashes before the host
may be any number.

The parts are cut off one after the other, from the scheme to the path; what is cut off is checked,
and there is no address if any part is not what it should be.
-/

namespace BrowserTelemetry.Url

set_option autoImplicit false

/-! ## Schemes -/

/-- How addresses of a scheme are built. -/
inductive SchemeKind where
  /-- A scheme of the web: there always is a host. -/
  | web
  | file
  | other
  deriving DecidableEq, Repr

/-- The kind of a scheme. -/
def SchemeKind.of (scheme : String) : SchemeKind :=
  if scheme = "file" then .file
  else if ["http", "https", "ws", "wss", "ftp"].contains scheme then .web
  else .other

/-- Does a backslash count as a slash? -/
def SchemeKind.special (k : SchemeKind) : Bool := k ≠ .other

/-- A character of a scheme. -/
def isSchemeChar (c : Char) : Bool := c.isAlphanum || c = '+' || c = '-' || c = '.'

/-- The scheme in lower case, and what follows its colon. -/
def scheme? (cs : List Char) : Option (String × List Char) :=
  let name := cs.takeWhile isSchemeChar
  match name, cs.drop name.length with
  | first :: _, ':' :: rest =>
    if first.isAlpha then some (String.ofList (name.map Char.toLower), rest) else none
  | _, _ => none

/-! ## Cutting -/

/-- Is it a slash, or a backslash that counts as one? -/
def SchemeKind.isSlash (k : SchemeKind) (c : Char) : Bool := c = '/' || (k.special && c = '\\')

/-- Does a query or fragment begin here? -/
def endsPath (c : Char) : Bool := c = '?' || c = '#'

/-- Does the authority end here? -/
def SchemeKind.endsAuthority (k : SchemeKind) (c : Char) : Bool := k.isSlash c || endsPath c

/-- The length of the host at the beginning of a text: it ends with the authority, or at a colon
    outside of brackets. -/
def hostLength (k : SchemeKind) (bracket : Bool) : List Char → Nat
  | [] => 0
  | c :: rest =>
    if k.endsAuthority c ∨ (c = ':' ∧ !bracket) then 0
    else hostLength k (if c = '[' then true else if c = ']' then false else bracket) rest + 1

/-! ## Hosts -/

/-- A text in brackets. -/
def bracketed? : List Char → Option (List Char)
  | '[' :: rest => if rest.getLast? = some ']' then some rest.dropLast else none
  | _ => none

/-- A character that no host holds. -/
def isForbidden (c : Char) : Bool :=
  c = '\x00' || c = '\t' || c = '\n' || c = '\r' ||
    [' ', '#', '/', ':', '<', '>', '?', '@', '[', '\\', ']', '^', '|'].contains c

/-- A character that no domain name holds. -/
def isForbiddenInDomain (c : Char) : Bool :=
  isForbidden c || c.toNat < 0x20 || c = '%' || c = '\x7f'

/-- The host of a scheme of the web. -/
def webHost? (cs : List Char) : Option Host :=
  if cs.head? = some '[' then (bracketed? cs).bind Ipv6.parse? |>.map .ipv6
  else do
    let name ← (PercentCode.decode? cs).bind Domain.toAscii?
    if name.isEmpty ∨ name.any isForbiddenInDomain then none
    else if Ipv4.endsInNumber name then (Ipv4.parse? name).map .ipv4
    else some (.name (String.ofList name))

/-- The host of any other scheme. -/
def plainHost? (cs : List Char) : Option Host :=
  if cs.head? = some '[' then (bracketed? cs).bind Ipv6.parse? |>.map .ipv6
  else if cs.any isForbidden then none
  else some (.name (String.ofList (PercentCode.encode PercentCode.isControl cs)))

/-! ## Paths -/

/-- One dot, plain or as a percent code. -/
def isDot (cs : List Char) : Bool :=
  cs = ['.'] || cs.map Char.toLower = ['%', '2', 'e']

/-- Two dots, each plain or as a percent code. -/
def isDoubleDot (cs : List Char) : Bool :=
  match cs with
  | '.' :: rest => isDot rest
  | '%' :: a :: b :: rest => isDot ['%', a, b] && isDot rest
  | _ => false

/-- Does a segment begin like the letter of a disk? Two dots do not lead out of such a segment. -/
def isDiskLike : List Char → Bool
  | [a, c] => a.isAlpha && (c = ':' || c = '|')
  | a :: c :: '\\' :: _ => a.isAlpha && (c = ':' || c = '|')
  | _ => false

/-- The letter of a disk. -/
def isDisk : List Char → Bool
  | [a, c] => a.isAlpha && (c = ':' || c = '|')
  | _ => false

/-- The segments without dot segments; `done` holds those before, the latest first. What follows a
    dot segment at the end is an empty segment. -/
def resolve (done : List (List Char)) : List (List Char) → List (List Char)
  | [] => done.reverse
  | s :: rest =>
    if isDoubleDot s then
      let kept :=
        match done with
        | last :: before => if isDiskLike last then done else before
        | [] => []
      resolve (if rest.isEmpty then [] :: kept else kept) rest
    else if isDot s then resolve (if rest.isEmpty then [] :: done else done) rest
    else resolve (s :: done) rest

/-- The segments of a path, given without its first slash. -/
def segments (k : SchemeKind) (cs : List Char) : List String :=
  let raw := (cs.takeWhile fun c => !endsPath c).splitOnP k.isSlash
  (resolve [] (raw.map (PercentCode.encode PercentCode.isPathSpecial))).map String.ofList

/-- The path after a host. -/
def pathAfterHost (k : SchemeKind) (cs : List Char) : UrlPath :=
  match cs with
  | [] => .segments (if k.special then [""] else [])
  | c :: rest =>
    if k.isSlash c then .segments (segments k rest)
    else if endsPath c ∧ !k.special then .segments []
    else .segments (segments k cs)

/-! ## Authorities -/

/-- The authority after its credentials, which end with the last `@` of it. `credentials` tells
    whether there are any to speak of. -/
structure AfterCredentials where
  rest : List Char
  credentials : Bool

/-- Cut off the credentials. Where they are empty a host has to follow, or nothing at all. -/
def dropCredentials (k : SchemeKind) (cs : List Char) : Option AfterCredentials :=
  let authority := cs.takeWhile fun c => !k.endsAuthority c
  match (authority.splitOnP (· = '@')).dropLast with
  | [] => some ⟨cs, false⟩
  | before =>
    let info := ['@'].intercalate before
    let rest := cs.drop (info.length + 1)
    if info.isEmpty ∧ (rest.head?.map k.endsAuthority).getD false then none
    else some ⟨rest, !(info.isEmpty || info = [':'])⟩

/-- What follows a port: digits of a value of at most 16 bits, up to the end of the authority. -/
def dropPort? (cs : List Char) : Option (List Char) :=
  let ds := cs.takeWhile Char.isDigit
  let rest := cs.drop ds.length
  let ends := rest.head?.all fun c => c = '/' || c = '\\' || endsPath c
  if ends ∧ ds.foldl (fun n c => n * 10 + (c.toNat - 48)) 0 < UInt16.size then some rest else none

/-- An address from the text after the two slashes. -/
def withAuthority? (scheme : String) (k : SchemeKind) (cs : List Char) : Option Url := do
  let ⟨cs, credentials⟩ ← dropCredentials k cs
  let n := hostLength k false cs
  let text := cs.take n
  let rest := cs.drop n
  if text.isEmpty then
    if k.special ∨ credentials ∨ rest.head? = some ':' then none
    else some ⟨scheme, none, pathAfterHost k rest⟩
  else
    let host ← if k.special then webHost? text else plainHost? text
    let rest ← if rest.head? = some ':' then dropPort? rest.tail else some rest
    some ⟨scheme, some host, pathAfterHost k rest⟩

/-! ## Files -/

/-- The host of a file: none if it is this computer. A path that begins at a disk has no host
    either. -/
def fileUrl? (cs : List Char) : Option Url :=
  let k := SchemeKind.file
  let path (cs : List Char) : UrlPath := pathAfterHost k cs
  match cs with
  | a :: b :: rest =>
    if k.isSlash a ∧ k.isSlash b then
      let text := rest.takeWhile fun c => !k.endsAuthority c
      if text.isEmpty ∨ isDisk text then some ⟨"file", none, path rest⟩
      else do
        let host ← webHost? text
        let path := path (rest.drop text.length)
        let onDisk : Bool :=
          match path with
          | .segments (s :: _) => isDisk s.toList
          | _ => false
        some ⟨"file", if onDisk || host = .name "localhost" then none else some host, path⟩
    else some ⟨"file", none, path cs⟩
  | _ => some ⟨"file", none, path cs⟩

/-! ## Addresses -/

/-- The text without control characters and blanks around it, and without tabs and line breaks. -/
def clean (cs : List Char) : List Char :=
  let outer (c : Char) : Bool := c.toNat ≤ 0x20
  ((cs.dropWhile outer).reverse.dropWhile outer).reverse.filter fun c =>
    !(c = '\t' || c = '\n' || c = '\r')

/-- The address that a text spells. -/
def parse? (text : String) : Option Url := do
  let (scheme, cs) ← scheme? (clean text.toList)
  let k := SchemeKind.of scheme
  match k with
  | .file => fileUrl? cs
  | .web => withAuthority? scheme k (cs.dropWhile k.isSlash)
  | .other =>
    match cs with
    | '/' :: '/' :: rest => withAuthority? scheme k rest
    | '/' :: rest => some ⟨scheme, none, .segments (segments k rest)⟩
    | _ =>
      let path := cs.takeWhile fun c => !endsPath c
      some ⟨scheme, none, .plain (String.ofList (PercentCode.encode PercentCode.isControl path))⟩

/-! ## What is asked of an address -/

/-- The text of a host. -/
def hostText : Host → String
  | .name text => text
  | .ipv4 a => Ipv4.print a
  | .ipv6 ps => "[" ++ Ipv6.print ps ++ "]"

/-- The text of the host, if there is one. -/
def host? (u : Url) : Option String := u.host.map hostText

end BrowserTelemetry.Url
