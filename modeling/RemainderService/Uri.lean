/-!
# Request and endpoint addresses

A URI is read into a scheme, an authority, and a path with its query; a fragment is dropped. Three
shapes are accepted: a path alone, an authority alone, and all three parts with `://` between the
first two. **What is checked** is the alphabet of each part and the shape of the authority (one
pair of brackets, one port colon outside them, nothing odd around `@`). Names are not looked up and
a port is not read as a number.
-/

set_option autoImplicit false

namespace RemainderService

/-- Why a text is no URI. -/
inductive UriFault
  | empty
  | invalidCharacter
  | invalidFormat
  | invalidAuthority
  | tooLong
  | schemeTooLong
deriving DecidableEq, Repr

/-- The wording of each fault. -/
def UriFault.message : UriFault → String
  | .empty => "empty string"
  | .invalidCharacter => "invalid uri character"
  | .invalidFormat => "invalid format"
  | .invalidAuthority => "invalid authority"
  | .tooLong => "uri too long"
  | .schemeTooLong => "scheme too long"

/-- A URI in its parts. -/
structure Uri where
  scheme : Option String
  authority : String
  path : String
deriving DecidableEq, Repr

namespace Uri

/-! ## Alphabets -/

/-- A character that a scheme may hold. -/
def isSchemeChar (c : Char) : Bool :=
  c.isAlphanum || ['+', '-', '.', '~'].contains c

/-- A character that an authority may hold and that has no part in its structure. -/
def isAuthorityChar (c : Char) : Bool :=
  c.isAlphanum ||
    ['!', '$', '&', '\x27', '(', ')', '*', '+', ',', '-', '.', ';', '=', '_', '~'].contains c

/-- A character that a path may hold: no control, and none of those that have to be escaped. Braces
and the double quote pass, as does all that lies beyond ASCII. -/
def isPathChar (c : Char) : Bool :=
  decide (0x20 < c.toNat) && !(['#', '?', '<', '>', '\x60', '\x7f'].contains c)

/-- A character that a query may hold. -/
def isQueryChar (c : Char) : Bool :=
  decide (0x20 < c.toNat) && !(['#', '\x22', '<', '>', '\x7f'].contains c)

/-- A character that ends an authority. -/
def endsAuthority (c : Char) : Bool :=
  c == '/' || c == '?' || c == '#'

/-! ## Path and query -/

/-- Read a query up to a fragment. -/
def readQuery : List Char → Except UriFault (List Char)
  | [] => .ok []
  | c :: rest =>
    if c = '#' then .ok []
    else if isQueryChar c then (readQuery rest).map (c :: ·)
    else .error .invalidCharacter

/-- Read a path and the query after it, up to a fragment. -/
def readPath : List Char → Except UriFault (List Char)
  | [] => .ok []
  | c :: rest =>
    if c = '#' then .ok []
    else if c = '?' then (readQuery rest).map (c :: ·)
    else if isPathChar c then (readPath rest).map (c :: ·)
    else .error .invalidCharacter

/-! ## Authority -/

/-- What has been seen of an authority: the colons since the last bracket or `@`, the brackets, a
percent sign that nothing has excused yet, and whether the last character was `@`. -/
structure AuthorityScan where
  colons : Nat
  opened : Bool
  closed : Bool
  percent : Bool
  afterAt : Bool

/-- Nothing seen. -/
def AuthorityScan.start : AuthorityScan := ⟨0, false, false, false, false⟩

/-- Take one more character. A closing bracket excuses the colons and percent signs before it, for
they belonged to a numeric host, and `@` excuses them too, for they belonged to the user part. -/
def AuthorityScan.step (s : AuthorityScan) (c : Char) : Except UriFault AuthorityScan :=
  if c = ':' then
    if 8 ≤ s.colons then .error .invalidAuthority
    else .ok { s with colons := s.colons + 1, afterAt := false }
  else if c = '[' then
    if s.percent || s.opened then .error .invalidAuthority
    else .ok { s with opened := true, afterAt := false }
  else if c = ']' then
    if !s.opened || s.closed then .error .invalidAuthority
    else .ok { s with closed := true, colons := 0, percent := false, afterAt := false }
  else if c = '@' then .ok { s with colons := 0, percent := false, afterAt := true }
  else if c = '%' then .ok { s with percent := true, afterAt := false }
  else if isAuthorityChar c then .ok { s with afterAt := false }
  else .error .invalidCharacter

/-- The shape is complete: brackets are paired, one colon at most is left, no percent sign is, and
something follows the user part. -/
def AuthorityScan.complete (s : AuthorityScan) : Bool :=
  s.opened == s.closed && decide (s.colons ≤ 1) && !s.afterAt && !s.percent

/-- Split a text at the end of its authority and check the authority. -/
def readAuthority (cs : List Char) : Except UriFault (List Char × List Char) := do
  let authority := cs.takeWhile (!endsAuthority ·)
  let scan ← authority.foldlM AuthorityScan.step AuthorityScan.start
  if scan.complete then .ok (authority, cs.dropWhile (!endsAuthority ·))
  else .error .invalidAuthority

/-! ## Whole URIs -/

/-- The scheme that opens a text of more than three characters and is followed by `://`, with what
comes after. -/
def readScheme (cs : List Char) : Except UriFault (Option (List Char × List Char)) :=
  let scheme := cs.takeWhile isSchemeChar
  match cs.dropWhile isSchemeChar with
  | ':' :: '/' :: '/' :: rest =>
    if scheme = [] ∧ rest = [] then .ok none
    else if 64 < scheme.length then .error .schemeTooLong
    else .ok (some (scheme, rest))
  | _ => .ok none

/-- Read an absolute URI after its scheme: an authority is required. -/
def readAbsolute (scheme rest : List Char) : Except UriFault Uri :=
  if rest = [] then .error .empty
  else do
    let (authority, path) ← readAuthority rest
    if authority = [] then .error .invalidFormat
    else do
      let path ← readPath path
      .ok ⟨some (String.ofList scheme), String.ofList authority, String.ofList path⟩

/-- Read an authority that stands alone. What follows it is no character of it, or, in a text of
more than one character, spoils the format. -/
def readLoneAuthority (cs : List Char) : Except UriFault Uri := do
  let (authority, rest) ← readAuthority cs
  if rest = [] then .ok ⟨none, String.ofList authority, ""⟩
  else if cs.length = 1 then .error .invalidCharacter
  else .error .invalidFormat

/-- The longest text that is read at all, in bytes. -/
def maxBytes : Nat := 65534

/-- Read a URI. -/
def parse (text : String) : Except UriFault Uri :=
  if maxBytes < text.utf8ByteSize then .error .tooLong
  else
    match text.toList with
    | [] => .error .empty
    | ['*'] => .ok ⟨none, "", "*"⟩
    | '/' :: rest => do
      let path ← readPath ('/' :: rest)
      .ok ⟨none, "", String.ofList path⟩
    | cs => do
      match ← readScheme cs with
      | some (scheme, rest) => readAbsolute scheme rest
      | none => readLoneAuthority cs

/-- The host of a URI: the authority without the user in front and the port behind. -/
def host (uri : Uri) : String :=
  let behindUser := (uri.authority.toList.splitOn '@').getLastD []
  String.ofList <|
    if behindUser.head? = some '[' then behindUser.takeWhile (· != ']') ++ [']']
    else behindUser.takeWhile (· != ':')

end Uri

end RemainderService
