import DesignCode.Link.Host
import DesignCode.Text.Blank

/-!
# Links

`Url.ofText` reads a link by the rules of browsers: space around it and line breaks inside do not
count, backslashes are slashes where the scheme names hosts, and segments of points move along the
path.  Kept are the host, the path and the query; characters stay as they are written.
-/

namespace DesignCode.Link

/-- What is kept of a link. -/
structure Url where
  host : Option Host := none
  /-- The segments of the path, if it has any. -/
  path : Option (List (List Char)) := none
  query : List Char := []

namespace Url

/-! ### Schemes -/

/-- How a scheme treats its links. -/
inductive SchemeKind where
  /-- Files of hosts. -/
  | file
  /-- Any other scheme that names hosts. -/
  | special
  | other
deriving DecidableEq

/-- The kind of a scheme in lower case. -/
def SchemeKind.ofName (name : List Char) : SchemeKind :=
  let name := String.ofList name
  if name = "file" then file
  else if name ∈ ["http", "https", "ws", "wss", "ftp"] then special
  else other

/-- Whether the character separates segments. -/
def SchemeKind.isSlash (k : SchemeKind) (c : Char) : Bool := c = '/' ∨ (k ≠ other ∧ c = '\\')

/-- Whether a character may stand in a scheme. -/
def isSchemeChar (c : Char) : Bool := c.isAlphanum ∨ c = '+' ∨ c = '-' ∨ c = '.'

/-- Takes the scheme and its colon off a link. -/
def takeScheme (cs : List Char) : Option (List Char × List Char) :=
  let name := cs.takeWhile isSchemeChar
  match name.head?, cs.dropWhile isSchemeChar with
  | some c, ':' :: rest => if c.isAlpha then some (name.map Char.toLower, rest) else none
  | _, _ => none

/-! ### Paths -/

/-- Whether a path ends before the character. -/
def endsPath (c : Char) : Bool := c = '?' ∨ c = '#'

/-- A segment with its percent signs for points decoded, in lower case. -/
def plainPoints : List Char → List Char
  | '%' :: '2' :: c :: rest =>
    if c = 'e' ∨ c = 'E' then '.' :: plainPoints rest else '%' :: '2' :: plainPoints (c :: rest)
  | c :: rest => c :: plainPoints rest
  | [] => []

/-- Whether a segment stands for the place where it is. -/
def isSinglePoint (segment : List Char) : Bool := plainPoints segment = ['.']

/-- Whether a segment stands for the place above. -/
def isDoublePoint (segment : List Char) : Bool := plainPoints segment = ['.', '.']

/-- Whether a segment names a drive. -/
def isDrive : List Char → Bool
  | [c, d] => c.isAlpha ∧ (d = ':' ∨ d = '|')
  | _ => false

/-- Leaves the last segment, unless it names a drive. -/
def leave : List (List Char) → List (List Char)
  | [] => []
  | s :: rest => if isDrive s then s :: rest else rest

/-- The segments of a path, with `above` before them, last one first. -/
def resolve (above : List (List Char)) : List (List Char) → List (List Char)
  | [] => above.reverse
  | [s] =>
    if isDoublePoint s then (leave above).reverse ++ [[]]
    else if isSinglePoint s then above.reverse ++ [[]]
    else above.reverse ++ [s]
  | s :: rest =>
    if isDoublePoint s then resolve (leave above) rest
    else if isSinglePoint s then resolve above rest
    else resolve (s :: above) rest

/-- The segments of the path behind its first slash. -/
def segments (k : SchemeKind) (cs : List Char) : List (List Char) :=
  let path := resolve [] (Text.splitAt k.isSlash (cs.takeWhile (¬ endsPath ·)))
  if k = .file then
    match path.dropWhile (· = []) with
    | [] => [[]]
    | kept => kept
  else path

/-- The query behind a path. -/
def queryOf (cs : List Char) : List Char :=
  match cs.dropWhile (¬ endsPath ·) with
  | '?' :: rest => rest.takeWhile (· ≠ '#')
  | _ => []

/-- A link with a host and what follows it. -/
def withPath (k : SchemeKind) (host : Option Host) (cs : List Char) : Url where
  host := host
  path :=
    match cs with
    | [] => if k = .other then none else some [[]]
    | c :: rest =>
      if k.isSlash c then some (segments k rest)
      else if k = .other ∧ endsPath c then none
      else some (segments k cs)
  query := queryOf cs

/-! ### Users and hosts -/

/-- Whether the part with the host ends before the character. -/
def SchemeKind.endsAuthority (k : SchemeKind) (c : Char) : Bool := k.isSlash c ∨ endsPath c

/-- Takes the name of a user off the text, up to the last `@` before the path.  It may be empty
only if something follows. -/
def takeUser (k : SchemeKind) (cs : List Char) : Except UrlFault (List Char × List Char) :=
  let part := cs.takeWhile (¬ k.endsAuthority ·)
  if '@' ∈ part then
    let host := (part.reverse.takeWhile (· ≠ '@')).reverse
    let user := part.take (part.length - host.length - 1)
    let rest := cs.drop (user.length + 1)
    if user.isEmpty ∧ rest.head?.any k.endsAuthority then .error .emptyHost
    else .ok (user, rest)
  else .ok ([], cs)

/-- Splits the text behind the host, which ends at a colon outside of brackets or where the path
begins. -/
def splitHost (k : SchemeKind) (bracketed : Bool) : List Char → List Char × List Char
  | [] => ([], [])
  | c :: rest =>
    if (c = ':' ∧ ¬ bracketed) ∨ k.endsAuthority c then ([], c :: rest)
    else
      let bracketed := if c = '[' then true else if c = ']' then false else bracketed
      let (host, rest) := splitHost k bracketed rest
      (c :: host, rest)

/-- Drops the number behind a host, with its colon. -/
def dropPort : List Char → Except UrlFault (List Char)
  | ':' :: cs =>
    let digits := cs.takeWhile Char.isDigit
    let rest := cs.dropWhile Char.isDigit
    if Json.natOfDigits digits ≤ 0xFFFF ∧ rest.head?.all fun c => c = '/' ∨ c = '\\' ∨ endsPath c
    then .ok rest
    else .error .invalidPort
  | cs => .ok cs

/-- Whether the host has no name. -/
def isNameless : Host → Bool
  | .name [] => true
  | _ => false

/-- Reads a link behind the slashes before its host. -/
def ofAuthority (k : SchemeKind) (cs : List Char) : Except UrlFault Url := do
  let (user, cs) ← takeUser k cs
  let (text, cs) := splitHost k false cs
  let host ← if k = .special then
      if text.isEmpty then .error .emptyHost else Host.ofText text
    else Host.ofOpaque text
  if isNameless host ∧ cs.head? = some ':' then .error .emptyHost
  let cs ← dropPort cs
  if isNameless host ∧ user ≠ [] ∧ user ≠ [':'] then .error .emptyHost
  return withPath k (some host) cs

/-- Reads a link of files behind its scheme.  The host may be missing, and a drive is none. -/
def ofFile (cs : List Char) : Except UrlFault Url := do
  match cs with
  | a :: b :: rest =>
    if SchemeKind.file.isSlash a ∧ SchemeKind.file.isSlash b then
      let text := rest.takeWhile (¬ SchemeKind.file.endsAuthority ·)
      if text.isEmpty ∨ isDrive text then return withPath .file none rest
      else return withPath .file (some (← Host.ofText text)) (rest.drop text.length)
    else return withPath .file none cs
  | cs => return withPath .file none cs

/-- Reads a link of a scheme that need not name hosts. -/
def ofOther (cs : List Char) : Except UrlFault Url :=
  match cs with
  | '/' :: '/' :: rest => ofAuthority .other rest
  | '/' :: _ => .ok (withPath .other none cs)
  | cs => .ok { query := queryOf cs }

/-- The characters of a link that count. -/
def clean (cs : List Char) : List Char :=
  (Text.trimWhile (fun c => c.toNat ≤ 0x20) cs).filter fun c => c ≠ '\t' ∧ c ≠ '\n' ∧ c ≠ '\r'

def ofText (cs : List Char) : Except UrlFault Url :=
  match takeScheme (clean cs) with
  | none => .error .noScheme
  | some (scheme, rest) =>
    match SchemeKind.ofName scheme with
    | .file => ofFile rest
    | .special => ofAuthority .special (rest.dropWhile fun c => c = '/' ∨ c = '\\')
    | .other => ofOther rest

end Url

end DesignCode.Link
