import SubgraphLauncher.Url.Address

/-!
# The parts of a URL

A URL is split into scheme, authority, path, query and fragment. Leading blanks and control
characters are not part of it, nor are tabs and line ends anywhere. Only the authority can be at
fault: by its brackets, by what stands between them, or by characters that turn into delimiters when
the text is brought into compatibility form.
-/

namespace SubgraphLauncher.Url

open SubgraphLauncher.Text (splitFirst)

structure Parts where
  scheme : List Char
  authority : List Char
  path : List Char
  query : List Char
  fragment : List Char
  deriving DecidableEq, Repr

inductive Fault
  | brackets
  | futureAddress
  | noAddress (host : List Char)
  | fourInBrackets
  | compatibility (authority : List Char)
  deriving DecidableEq, Repr

/-- Characters whose compatibility form holds one of the delimiters of an authority. -/
def delimiterLikes : List Nat :=
  [0x2047, 0x2048, 0x2049, 0x2100, 0x2101, 0x2105, 0x2106, 0x2A74, 0xFE13, 0xFE16, 0xFE55, 0xFE56,
   0xFE5F, 0xFE6B, 0xFF03, 0xFF0F, 0xFF1A, 0xFF1F, 0xFF20]

/-- The text that is split: without what stands before it, and on one line. -/
def clean (url : List Char) : List Char :=
  (url.dropWhile fun c => decide (c ≤ ' ')).filter fun c => c != '\t' && c != '\r' && c != '\n'

def isLetter (c : Char) : Bool :=
  (decide ('a' ≤ c) && decide (c ≤ 'z')) || (decide ('A' ≤ c) && decide (c ≤ 'Z'))

def isSchemeChar (c : Char) : Bool :=
  isLetter c || isDecimal c || c == '+' || c == '-' || c == '.'

def lowerLetter (c : Char) : Char :=
  if 'A' ≤ c ∧ c ≤ 'Z' then Char.ofNat (c.toNat + 32) else c

/-- The scheme in lower case and the text after its colon, or no scheme and the whole text. -/
def splitScheme (s : List Char) : List Char × List Char :=
  match splitFirst ':' s with
  | (before, some rest) =>
    if before.head?.any isLetter && before.all isSchemeChar then (before.map lowerLetter, rest)
    else ([], s)
  | (_, none) => ([], s)

def endsAuthority (c : Char) : Bool := c == '/' || c == '?' || c == '#'

/-- The authority after two slashes, and the text behind it. -/
def splitAuthority : List Char → List Char × List Char
  | '/' :: '/' :: rest =>
    (rest.takeWhile fun c => !endsAuthority c, rest.dropWhile fun c => !endsAuthority c)
  | s => ([], s)

def afterUser (authority : List Char) : List Char :=
  (authority.reverse.takeWhile (· != '@')).reverse

/-- `v`, hexadecimal digits, a point and something more. -/
def isFutureAddress (host : List Char) : Bool :=
  match host with
  | 'v' :: rest =>
    let digits := rest.takeWhile isHex
    !digits.isEmpty && match rest.drop digits.length with
      | '.' :: more => !more.isEmpty
      | _ => false
  | _ => false

/-- What stands between brackets has to be an address of six groups or of a future kind. -/
def checkBracketed (host : List Char) : Except Fault Unit :=
  if host.head? = some 'v' then
    if isFutureAddress host then .ok () else .error .futureAddress
  else match version? host with
    | some .six => .ok ()
    | some .four => .error .fourInBrackets
    | none => .error (.noAddress host)

/-- Checks the host of an authority that holds both brackets. Nothing but a port may stand beside
the brackets; where the brackets belong to the user, the bare host is checked. -/
def checkHost (hostAndPort : List Char) : Except Fault Unit :=
  match splitFirst '[' hostAndPort with
  | (before, some rest) =>
    if !before.isEmpty then .error .brackets
    else match splitFirst ']' rest with
      | (host, some port) =>
        if port.isEmpty || port.head? == some ':' then checkBracketed host else .error .brackets
      | (host, none) => checkBracketed host
  | (_, none) => checkBracketed (splitFirst ':' hostAndPort).1

def checkAuthority (authority : List Char) : Except Fault Unit := do
  if authority.contains '[' != authority.contains ']' then throw .brackets
  if authority.contains '[' then checkHost (afterUser authority)
  if authority.any fun c => delimiterLikes.contains c.toNat then throw (.compatibility authority)

def split (url : List Char) : Except Fault Parts := do
  let (scheme, afterScheme) := splitScheme (clean url)
  let (authority, afterAuthority) := splitAuthority afterScheme
  checkAuthority authority
  let (beforeFragment, fragment) := splitFirst '#' afterAuthority
  let (path, query) := splitFirst '?' beforeFragment
  return ⟨scheme, authority, path, query.getD [], fragment.getD []⟩

end SubgraphLauncher.Url
