import GraphLoad.Web.Host

/-!
Web addresses, as the URL standard reads them: blanks around the text and line ends in it do not
count, the scheme is in lower case, the fragment is dropped, dot segments are resolved, and in path
and query what is not plain is percent-encoded.
-/

namespace GraphLoad

inductive Url.Problem where
  | noScheme
  | host (problem : Host.Problem)
  | invalidNumber
deriving DecidableEq, Repr

structure Url where
  scheme : String
  host : Option Host
  /-- The number behind the colon of the host. -/
  number : Option Nat
  /-- The segments of the path, encoded; the path of an opaque address is not kept. -/
  segments : List String
  /-- The query, encoded. -/
  query : Option String
deriving DecidableEq, Repr

namespace Url

def Problem.message : Problem → String
  | noScheme => "relative URL without a base"
  | host problem => problem.message
  | invalidNumber => "invalid port number"

/-! ### Characters -/

/-- How addresses of a scheme are written. -/
inductive Kind where
  /-- For well-known schemes: there is always a host, whatever the number of slashes before it. -/
  | special
  /-- For files: there may be no host, and a path may start with the letter of a drive. -/
  | file
  /-- For all others: there is a host behind two slashes, and no path is read without a slash. -/
  | other
deriving DecidableEq, Repr

/-- How addresses of a scheme are written. -/
def Kind.ofScheme (scheme : String) : Kind :=
  if ["http", "https", "ws", "wss", "ftp"].contains scheme then special
  else if scheme == "file" then file
  else other

/-- What separates the segments of a path: slashes, and backslashes where the scheme is known. -/
def isSeparator (kind : Kind) (c : Char) : Bool :=
  c == '/' || (kind != .other && c == '\\')

/-- What ends a path: the sign of the query or that of the fragment. -/
def endsPath (c : Char) : Bool :=
  c == '?' || c == '#'

/-- What ends the part of an address that names the host. -/
def endsAuthority (kind : Kind) (c : Char) : Bool :=
  isSeparator kind c || endsPath c

def isPlainInPath (c : Char) : Bool :=
  0x20 < c.toNat && c.toNat < 0x7f &&
    !(['"', '#', '<', '>', '?', '^', '\x60', '{', '}'].contains c)

def isPlainInQuery (kind : Kind) (c : Char) : Bool :=
  0x20 < c.toNat && c.toNat < 0x7f && !(['"', '#', '<', '>'].contains c) &&
    !(kind != .other && c == '\'')

/-! ### Paths -/

/-- The dots that a segment consists of, a dot being written plainly or encoded; none if there is
something else in it. -/
def dots : List Char → Option Nat
  | [] => some 0
  | '.' :: r => (dots r).map (· + 1)
  | '%' :: '2' :: e :: r => if e == 'e' || e == 'E' then (dots r).map (· + 1) else none
  | _ => none

/-- Adds a segment to those before it, which stand last first: one dot stays where it is, two go up,
and at the end both leave an empty segment. -/
def place (before : List (List Char)) (piece : List Char) (isLast : Bool) : List (List Char) :=
  let ending : List (List Char) := if isLast then [[]] else []
  match dots piece with
  | some 1 => ending ++ before
  | some 2 => ending ++ before.tail
  | _ => piece :: before

/-- Resolves the dot segments, `before` being the segments so far, last first. -/
def resolve (before : List (List Char)) : List (List Char) → List (List Char)
  | [] => before.reverse
  | piece :: rest => resolve (place before piece rest.isEmpty) rest

def isDrive : List Char → Bool
  | [letter, mark] => letter.isAlpha && (mark == ':' || mark == '|')
  | _ => false

/-- Whether the path comes to start with the letter of a drive while its dot segments are
resolved. -/
def entersDrive (before : List (List Char)) : List (List Char) → Bool
  | [] => false
  | piece :: rest =>
    (before.isEmpty && isDrive piece) || entersDrive (place before piece rest.isEmpty) rest

/-- The pieces of a path. Its first separator may be missing. -/
def pieces (kind : Kind) (path : List Char) : List (List Char) :=
  match path with
  | [] => [[]]
  | c :: r => Text.split (isSeparator kind) (if isSeparator kind c then r else c :: r)

/-- The encoded segments of a path. An empty path of a well-known scheme stands for the root. -/
def segmentsOf (kind : Kind) (path : List Char) : List String :=
  if path.isEmpty && kind == .other then []
  else (resolve [] (pieces kind path)).map fun piece =>
    String.ofList (Percent.encode isPlainInPath piece)

/-! ### Reading -/

/-- The text without blanks and control characters at its ends and without tabs and line ends. -/
def clean (s : List Char) : List Char :=
  let blank (c : Char) : Bool := c.toNat ≤ 0x20
  (((s.dropWhile blank).reverse.dropWhile blank).reverse).filter fun c =>
    !(c == '\t' || c == '\n' || c == '\r')

def isInScheme (c : Char) : Bool :=
  c.isAlphanum || c == '+' || c == '-' || c == '.'

/-- The scheme in lower case, and what follows its colon. -/
def scheme? (s : List Char) : Option (String × List Char) :=
  let name := s.takeWhile isInScheme
  match s.dropWhile isInScheme with
  | ':' :: r =>
    if name.head?.any Char.isAlpha then some (String.ofList (name.map Char.toLower), r) else none
  | _ => none

/-- The host, and the number behind it, cut at the colon that stands outside of brackets. -/
def splitNumber : (inside : Bool) → List Char → List Char × Option (List Char)
  | _, [] => ([], none)
  | inside, c :: r =>
    if c == ':' && !inside then ([], some r)
    else
      let (host, number) := splitNumber ((inside || c == '[') && c != ']') r
      (c :: host, number)

/-- Reads the number of a host, of 16 bits; none is given by an empty text. -/
def readNumber (s : List Char) : Except Problem (Option Nat) :=
  if s.isEmpty then .ok none
  else match Text.natural? s with
    | some n => if n < 65536 then .ok (some n) else .error .invalidNumber
    | none => .error .invalidNumber

/-- The query of an address, from its path on. -/
def queryOf (kind : Kind) (s : List Char) : Option String :=
  match s.dropWhile (!endsPath ·) with
  | '?' :: query =>
    some (String.ofList (Percent.encode (isPlainInQuery kind) (query.takeWhile (· != '#'))))
  | _ => none

/-- The address with the given host, from its path on. -/
def fromPath (kind : Kind) (scheme : String) (host : Option Host) (number : Option Nat)
    (s : List Char) : Url where
  scheme := scheme
  host := host
  number := number
  segments := segmentsOf kind (s.takeWhile (!endsPath ·))
  query := queryOf kind s

/-- The user in front of the last at sign, and what is behind it. -/
def splitUser (s : List Char) : Option (List Char) × List Char :=
  let behind := (s.reverse.takeWhile (· != '@')).reverse
  if s.contains '@' then (some (s.take (s.length - behind.length - 1)), behind) else (none, s)

/-- Reads a host of a kind; an empty one is none. -/
def readHost (kind : Kind) (s : List Char) : Except Problem (Option Host) :=
  if s.isEmpty then
    if kind == .other then .ok none else .error (.host .empty)
  else
    ((if kind == .other then Host.ofOther s else Host.ofText s).map some).mapError .host

/-- Reads an address from its user on. Without a host there is neither a user nor a number. -/
def withHost (kind : Kind) (scheme : String) (s : List Char) : Except Problem Url := do
  let (user, s') := splitUser (s.takeWhile (!endsAuthority kind ·))
  let rest := s.dropWhile (!endsAuthority kind ·)
  let (hostText, numberText) := splitNumber false s'
  let host ← readHost kind hostText
  let lacksHost := match user with
    | none => false
    | some [] => s'.isEmpty && !rest.isEmpty
    | some user => user != [':']
  if host.isNone && (numberText.isSome || lacksHost) then .error (.host .empty)
  else
    let numberText := numberText.getD []
    let number ← readNumber (numberText.takeWhile (· != '\\'))
    .ok (fromPath kind scheme host number (numberText.dropWhile (· != '\\') ++ rest))

/-- Reads an address of a file from its host on. There is no host if the name is empty or that of
the machine itself, or if there is the letter of a drive. -/
def ofFile (scheme : String) (s : List Char) : Except Problem Url := do
  let name := s.takeWhile (!endsAuthority .file ·)
  let rest := s.dropWhile (!endsAuthority .file ·)
  let host ← if name.isEmpty || isDrive name then .ok none else readHost .file name
  let onDrive := entersDrive [] (pieces .file (rest.takeWhile (!endsPath ·)))
  let host := if host = some (.name "localhost") || onDrive then none else host
  .ok (fromPath .file scheme host none rest)

/-- An address without a host, from its path on. The path of an opaque address is not kept. -/
def withoutHost (kind : Kind) (scheme : String) (s : List Char) : Url :=
  let isKept := kind == .file || s.head? == some '/'
  fromPath kind scheme none none (if isKept then s else s.dropWhile (!endsPath ·))

/-- Reads an address of a kind from behind the colon of its scheme on. -/
def behindScheme (kind : Kind) (scheme : String) (s : List Char) : Except Problem Url :=
  match kind, s with
  | .special, s => withHost kind scheme (s.dropWhile (isSeparator kind))
  | .file, a :: b :: s =>
    if isSeparator kind a && isSeparator kind b then ofFile scheme s
    else .ok (withoutHost kind scheme (a :: b :: s))
  | .other, '/' :: '/' :: s => withHost kind scheme s
  | _, s => .ok (withoutHost kind scheme s)

def ofText (text : String) : Except Problem Url :=
  match scheme? (clean text.toList) with
  | none => .error .noScheme
  | some (scheme, s) => behindScheme (Kind.ofScheme scheme) scheme s

def target (u : Url) : String :=
  "/" ++ "/".intercalate u.segments ++ (u.query.map ("?" ++ ·)).getD ""

end Url
end GraphLoad
