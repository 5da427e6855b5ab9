import NodeWorkflow.Decimal.Numeral
import NodeWorkflow.Platform.Url.Host
import NodeWorkflow.Platform.Url.Query

/-!
# Addresses

An address has a scheme, an authority with a host, a path, a query and a fragment, all of which may
be missing. Reading one brings it into its usual form: scheme and host in small letters, no port
that goes without saying, no dots that stand for folders, and escapes for everything that needs
them.

Part of the platform: the client for requests and the framework of the service take addresses this
way. The program runs on it, and no statement of the library is about it.

## Main definitions

* `Url.ofText?` reads an address, `Url.text` writes it.
* `Url.rawPath` is the path with the query, `Url.withRawPath?` puts another in its place.
-/

namespace NodeWorkflow

structure Url where
  scheme : List Char
  userinfo : List Char
  host : List Char
  port : Option Int
  path : List Char
  query : Option (List Char)
  fragment : Option (List Char)
  deriving DecidableEq, Repr

namespace Url

/-- The parts of a written address. -/
structure Parts where
  scheme : List Char
  authority : List Char
  path : List Char
  query : Option (List Char)
  fragment : Option (List Char)

/-! ## Taking apart -/

/-- The greatest length of an address and of each of its parts. -/
def lengthLimit : Nat := 65536

/-- Whether a text can be part of an address: it is not too long and holds no control characters of
ASCII. -/
def isUsable (text : List Char) : Bool :=
  text.length ≤ lengthLimit && text.all fun c => 0x20 ≤ c.toNat && c.toNat ≠ 0x7F

/-- Characters of a scheme behind its first. -/
def isSchemeChar (c : Char) : Bool :=
  c.isAlphanum || "+.-".toList.contains c

/-- The scheme, which ends with a colon, and the rest. A colon without anything before it is passed
over. -/
def splitScheme (text : List Char) : List Char × List Char :=
  let scheme := text.takeWhile isSchemeChar
  match text.dropWhile isSchemeChar with
  | ':' :: rest => if scheme.head?.all Char.isAlpha then (scheme, rest) else ([], text)
  | _ => ([], text)

/-- A part behind a mark, up to one of the characters that end it, and the rest. -/
def splitBehind (mark : Char) (ends : List Char) (text : List Char) :
    Option (List Char) × List Char :=
  match text with
  | c :: rest =>
    if c = mark then
      (some (rest.takeWhile fun c => !ends.contains c), rest.dropWhile fun c => !ends.contains c)
    else (none, text)
  | [] => (none, [])

def split (text : List Char) : Parts :=
  let (scheme, rest) := splitScheme text
  let inAuthority (c : Char) : Bool := !(['/', '?', '#'].contains c)
  let (authority, rest) :=
    match rest with
    | '/' :: '/' :: rest => (rest.takeWhile inAuthority, rest.dropWhile inAuthority)
    | rest => ([], rest)
  let inPath (c : Char) : Bool := !(['?', '#'].contains c)
  let (query, behind) := splitBehind '?' ['#'] (rest.dropWhile inPath)
  { scheme, authority, path := rest.takeWhile inPath, query
    fragment := (splitBehind '#' [] behind).1 }

/-- The user, the host and the port of an authority. The user stands in front of the last at sign,
and a host in brackets may hold colons. -/
def splitAuthority (authority : List Char) : List Char × List Char × List Char :=
  let behindUser := (authority.reverse.takeWhile (· ≠ '@')).reverse
  let user := (authority.take (authority.length - behindUser.length)).dropLast
  let bracketed := (behindUser.reverse.dropWhile (· ≠ ']')).reverse
  let host :=
    if behindUser.head? = some '[' && bracketed != [] then bracketed
    else behindUser.takeWhile (· ≠ ':')
  let rest := behindUser.drop host.length
  (user, host, if rest.head? = some ':' then rest.drop 1 else rest)

/-! ## The usual form -/

/-- The ports that go without saying. -/
def defaultPorts : List (List Char × Int) :=
  [("ftp", 21), ("http", 80), ("https", 443), ("ws", 80), ("wss", 443)].map fun (scheme, port) =>
    (scheme.toList, port)

/-- A whole number in decimal digits of any script, with white space around it, one sign, and single
underscores between digits. -/
def number? (text : List Char) : Option Int := do
  let glyphs ← Decimal.dropUnderscores ((trimWhere isSpace text).map Decimal.glyph)
  let (negative, glyphs) := Decimal.takeSign glyphs
  match Decimal.spanDigits glyphs with
  | (digits, []) =>
    if digits.isEmpty || Decimal.digitLimit < digits.length then none
    else some (signed negative (digitsValue digits))
  | _ => none

/-- The port of an address: none if it is empty or goes without saying. What is no number is no
port. -/
def port? (scheme text : List Char) : Option (Option Int) :=
  if text = [] then some none
  else
    (number? text).map fun n => if Entries.get? defaultPorts scheme = some n then none else some n

/-- Leaves out dots that stand for a folder, and goes up where two dots do; not beyond the root. -/
def settle (kept : List (List Char)) (segment : List Char) : List (List Char) :=
  if segment = ['.'] then kept
  else if segment = ['.', '.'] then if kept = [[]] then kept else kept.dropLast
  else kept ++ [segment]

def withoutDots (path : List Char) : List Char :=
  List.intercalate ['/'] ((pieces '/' path).foldl settle [])

/-- Whether a path goes with what stands in front of it. -/
def isPathFor (hasScheme hasAuthority : Bool) (path : List Char) : Bool :=
  if hasAuthority then path = [] || path.head? = some '/'
  else hasScheme || !(['/', '/'].isPrefixOf path || path.head? = some ':')

/-- Brings the parts of an address into their usual form. -/
def ofParts? (parts : Parts) : Option Url := do
  let (user, host, port) := splitAuthority parts.authority
  let scheme := parts.scheme.map Char.toLower
  let userinfo := escape isUserSafe user
  let host ← Host.ofText? host
  let port ← port? scheme port
  let hasAuthority := userinfo != [] || host != [] || port.isSome
  if !isPathFor (scheme != []) hasAuthority parts.path then none
  else
    let path := if scheme != [] || hasAuthority then withoutDots parts.path else parts.path
    some {
      scheme, userinfo, host, port
      path := escape isPathSafe path
      query := parts.query.map (escape isQuerySafe)
      fragment := parts.fragment.map (escape isFragmentSafe) }

def ofText? (text : String) : Option Url :=
  if isUsable text.toList then ofParts? (split text.toList) else none

/-! ## Writing -/

def authority (u : Url) : List Char :=
  (if u.userinfo = [] then [] else u.userinfo ++ ['@']) ++
    (if u.host.contains ':' then '[' :: u.host ++ [']'] else u.host) ++
    match u.port with
    | some port => ':' :: (toString port).toList
    | none => []

def text (u : Url) : String :=
  let authority := u.authority
  String.ofList <|
    (if u.scheme = [] then [] else u.scheme ++ [':']) ++
      (if authority = [] then [] else '/' :: '/' :: authority) ++ u.path ++
      (match u.query with
        | some query => '?' :: query
        | none => []) ++
      match u.fragment with
      | some fragment => '#' :: fragment
      | none => []

/-- The path of an address; an empty one is that of the root. -/
def fullPath (u : Url) : List Char :=
  if u.path = [] then ['/'] else u.path

/-- The path with the query. -/
def rawPath (u : Url) : List Char :=
  u.fullPath ++
    match u.query with
    | some query => '?' :: query
    | none => []

/-- The path without escapes. -/
def plainPath (u : Url) : List Char :=
  Lenient.decode (unescape u.fullPath)

def isAbsolute (u : Url) : Bool :=
  u.scheme != [] && u.host != []

/-- The address with another path and another query. -/
def withPath? (u : Url) (path : List Char) (query : Option (List Char)) : Option Url :=
  let parts : Parts :=
    { scheme := u.scheme, authority := u.authority, path, query, fragment := u.fragment }
  let written := [parts.scheme, parts.authority, path, query.getD [], parts.fragment.getD []]
  if written.all isUsable then ofParts? parts else none

/-- The address with another path and query, which are parted by the first question mark. -/
def withRawPath? (u : Url) (raw : List Char) : Option Url :=
  let path := raw.takeWhile (· ≠ '?')
  u.withPath? path (if path.length = raw.length then none else some (raw.drop (path.length + 1)))

/-- The address of a target at a base: one with a scheme and a host is taken as it is, and of any
other the path and the query go behind the path of the base. -/
def at? (base : Url) (target : String) : Option Url := do
  let u ← ofText? target
  if u.isAbsolute then some u
  else base.withRawPath? (base.rawPath ++ u.rawPath.dropWhile (· = '/'))

/-- The address with parameters in its query. They take the place of those with the same names. -/
def withParams? (u : Url) (params : Query) : Option Url :=
  let query := Entries.merge (Query.parse (u.query.getD [])) params
  u.withPath? u.path (if query.isEmpty then none else some (Query.write query))

/-- The first value of a name in the query. -/
def param? (u : Url) (name : String) : Option String :=
  (Query.parse (u.query.getD [])).first? name

end Url

end NodeWorkflow
