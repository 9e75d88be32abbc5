import ChatAudit.Net.Host
import ChatAudit.Text.Quoted
import ChatAudit.Text.Integer

/-! Addresses of resources. -/
namespace ChatAudit
open Text

/-- An address in its parts, each with escapes where it needs them. -/
structure Url where
  scheme : List Char
  userinfo : List Char
  /-- Without brackets. -/
  host : List Char
  port : Option Int
  path : List Char
  query : Option (List Char)
  fragment : Option (List Char)
deriving DecidableEq, Repr

namespace Url

inductive Fault
  | tooLong
  | partTooLong (name : String)
  | control (c : Char) (position : Nat)
  | pathAfterHost
  | slashesWithoutHost
  | colonWithoutScheme
  | port (text : String)
  | host (kind : Host.Fault) (text : String)
deriving DecidableEq, Repr

def Fault.message : Fault → String
  | .tooLong => "URL too long"
  | .partTooLong name => "URL component '" ++ name ++ "' too long"
  | .control c position =>
    "Invalid non-printable ASCII character in URL, " ++ quoted (String.singleton c) ++
      " at position " ++ toString position ++ "."
  | .pathAfterHost => "For absolute URLs, path must be empty or begin with '/'"
  | .slashesWithoutHost => "Relative URLs cannot have a path starting with '//'"
  | .colonWithoutScheme => "Relative URLs cannot have a path starting with ':'"
  | .port text => "Invalid port: " ++ quoted text
  | .host .ipv4 text => "Invalid IPv4 address: " ++ quoted text
  | .host .ipv6 text => "Invalid IPv6 address: " ++ quoted text
  | .host .name text => "Invalid IDNA hostname: " ++ quoted text

/-- The longest address, and the longest part of one. -/
def maxLength : Nat := 65536

/-- Printable ASCII characters other than those in `not`. -/
def isSafeBut (not : List Char) (c : Char) : Bool :=
  0x20 < c.toNat && c.toNat < 0x7f && !not.contains c

def userinfoSafe : Char → Bool :=
  isSafeBut ['"', '#', '<', '>', '?', '\x60', '\x7b', '\x7d', '/', ';', '=', '@', '[', '\\', ']',
    '^', '|']
def pathSafe : Char → Bool := isSafeBut ['"', '#', '<', '>', '?', '\x60', '\x7b', '\x7d']
def querySafe : Char → Bool := isSafeBut ['"', '#', '<', '>']
def fragmentSafe : Char → Bool := isSafeBut ['"', '<', '>', '\x60']

/-- Removes dot segments; `..` takes back the segment before it, but not the leading slash. -/
def resolveDots (path : List Char) : List Char :=
  let step (done : List (List Char)) (s : List Char) :=
    if s = ['.'] then done
    else if s = ['.', '.'] then if done = [[]] then done else done.tail
    else s :: done
  joinWith '/' ((splitOn '/' path).foldl step []).reverse

def defaultPort? (scheme : List Char) : Option Int :=
  [("ftp", 21), ("http", 80), ("https", 443), ("ws", 80), ("wss", 443)].lookup
    (String.ofList scheme)

/-- The port unless it is the default one of the scheme. -/
def readPort (scheme : List Char) (cs : List Char) : Except Fault (Option Int) :=
  if cs.isEmpty then .ok none
  else match readInteger (String.ofList cs) with
    | .ok n => .ok (if defaultPort? scheme == some n then none else some n)
    | .error _ => .error (.port (String.ofList cs))

/-- User, host and port of an authority. -/
def splitAuthority (cs : List Char) : List Char × List Char × List Char :=
  let (user, rest) := cutAtLast '@' cs
  let bracketed := match rest, cutAtLast ']' rest with
    | '[' :: _, (some inner, after) => some (inner ++ [']'], after)
    | _, _ => none
  let (host, rest) := bracketed.getD (rest.takeWhile (· != ':'), rest.dropWhile (· != ':'))
  (user.getD [], host, match rest with | ':' :: r => r | r => r)

def checkPath (hasScheme hasAuthority : Bool) (path : List Char) : Except Fault Unit :=
  if hasAuthority && !path.isEmpty && path.head? != some '/' then .error .pathAfterHost
  else if !hasScheme && !hasAuthority then
    if path.take 2 = ['/', '/'] then .error .slashesWithoutHost
    else if path.head? = some ':' then .error .colonWithoutScheme
    else .ok ()
  else .ok ()

/-- An address from parts that may still need escapes. -/
def ofParts (scheme authority path : List Char) (query fragment : Option (List Char)) :
    Except Fault Url := do
  let (user, host, port) := splitAuthority authority
  let host ← (Host.normalize host).mapError (.host · (String.ofList host))
  let port ← readPort scheme port
  let hasScheme := !scheme.isEmpty
  let hasAuthority := !user.isEmpty || !host.isEmpty || port.isSome
  checkPath hasScheme hasAuthority path
  let path := if hasScheme || hasAuthority then resolveDots path else path
  return {
    scheme := scheme.map Char.toLower
    userinfo := Percent.normalize userinfoSafe user
    host, port
    path := Percent.normalize pathSafe path
    query := query.map (Percent.normalize querySafe)
    fragment := fragment.map (Percent.normalize fragmentSafe) }

/-- The scheme in front of a colon, possibly empty, and the rest. -/
def splitScheme (cs : List Char) : List Char × List Char :=
  let isSchemeChar (c : Char) := c.isAlphanum || c == '+' || c == '-' || c == '.'
  let scheme := cs.takeWhile isSchemeChar
  match cs.dropWhile isSchemeChar with
  | ':' :: r => if scheme.head?.elim true Char.isAlpha then (scheme, r) else ([], cs)
  | _ => ([], cs)

def splitHostPart : List Char → List Char × List Char
  | '/' :: '/' :: r =>
    let ends (c : Char) := c == '/' || c == '?'
    (r.takeWhile (!ends ·), r.dropWhile (!ends ·))
  | cs => ([], cs)

def isControl (c : Char) : Bool := c.toNat < 0x20 || c.toNat == 0x7f

def read (s : String) : Except Fault Url :=
  let cs := s.toList
  if maxLength < cs.length then .error .tooLong
  else match cs.find? isControl with
    | some c => .error (.control c (cs.idxOf c))
    | none =>
      let (cs, fragment) := cutAt '#' cs
      let (scheme, cs) := splitScheme cs
      let (authority, cs) := splitHostPart cs
      let (path, query) := cutAt '?' cs
      ofParts scheme authority path query fragment

/-- The host with brackets if it needs them. -/
def hostText (u : Url) : List Char :=
  if u.host.contains ':' then '[' :: u.host ++ [']'] else u.host

def authority (u : Url) : List Char :=
  (if u.userinfo.isEmpty then [] else u.userinfo ++ ['@']) ++ u.hostText ++
    u.port.elim [] fun p => ':' :: (toString p).toList

/-- Path and query; an empty path is a slash. -/
def target (u : Url) : List Char :=
  (if u.path.isEmpty then ['/'] else u.path) ++ u.query.elim [] ('?' :: ·)

def chars (u : Url) : List Char :=
  let authority := u.authority
  (if u.scheme.isEmpty then [] else u.scheme ++ [':']) ++
    (if authority.isEmpty then [] else '/' :: '/' :: authority) ++ u.path ++
    u.query.elim [] ('?' :: ·) ++ u.fragment.elim [] ('#' :: ·)

def text (u : Url) : String := String.ofList u.chars

/-- Whether the address names a scheme and a host. -/
def isAbsolute (u : Url) : Bool := !u.scheme.isEmpty && !u.host.isEmpty

/-- The address with another path and query. -/
def withParts (u : Url) (path : List Char) (query : Option (List Char)) : Except Fault Url :=
  let parts := [("authority", u.authority), ("path", path), ("query", query.getD []),
    ("fragment", u.fragment.getD [])]
  match parts.find? fun p => maxLength < p.2.length with
  | some p => .error (.partTooLong p.1)
  | none => ofParts u.scheme u.authority path query u.fragment

def withTarget (u : Url) (target : List Char) : Except Fault Url :=
  let (path, query) := cutAt '?' target
  u.withParts path query

def withQuery (u : Url) (query : Option (List Char)) : Except Fault Url :=
  u.withParts u.path query

/-- The address with a slash at the end of path and query. -/
def asBase (u : Url) : Except Fault Url :=
  if u.target.getLast? == some '/' then .ok u else u.withTarget (u.target ++ ['/'])

/-- What `reference` names below the address `base`, or on its own if it is absolute. -/
def resolve (base reference : Url) : Except Fault Url :=
  if reference.isAbsolute then .ok reference
  else base.withTarget (base.target ++ reference.target.dropWhile (· == '/'))

end Url
end ChatAudit
