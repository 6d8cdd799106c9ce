import Rendezvous.Failure
import Rendezvous.Text.Numeral
import Rendezvous.Web.Host

/-!
# Addresses of the web

An address has up to five parts: a scheme, an authority, a path, a query and a fragment.
Any text without control characters is taken apart into these; what they must not have in
them is escaped.  Hosts and ports have to be well-formed.
-/

namespace Rendezvous

structure Url where
  scheme : String
  userinfo : String
  host : String
  port : Option Int
  path : String
  query : Option String
  fragment : Option String
deriving DecidableEq

namespace Url

/-! ## Characters -/

def longest : Nat := 65536

def isControl (c : Char) : Bool := c.toNat < 32 || c.toNat = 127

/-- What stands for itself in an address, but for the characters of a list. -/
def isSafe (unsafes : String) (c : Char) : Bool :=
  32 < c.toNat && c.toNat < 127 && !unsafes.toList.contains c

def escaped (unsafes : String) (cs : List Char) : String :=
  String.ofList (Text.percentEscape (isSafe unsafes) cs)

def fragmentUnsafes : String := "\"<>`"

def queryUnsafes : String := "\"#<>"

def pathUnsafes : String := queryUnsafes ++ "?`\x7b\x7d"

def userinfoUnsafes : String := pathUnsafes ++ "/;=@[\\]^|"

/-! ## Parts -/

structure Parts where
  scheme : List Char
  authority : List Char
  path : List Char
  query : Option (List Char)
  fragment : Option (List Char)

/-- What stands before the first of some characters, and what follows that character. -/
def cut (stop : Char → Bool) (cs : List Char) : List Char × Option (List Char) :=
  match cs.span fun c => !stop c with
  | (before, []) => (before, none)
  | (before, _ :: after) => (before, some after)

/-- The scheme up to its colon, and the rest.  A colon alone is passed over. -/
def splitScheme (cs : List Char) : List Char × List Char :=
  match cs.span fun c => c.isAlphanum || c = '+' || c = '.' || c = '-' with
  | (scheme, ':' :: rest) =>
      if scheme.head?.all Char.isAlpha then (scheme, rest) else ([], cs)
  | _ => ([], cs)

/-- The authority after two slashes, and the rest. -/
def splitAuthority : List Char → List Char × List Char
  | '/' :: '/' :: rest => rest.span fun c => !(c = '/' || c = '?' || c = '#')
  | cs => ([], cs)

def parts (cs : List Char) : Parts :=
  let (scheme, rest) := splitScheme cs
  let (authority, rest) := splitAuthority rest
  let (rest, fragment) := cut (· = '#') rest
  let (path, query) := cut (· = '?') rest
  ⟨scheme, authority, path, query, fragment⟩

/-- The user, the host and the port of an authority.  The user ends with the last at sign;
a host in brackets ends with the last bracket. -/
def splitHost (authority : List Char) : List Char × List Char × List Char :=
  let beforeLast (mark : Char) (cs : List Char) : Option (List Char × List Char) :=
    match cs.reverse.span (· ≠ mark) with
    | (_, []) => none
    | (after, _ :: before) => some (before.reverse, after.reverse)
  let (userinfo, rest) := (beforeLast '@' authority).getD ([], authority)
  let (host, rest) :=
    match rest.head?, beforeLast ']' rest with
    | some '[', some (inside, after) => (inside ++ [']'], after)
    | _, _ => rest.span fun c => !(c = ':' || c = '@')
  (userinfo, host, if rest.head? = some ':' then rest.drop 1 else rest)

def usualPorts : List (String × Int) :=
  [("ftp", 21), ("http", 80), ("https", 443), ("ws", 80), ("wss", 443)]

/-- The port that a text names, if it names one, and that one is not the usual one. -/
def port? (scheme text : List Char) : Except Failure (Option Int) :=
  if text.isEmpty then .ok none
  else
    match Text.integer? text with
    | none => .error .badAddress
    | some port =>
        .ok (if usualPorts.lookup (String.ofList scheme) = some port then none else some port)

/-- A path without the parts that are a point, and without those that two points take back. -/
def straightened (cs : List Char) : List Char :=
  ['/'].intercalate <| (cs.splitOn '/').foldl (fun done part =>
    if part = ['.'] then done
    else if part = ['.', '.'] then if done = [] ∨ done = [[]] then done else done.dropLast
    else done ++ [part]) []

def isPlaced (path : List Char) (hasScheme hasAuthority : Bool) : Bool :=
  if hasAuthority then path.isEmpty || path.head? = some '/'
  else hasScheme || (!"//".toList.isPrefixOf path && path.head? ≠ some ':')

def ofParts (parts : Parts) : Except Failure Url := do
  let (userinfo, host, portText) := splitHost parts.authority
  let port ← port? parts.scheme portText
  match Host.normal? host with
  | none => .error .badAddress
  | some host =>
      let hasScheme := !parts.scheme.isEmpty
      let hasAuthority := !userinfo.isEmpty || !host.isEmpty || port.isSome
      if isPlaced parts.path hasScheme hasAuthority then
        pure
          { scheme := String.ofList (parts.scheme.map Char.toLower)
            userinfo := escaped userinfoUnsafes userinfo
            host := String.ofList host
            port := port
            path := escaped pathUnsafes
              (if hasScheme || hasAuthority then straightened parts.path else parts.path)
            query := parts.query.map (escaped queryUnsafes)
            fragment := parts.fragment.map (escaped fragmentUnsafes) }
      else
        .error .badAddress

def parse (text : String) : Except Failure Url :=
  let cs := text.toList
  if longest < cs.length ∨ cs.any isControl then .error .badAddress else ofParts (parts cs)

/-! ## Text -/

def netloc (url : Url) : String :=
  (if url.host.toList.contains ':' then "[" ++ url.host ++ "]" else url.host)
    ++ match url.port with
      | some port => ":" ++ toString port
      | none => ""

def authority (url : Url) : String :=
  (if url.userinfo = "" then "" else url.userinfo ++ "@") ++ url.netloc

def text (url : Url) : String :=
  (if url.scheme = "" then "" else url.scheme ++ ":")
    ++ (if url.authority = "" then "" else "//" ++ url.authority)
    ++ url.path
    ++ (match url.query with
      | some query => "?" ++ query
      | none => "")
    ++ match url.fragment with
      | some fragment => "#" ++ fragment
      | none => ""

/-- Whether an address stands for itself: it has a scheme and a host. -/
def isAbsolute (url : Url) : Bool := url.scheme ≠ "" && url.host ≠ ""

/-! ## Below a base -/

def rootedPath (url : Url) : List Char :=
  if url.path = "" then ['/'] else url.path.toList

/-- The path and the query of an address, below the root of a base. -/
def below (base url : Url) : Except Failure Url :=
  ofParts
    { scheme := base.scheme.toList
      authority := base.authority.toList
      path := '/' :: url.rootedPath.dropWhile (· = '/')
      query := url.query.map String.toList
      fragment := none }

/-- An address that stands for itself, or one below a base. -/
def resolve (base : Url) (text : String) : Except Failure Url := do
  let url ← parse text
  if url.isAbsolute then pure url else base.below url

def nowhere : Url := ⟨"", "", "", none, "", none, none⟩

end Url

end Rendezvous
