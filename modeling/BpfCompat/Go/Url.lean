import BpfCompat.Go.Encoding

/-!
# Uniform resource locators

Parsing a URL as `net/url` does, as far as it decides where a request is sent: the scheme, the
host and the port, and the path.  A reference is resolved against a base, and what matters of the
outcome is its destination (`resolve`): a reference with a scheme or an authority of its own goes
there, and any other one goes where the base goes.

Reassembling a URL and parsing it again gives its destination back, so a URL is kept as it was
parsed.
-/

namespace Go

/-! ### Escapes -/

def isLetter (b : UInt8) : Bool := (65 ≤ b && b ≤ 90) || (97 ≤ b && b ≤ 122)

/-- The bytes of the host component of a URL that stand for themselves. -/
def isHostByte (b : UInt8) : Bool :=
  isLetter b || isDecimal b || (str "-_.~!$&'()*+,;=:[]<>\"").contains b

/-- What may be escaped: anything in a path, in a host the bytes beyond ASCII and the percent sign,
in the zone of an address also the bytes that stand for themselves and the blank. -/
inductive EscapeMode where
  | path
  | host
  | zone
deriving DecidableEq

/-- Whether a mode lets an escape denote a byte. -/
def EscapeMode.admits (mode : EscapeMode) (b : UInt8) : Bool :=
  match mode with
  | .path => true
  | .host => 128 ≤ b || b = 37
  | .zone => b = 37 || b = 32 || (128 ≤ b || isHostByte b)

/-- Whether a mode lets a byte stand unescaped. -/
def EscapeMode.plain (mode : EscapeMode) (b : UInt8) : Bool :=
  match mode with
  | .path => true
  | .host | .zone => 128 ≤ b || isHostByte b

/-- A text with its escapes replaced by what they denote. -/
def unescape (mode : EscapeMode) : Str → Option Str
  | [] => some []
  | 37 :: a :: b :: s => do
    let high ← fromHexChar a
    let low ← fromHexChar b
    let byte := UInt8.ofNat (16 * high + low)
    if mode.admits byte then (byte :: ·) <$> unescape mode s else none
  | c :: s => if c = 37 ∨ mode.plain c = false then none else (c :: ·) <$> unescape mode s

/-! ### Parsing -/

/-- A parsed URL: what decides where a request goes, and its path. -/
structure Url where
  scheme : Str := []
  opaquePart : Str := []
  user : Bool := false
  host : Str := []
  path : Str := []
deriving DecidableEq

/-- The scheme of a URL and what follows it; absent where the URL begins with a colon. -/
def getScheme (raw : Str) : Option (Str × Str) :=
  let scheme := raw.takeWhile fun b => isLetter b || isDecimal b || b = 43 || b = 45 || b = 46
  match raw.drop scheme.length with
  | 58 :: rest =>
    match scheme with
    | [] => none
    | b :: _ => if isLetter b then some (scheme, rest) else some ([], raw)
  | _ => some ([], raw)

def validOptionalPort (port : Str) : Bool :=
  match port with
  | [] => true
  | c :: digits => c = 58 && digits.all isDecimal

/-- The part of a text from its last occurrence of a byte on, if it occurs. -/
def fromLast (b : UInt8) (s : Str) : Option Str :=
  if s.contains b then some (b :: (s.reverse.takeWhile (· ≠ b)).reverse) else none

/-- The first place where a text holds another one: what is before it, and what it begins. -/
def cutAt (sep : Str) : Str → Option (Str × Str)
  | [] => none
  | c :: s =>
    if sep.isPrefixOf (c :: s) then some ([], c :: s)
    else (cutAt sep s).map fun (before, rest) => (c :: before, rest)

/-- The host of an authority, with its port. -/
def parseHost (host : Str) : Option Str :=
  if host.head? = some 91 then
    match fromLast 93 host with
    | none => none
    | some closing =>
      if !validOptionalPort closing.tail then none
      else
        match cutAt (str "%25") (host.take (host.length - closing.length)) with
        | some (address, zone) => do
          let address ← unescape .host address
          let zone ← unescape .zone zone
          let closing ← unescape .host closing
          return address ++ zone ++ closing
        | none => unescape .host host
  else
    match fromLast 58 host with
    | some port => if validOptionalPort port then unescape .host host else none
    | none => unescape .host host

/-- The bytes the user information of a URL is made of. -/
def isUserByte (b : UInt8) : Bool :=
  isLetter b || isDecimal b || (str "-._:~!$&'()*+,;=%@").contains b

/-- Whether an authority names a user, and its host. -/
def parseAuthority (authority : Str) : Option (Bool × Str) := do
  match fromLast 64 authority with
  | none => return (false, ← parseHost authority)
  | some rest =>
    let host ← parseHost rest.tail
    let userinfo := authority.take (authority.length - rest.length)
    if !userinfo.all isUserByte then none
    else
      let _ ← unescape .path userinfo
      return (true, host)

/-- A control character. -/
def isControl (b : UInt8) : Bool := b < 32 || b = 127

/-- A URL without its fragment. -/
def parseUnfragmented (raw : Str) : Option Url := do
  if raw.any isControl then none
  else if raw = str "*" then some { path := raw }
  else
    let (scheme, rest) ← getScheme raw
    let scheme := scheme.map fun b => if 65 ≤ b && b ≤ 90 then b + 32 else b
    let rest := rest.takeWhile (· ≠ 63)
    if rest.head? ≠ some 47 ∧ scheme ≠ [] then some { scheme := scheme, opaquePart := rest }
    else if rest.head? ≠ some 47 ∧ (rest.takeWhile (· ≠ 47)).contains 58 then none
    else if (scheme ≠ [] ∨ ¬ (str "///").isPrefixOf rest) ∧ (str "//").isPrefixOf rest then
      let authority := (rest.drop 2).takeWhile (· ≠ 47)
      let (user, host) ← parseAuthority authority
      let path ← unescape .path (rest.drop (2 + authority.length))
      some { scheme := scheme, user := user, host := host, path := path }
    else do
      let path ← unescape .path rest
      some { scheme := scheme, path := path }

/-- The URL a text denotes. -/
def parseUrl (raw : Str) : Option Url := do
  let url ← parseUnfragmented (raw.takeWhile (· ≠ 35))
  let _ ← unescape .path ((raw.dropWhile (· ≠ 35)).drop 1)
  return url

/-! ### Destinations -/

/-- Where a URL points, as far as a server is concerned. -/
structure Destination where
  scheme : Str
  opaquePart : Str
  host : Str
deriving DecidableEq

def Url.destination (u : Url) : Destination := ⟨u.scheme, u.opaquePart, u.host⟩

/-- Where a reference points that is resolved against a base. -/
def resolve (origin : Destination) (ref : Url) : Destination :=
  if ref.scheme ≠ [] then ref.destination
  else if ref.host ≠ [] ∨ ref.user then ⟨origin.scheme, ref.opaquePart, ref.host⟩
  else if ref.path = [] ∧ origin.opaquePart ≠ [] then ⟨origin.scheme, origin.opaquePart, []⟩
  else ⟨origin.scheme, [], origin.host⟩

/-- The host of a destination without its port, and the port. -/
def splitHostPort (host : Str) : Str × Str :=
  match fromLast 58 host with
  | some port =>
    if validOptionalPort port then (host.take (host.length - port.length), port.tail) else (host, [])
  | none => (host, [])

/-- The host of an address without its port and its brackets. -/
def hostname (host : Str) : Str :=
  let hostOnly := (splitHostPort host).1
  if hostOnly.head? = some '['.toUInt8 ∧ hostOnly.getLast? = some ']'.toUInt8 then
    (hostOnly.drop 1).dropLast
  else hostOnly

/-- A letter of ASCII in lower case. -/
def lowerByte (b : UInt8) : UInt8 := if 65 ≤ b && b ≤ 90 then b + 32 else b

/-- The server a request goes to: its scheme, its host in lower case, and its port, which is the
usual one of the scheme where none is given. -/
structure Server where
  scheme : Str
  hostname : Str
  port : Str
deriving DecidableEq

def Destination.server (d : Destination) : Server :=
  let (hostname, port) := splitHostPort d.host
  { scheme := d.scheme
    hostname := hostname.map lowerByte
    port :=
      if port ≠ [] then port
      else if d.scheme = str "https" then str "443"
      else if d.scheme = str "http" then str "80"
      else [] }

/-- A request is sent only for the two schemes of the web, and to a host. -/
def Destination.Reachable (d : Destination) : Prop :=
  (d.scheme = str "http" ∨ d.scheme = str "https") ∧ d.host ≠ []

instance decidableReachable (d : Destination) : Decidable d.Reachable :=
  inferInstanceAs (Decidable (_ ∧ _))

example : (parseUrl (str "HTTPS://u@Api.example:8443/x%20y?q#f")).map (fun u => (u.host, u.path))
    = some (str "Api.example:8443", str "/x y") := by decide

example : (parseUrl (str "//other/x")).map (resolve ⟨str "https", [], str "api"⟩)
    = some ⟨str "https", [], str "other"⟩ := by decide

end Go
