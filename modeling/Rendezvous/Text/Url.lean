import Rendezvous.Text.Form
import Rendezvous.Text.Numeral

/-!
# Addresses

An address names a scheme and what the scheme needs: a host with a port and perhaps a user, a path,
a query. The blanks and control characters around it and the tabs and line ends in it do not count.
A fragment at its end is not part of it.

The host of an address stands between two slashes and the next one. A few schemes are special: they
need a host, take a backslash for a slash, and count no slashes. A host in brackets is an address of
the sixth internet protocol. A port is a number of 16 bits, or left out.
-/

namespace Rendezvous

/-! ### Hosts -/

namespace Host

/-- A character that no host holds. -/
def isForbidden (c : Char) : Bool :=
  c.toNat = 0 || " #/:<>?@[\\]^|".toList.contains c

/-- A part of an address of the fourth internet protocol. -/
def isOctet (cs : List Char) : Bool :=
  match Numeral.readDigits cs with
  | some n => n ≤ 255 && (cs.length = 1 || cs.head? != some '0')
  | none => false

/-- An address of the fourth internet protocol: four parts between dots. -/
def isVersion4 (cs : List Char) : Bool :=
  let parts := splitAll '.' cs
  parts.length = 4 && parts.all isOctet

/-- A part of an address of the sixth internet protocol: up to four hexadecimal digits. -/
def isGroup (cs : List Char) : Bool :=
  !cs.isEmpty && cs.length ≤ 4 && cs.all fun c => (Hex.value? c).isSome

/-- How many groups of 16 bits the parts between colons are, where the last one may be an address of
the fourth protocol if it ends the whole; `none` when one of them is no group. -/
def groups? (mayEnd4 : Bool) : List (List Char) → Option Nat
  | [] => some 0
  | [last] =>
    if isGroup last then some 1
    else if mayEnd4 && isVersion4 last then some 2
    else none
  | part :: rest => if isGroup part then (groups? mayEnd4 rest).map (· + 1) else none

/-- The parts between colons; none in a text that is empty. -/
def colonParts (cs : List Char) : List (List Char) :=
  if cs.isEmpty then [] else splitAll ':' cs

/-- What stands before and after the first pair of colons. -/
def splitPair : List Char → Option (List Char × List Char)
  | ':' :: ':' :: r => some ([], r)
  | c :: r => (splitPair r).map fun (p, q) => (c :: p, q)
  | [] => none

/-- An address of the sixth internet protocol: eight groups between colons, or fewer around one pair
of colons that stands for at least one group of zeros. -/
def isVersion6 (cs : List Char) : Bool :=
  match splitPair cs with
  | none => groups? true (colonParts cs) == some 8
  | some (before, behind) =>
    match groups? false (colonParts before), groups? true (colonParts behind) with
    | some m, some n => m + n ≤ 7
    | _, _ => false

end Host

/-! ### Addresses -/

/-- An address. -/
structure Url where
  /-- The scheme, in lower case. -/
  scheme : String
  /-- The host, if it has one. -/
  host : Option (List Char)
  /-- The name of the user, percent-encoded. -/
  user : List Char
  /-- The password of the user, percent-encoded. -/
  password : List Char
  /-- The port, if it is given. -/
  port : Option Nat
  /-- The path, percent-encoded. -/
  path : List Char
  /-- The fields of the query. -/
  query : List (String × String)
  deriving DecidableEq, Repr

namespace Url

/-- The schemes that need a host. -/
def specialSchemes : List String :=
  ["http", "https", "ws", "wss", "ftp"]

/-- A character that does not count at the ends of an address. -/
def isIdle (c : Char) : Bool :=
  c.toNat ≤ 0x20

/-- A character that does not count anywhere in an address. -/
def isSkipped (c : Char) : Bool :=
  c = '\t' || c = '\n' || c = '\r'

/-- The characters of an address that count. -/
def essence (s : String) : List Char :=
  ((((s.toList.dropWhile isIdle).reverse.dropWhile isIdle).reverse)).filter (!isSkipped ·)

/-- A character of a scheme behind its first one. -/
def isSchemeChar (c : Char) : Bool :=
  c.isAlphanum || c == '+' || c == '-' || c == '.'

/-- The scheme of an address in lower case, and what stands behind its colon. -/
def scheme? (s : List Char) : Option (String × List Char) := do
  let (name, behind) ← splitFirst ':' s
  match name with
  | [] => none
  | c :: r =>
    if c.isAlpha && r.all isSchemeChar then
      some (String.ofList (name.map fun c => c.toLower), behind)
    else none

/-- Where the host ends. -/
def endsHost (isSpecial : Bool) (c : Char) : Bool :=
  c == '/' || c == '?' || c == '#' || (isSpecial && c == '\\')

/-- The port behind a host: nothing, or a colon and nothing, or a colon and a number. -/
def port? : List Char → Option (Option Nat)
  | [] => some none
  | ':' :: digits =>
    if digits.isEmpty then some none
    else ((Numeral.readDigits digits).filter (· ≤ 65535)).map some
  | _ => none

/-- The host and the port that an authority names behind the user. -/
def hostAndPort? (s : List Char) : Option (List Char × Option Nat) :=
  match s with
  | '[' :: inside => do
    let (address, behind) ← splitFirst ']' inside
    if Host.isVersion6 address then (port? behind).map fun port => ('[' :: address ++ [']'], port)
    else none
  | _ =>
    let host := s.takeWhile (· != ':')
    if host.any Host.isForbidden then none
    else (port? (s.dropWhile (· != ':'))).map fun port => (host, port)

/-- The authority of an address: its user with a password, its host and its port. An authority
without a host has neither user nor port. -/
def authority? (isSpecial : Bool) (s : List Char) :
    Option (List Char × List Char × Option (List Char) × Option Nat) := do
  let (login, place) := (splitLast '@' s).getD ([], s)
  let (host, port) ← hostAndPort? place
  let (user, password) := (splitFirst ':' login).getD (login, [])
  if host.isEmpty then
    if isSpecial || place.length < s.length || !place.isEmpty then none
    else some ([], [], none, none)
  else some (user, password, some host, port)

/-- The path and the fields of the query. -/
def pathAndQuery (s : List Char) : List Char × List (String × String) :=
  let s := s.takeWhile (· != '#')
  (s.takeWhile (· != '?'), Form.decode (Utf8.encodeChars ((s.dropWhile (· != '?')).drop 1)))

/-- The authority at the beginning of a text without the slashes in front of it; `none` when there
is none to be. -/
def authorityPart (isSpecial : Bool) (s : List Char) : Option (List Char) :=
  if isSpecial then some (s.dropWhile fun c => c == '/' || c == '\\')
  else
    match s with
    | '/' :: '/' :: r => some r
    | _ => none

/-- The address that a text states. -/
def read? (s : String) : Option Url := do
  let (scheme, behind) ← scheme? (essence s)
  let isSpecial := specialSchemes.contains scheme
  match authorityPart isSpecial behind with
  | none =>
    let (path, query) := pathAndQuery behind
    some ⟨scheme, none, [], [], none, path, query⟩
  | some r =>
    let (user, password, host, port) ← authority? isSpecial (r.takeWhile (!endsHost isSpecial ·))
    let (path, query) := pathAndQuery (r.dropWhile (!endsHost isSpecial ·))
    some ⟨scheme, host, user, password, port, path, query⟩

/-- What the query says last under a name. -/
def field? (u : Url) (name : String) : Option String :=
  (Form.values name u.query).getLast?

/-- The percent-encoded text is text. -/
def isText (s : List Char) : Bool :=
  (Utf8.decode (Form.percentDecode (Utf8.encodeChars s))).isSome

/-- The path without the slashes at its two ends. -/
def barePath (u : Url) : List Char :=
  ((u.path.dropWhile (· == '/')).reverse.dropWhile (· == '/')).reverse

end Url

end Rendezvous
