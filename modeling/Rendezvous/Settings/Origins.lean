import Rendezvous.Text.Blank
import Rendezvous.Text.Split
import Rendezvous.Text.Utf8

/-!
# Origins

A browser names the origin of the page that makes a request. Two lists of origins are configured,
each a text of entries between commas: who may open a connection, and to whom a browser may show
the answers. Entries are trimmed and blank ones do not count; a list without entries restricts
nothing.

The two lists restrict differently. A request without an origin may always open a connection, and
one with an origin has to name an entry exactly. For the answers, an entry has to be fit for a
header; if no entry is, every page may read them, otherwise only the pages of the listed origins
are told so.
-/

namespace Rendezvous

/-- The entries of a list between commas, trimmed and without the blank ones. -/
def listEntries (text : String) : List String :=
  (((splitAll ',' text.toList).map trimChars).filter (!·.isEmpty)).map String.ofList

/-- Whether a request from `origin` may open a connection, where only `allowed` may if that is
given. -/
def mayConnect (allowed : Option (List String)) (origin : Option String) : Bool :=
  match allowed, origin with
  | some list, some o => list.contains o
  | _, _ => true

/-- A byte that may stand in a header: no control character except the tab. -/
def isHeaderByte (b : UInt8) : Bool :=
  (0x20 ≤ b && b != 0x7F) || b == 0x09

/-- A text that may stand in a header. -/
def isHeaderText (s : String) : Bool :=
  (Utf8.encode s).all isHeaderByte

/-- To whom a browser may show the answers. -/
inductive Sharing where
  /-- To every page. -/
  | everyone
  /-- To the pages of these origins. -/
  | only (origins : List String)
  deriving DecidableEq, Repr

namespace Sharing

/-- The entry that a list may not have: it would stand for every page. -/
def wildcard : String := "*"

/-- The sharing that a list asks for; `none` when it names the wildcard among its entries. -/
def ofList? (list : Option String) : Option Sharing :=
  let entries := ((list.map listEntries).getD []).filter isHeaderText
  if entries.isEmpty then some .everyone
  else if entries.contains wildcard then none
  else some (.only entries)

end Sharing

end Rendezvous
