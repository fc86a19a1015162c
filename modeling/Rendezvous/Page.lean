import Rendezvous.Identity

/-!
# Pages of a chat

The messages of a chat are read in pages. A page is either the latest messages, or the messages
right before or right after a given one; its size is bounded. A query may ask for a size, for one
of the two directions, and for nothing.
-/

namespace Rendezvous

/-- From where a page is taken. -/
inductive Cursor where
  /-- The end of the chat. -/
  | latest
  /-- The messages before this one. -/
  | before (id : MessageId)
  /-- The messages after this one. -/
  | after (id : MessageId)
  deriving DecidableEq, Repr

/-- A page that is asked for. -/
structure PageSpec where
  /-- From where it is taken. -/
  cursor : Cursor
  /-- How many messages it holds at most. -/
  limit : UInt32
  deriving DecidableEq, Repr

/-- The page that is asked for when nothing is said. -/
def PageSpec.default : PageSpec :=
  ⟨.latest, UInt32.ofNat Limit.pageDefault⟩

/-- What a query says about a page. -/
structure PageWish where
  /-- The size that is wished for. -/
  limit : Option Int64
  /-- The message before which the page ends. -/
  beforeId : Option MessageId
  /-- The message after which the page begins. -/
  afterId : Option MessageId
  deriving DecidableEq, Repr

namespace PageWish

/-- The size of a page: what is wished for up to the bound, and the usual size when the wish is
none or not positive. -/
def size (limit : Option Int64) : UInt32 :=
  match limit with
  | some n =>
    if 0 < n then UInt32.ofNat (min n.toInt.toNat Limit.pageMost)
    else UInt32.ofNat Limit.pageDefault
  | none => UInt32.ofNat Limit.pageDefault

/-- What is said of a query with both directions. -/
def bothCursors : String :=
  "before_id and after_id are mutually exclusive"

/-- The page that a query asks for; `none` when it names both directions. -/
def request? (q : PageWish) : Option PageSpec :=
  match q.beforeId, q.afterId with
  | some _, some _ => none
  | some id, none => some ⟨.before id, size q.limit⟩
  | none, some id => some ⟨.after id, size q.limit⟩
  | none, none => some ⟨.latest, size q.limit⟩

end PageWish

end Rendezvous
