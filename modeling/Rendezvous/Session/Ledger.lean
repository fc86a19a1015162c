import Rendezvous.Identity
import Rendezvous.Table

/-!
# Session tokens kept in the process

The ledger holds the tokens that were given out and not used yet, each with its user and the time
from which on it is worth nothing. A token is taken out by the attempt to use it, whatever comes of
the attempt, so it is never used twice. Tokens that nobody uses are swept out when they are worth
nothing any more.
-/

namespace Rendezvous

/-- A token that was given out. -/
structure LedgerEntry where
  /-- Who may use it. -/
  user : UserId
  /-- From when on it is worth nothing. -/
  expiresAt : Nanos
  deriving DecidableEq, Repr

/-- The tokens that were given out and not used yet. -/
structure Ledger where
  /-- The entries under their tokens. -/
  entries : Table String LedgerEntry

namespace Ledger

/-- Nothing was given out. -/
def empty : Ledger :=
  ⟨.empty⟩

instance : Inhabited Ledger := ⟨empty⟩

/-- Gives out a token for some time; `none` when the clock cannot count that far. -/
def issue? (l : Ledger) (now : Nanos) (token : String) (user : UserId) (life : Nanos) :
    Option Ledger :=
  if now + life < clockEnd then some ⟨l.entries.insert token ⟨user, now + life⟩⟩ else none

/-- Takes a token out; it names its user if it is still worth something. -/
def redeem (l : Ledger) (now : Nanos) (token : String) : Option UserId × Ledger :=
  (((l.entries.get? token).filter fun e => now < e.expiresAt).map (·.user),
    ⟨l.entries.erase token⟩)

/-- Takes a token out. -/
def revoke (l : Ledger) (token : String) : Ledger :=
  ⟨l.entries.erase token⟩

/-- Takes out every token that is worth nothing any more; the answer is how many there were. -/
def sweep (l : Ledger) (now : Nanos) : Nat × Ledger :=
  let kept := l.entries.keep fun _ e => now < e.expiresAt
  (l.entries.size - kept.size, ⟨kept⟩)

/-- How many tokens are kept. -/
def size (l : Ledger) : Nat :=
  l.entries.size

end Ledger

end Rendezvous
