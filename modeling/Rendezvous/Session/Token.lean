import Rendezvous.Digest.Sha384
import Rendezvous.Identity
import Rendezvous.Text.Hex
import Rendezvous.Text.Utf8

/-!
# Session tokens

A session token lets its user open one connection. It is a number of 256 bits that nobody can
guess, written in hexadecimal. Where the bits come from is not the business of the service; a
generator that can be replayed spreads the tokens of a run over all numbers by a digest.
-/

namespace Rendezvous.Token

/-- The token of so many bits. -/
def ofBytes (bytes : List UInt8) : String :=
  Hex.encode (bytes.take Limit.tokenBytes)

/-- The `n`-th token of a run that can be replayed. -/
def replayed (n : Nat) : String :=
  ofBytes (Sha384.digest (Utf8.encode ("session " ++ n.repr)))

end Rendezvous.Token
