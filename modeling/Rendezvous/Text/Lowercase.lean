import Rendezvous.Text.CaseTable

/-!
# Lower case

The lower-case form of a text in any script. Each character has its own form, with two exceptions:
the dotted capital I becomes an `i` and a combining dot, and a capital sigma becomes a final sigma
when a cased character stands before it and none after it, ignorable characters passed over.
-/

namespace Rendezvous.Lowercase

/-- Whether a code point lies in one of the ranges. -/
def inRanges (ranges : List (Nat × Nat)) (c : Char) : Bool :=
  ranges.any fun (first, last) => first ≤ c.toNat && c.toNat ≤ last

/-- The one character that a character is lowered to. -/
def lowerChar (c : Char) : Char :=
  let n := c.toNat
  match CaseTable.lowering.find? fun (first, last, step, _) =>
      first ≤ n && n ≤ last && (n - first) % step == 0 with
  | some (_, _, _, shift) => Char.ofNat ((n : Int) + shift).toNat
  | none => c

/-- Whether the first character that is not ignorable is cased. -/
def startsCased (cs : List Char) : Bool :=
  match cs.dropWhile (inRanges CaseTable.ignorable) with
  | [] => false
  | c :: _ => inRanges CaseTable.cased c

/-- The lower-case form of `cs`, which `before` precedes in reverse. -/
def lowerFrom (before : List Char) : List Char → List Char
  | [] => []
  | c :: r =>
    let form :=
      if c.toNat = 0x3A3 then
        [if startsCased before && !startsCased r then Char.ofNat 0x3C2 else Char.ofNat 0x3C3]
      else if c.toNat = 0x130 then ['i', Char.ofNat 0x307]
      else [lowerChar c]
    form ++ lowerFrom (c :: before) r

/-- The lower-case form of a text. -/
def lower (s : String) : String :=
  String.ofList (lowerFrom [] s.toList)

/-- An ASCII letter in lower case; every other character is left as it is. -/
def asciiByte (b : UInt8) : UInt8 :=
  if 0x41 ≤ b ∧ b ≤ 0x5A then b + 0x20 else b

end Rendezvous.Lowercase
