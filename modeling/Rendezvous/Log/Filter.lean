import Rendezvous.Log.Line
import Rendezvous.Settings.Environment
import Rendezvous.Text.Lowercase
import Rendezvous.Text.Split

/-!
# Which log lines are written

A filter is a list of rules between commas. A rule is a level, the beginning of the names of some
parts of the program with a level behind an equals sign, or such a beginning alone, which stands for
every level. Of the rules that are about a line the one with the longest beginning decides, and of
two for the same beginning the later one: the line is written if it is at least as grave as the
rule's level.

A rule may also name a span in brackets. Such a rule is about what happens inside a span of that
name; the programs have none, so it is about nothing. A list with a rule that is none of these is
not used at all, and the usual filter takes its place.
-/

namespace Rendezvous.Log

/-- Up to which level lines are written; `none` for no line at all. -/
abbrev Threshold := Option Level

/-- A line of this level is written under the threshold. -/
def Threshold.admits (t : Threshold) (l : Level) : Bool :=
  match t with
  | some most => l.rank ≤ most.rank
  | none => false

/-- A rule of a filter. -/
structure Rule where
  /-- The beginning of the names of the parts that it is about. -/
  beginning : List Char
  /-- Up to which level their lines are written. -/
  threshold : Threshold
  /-- It is about what happens inside a span. -/
  isOfSpan : Bool
  deriving DecidableEq, Repr

/-- The rules of a filter. -/
abbrev Filter := List Rule

namespace Rule

/-- The thresholds under their words and numbers. -/
def thresholds : List (String × Threshold) :=
  [("off", none), ("0", none), ("error", some .error), ("1", some .error), ("warn", some .warn),
    ("2", some .warn), ("info", some .info), ("3", some .info), ("debug", some .debug),
    ("4", some .debug), ("trace", some .trace), ("5", some .trace)]

/-- An ASCII letter in lower case; every other character is left as it is. -/
def lowerAscii (c : Char) : Char :=
  if 'A' ≤ c ∧ c ≤ 'Z' then Char.ofNat (c.toNat + 32) else c

/-- The threshold that a word names, in any case. -/
def threshold? (word : List Char) : Option Threshold :=
  thresholds.lookup (String.ofList (word.map lowerAscii))

/-- A character of the name of a part: a letter or digit, a mark that joins names, or any character
beyond ASCII. -/
def isNameChar (c : Char) : Bool :=
  c.isAlphanum || c == '_' || c == ':' || c == '-' || 0x80 ≤ c.toNat

/-- The threshold behind the name of a rule: none said stands for every level. -/
def rest? : List Char → Option Threshold
  | [] => some (some .trace)
  | '=' :: word => if word.isEmpty then some (some .trace) else threshold? word
  | _ => none

/-- A rule that begins with a span in brackets. -/
def ofSpan? (beginning : List Char) (s : List Char) : Option Rule := do
  let (_, behind) ← splitFirst ']' s
  let threshold ← rest? behind
  some ⟨beginning, threshold, true⟩

/-- The rule that a text states. -/
def read? (s : List Char) : Option Rule :=
  match threshold? s with
  | some threshold => some ⟨[], threshold, false⟩
  | none =>
    let name := s.takeWhile isNameChar
    match s.dropWhile isNameChar with
    | '[' :: inside => ofSpan? name inside
    | behind =>
      if name.isEmpty then none
      else (rest? behind).map fun threshold => ⟨name, threshold, false⟩

/-- The rule is about the lines of this part. -/
def covers (r : Rule) (target : List Char) : Bool :=
  !r.isOfSpan && r.beginning.isPrefixOf target

end Rule

namespace Filter

/-- The usual filter. -/
def usual : Filter :=
  [("matchchat", Level.info), ("tower_http", .info), ("server", .debug),
    ("reset_swipes", .info)].map fun (name, level) => ⟨name.toList, some level, false⟩

/-- The filter of a list without rules: errors are written. -/
def errorsOnly : Filter :=
  [⟨[], some .error, false⟩]

/-- The filter that a text states; `none` when one of its rules makes no sense. -/
def read? (text : String) : Option Filter :=
  match (splitAll ',' text.toList).filter (!·.isEmpty) with
  | [] => some errorsOnly
  | rules => rules.mapM Rule.read?

/-- The filter of an environment. -/
def ofEnvironment (env : Environment) : Filter :=
  ((env.get? "RUST_LOG").bind read?).getD usual

/-- Of two rules the one that decides, where `r` comes later. -/
def stronger (best : Option Rule) (r : Rule) : Option Rule :=
  match best with
  | some b => if r.beginning.length < b.beginning.length then some b else some r
  | none => some r

/-- The rule that decides about the lines of a part. -/
def deciding? (f : Filter) (target : String) : Option Rule :=
  (f.filter (·.covers target.toList)).foldl stronger none

/-- The line is written. -/
def admits (f : Filter) (l : Line) : Bool :=
  match f.deciding? l.target with
  | some r => Threshold.admits r.threshold l.level
  | none => false

/-- Under the usual filter, a line of the server is written unless it is a trace. -/
theorem usual_admits_server (l : Line) (h : l.target = "server") :
    usual.admits l = true ↔ l.level ≠ .trace := by
  have : usual.deciding? l.target = some ⟨"server".toList, some .debug, false⟩ := by
    rw [h]; decide
  rw [admits, this]
  cases l.level <;> decide

end Filter

end Rendezvous.Log
