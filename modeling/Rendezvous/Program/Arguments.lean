import Rendezvous.Identity
import Rendezvous.Text.Numeral

/-!
# The arguments for forgetting decisions

The program that forgets the decisions of a user is told the number of the user, and by a flag that
it is meant to forget them and not only to count them. Arguments are taken from left to right.
Asking for help ends this at once, and so does the first argument that cannot be used. Nothing but
the two may be said, each of them once, and the number has to be.

A number that stands by itself does not begin with a minus sign; behind an equals sign it may.
-/

namespace Rendezvous

/-- What the program is told to do. -/
inductive ResetOrder where
  /-- To say how it is used. -/
  | help
  /-- Nothing that it can do. -/
  | unusable
  /-- To count the decisions of a user, and to forget them if that is confirmed. -/
  | reset (user : UserId) (isConfirmed : Bool)
  deriving DecidableEq, Repr

namespace ResetOrder

/-- How the number of the user is named. -/
def userOption : String := "--user"

/-- How the confirmation is named. -/
def confirmOption : String := "--confirm"

/-- The number of the user in an argument with an equals sign. -/
def inlineUser? (argument : String) : Option String :=
  let opening := (userOption ++ "=").toList
  if opening.isPrefixOf argument.toList then
    some (String.ofList (argument.toList.drop opening.length))
  else none

/-- The argument asks for help. -/
def isHelp (argument : String) : Bool :=
  argument == "--help" || ['-', 'h'].isPrefixOf argument.toList

/-- The argument may be a value that stands by itself. -/
def isValue (argument : String) : Bool :=
  argument == "-" || argument.toList.head? != some '-'

/-- What is told when all arguments are taken. -/
def conclude (user : Option UserId) (isConfirmed : Bool) : ResetOrder :=
  match user with
  | some id => .reset id isConfirmed
  | none => .unusable

/-- What the arguments tell, where some were taken already. -/
def take (user : Option UserId) (isConfirmed : Bool) : List String → ResetOrder
  | [] => conclude user isConfirmed
  | argument :: rest =>
    if isHelp argument then .help
    else if argument = "--" then
      match rest with
      | [] => conclude user isConfirmed
      | _ :: _ => .unusable
    else if argument = confirmOption then
      if isConfirmed then .unusable else take user true rest
    else if argument = userOption then
      match rest with
      | [] => .unusable
      | value :: rest =>
        if user.isSome || !isValue value then .unusable
        else
          match Numeral.readInt64 value with
          | some id => take (some id) isConfirmed rest
          | none => .unusable
    else
      match (inlineUser? argument).bind Numeral.readInt64 with
      | some id => if user.isSome then .unusable else take (some id) isConfirmed rest
      | none => .unusable

/-- What the arguments tell. -/
def ofArguments (arguments : List String) : ResetOrder :=
  take none false arguments

end ResetOrder

end Rendezvous
