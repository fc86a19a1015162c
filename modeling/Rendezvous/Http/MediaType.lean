import Rendezvous.Text.Split

/-!
# Kinds of contents

The kind of a content is a type and a subtype around a slash, and parameters behind semicolons. A
subtype may have a suffix behind its last plus sign, unless that is its first character. A content
is JSON if it is of the type `application` and its subtype without the suffix, or the suffix, is
`json`; upper and lower case do not matter. A kind that is written wrongly is no kind, even where
only a parameter is wrong.
-/

namespace Rendezvous.Http.MediaType

/-- A character of a name or of a value without quotes. -/
def isToken (c : Char) : Bool :=
  c.isAlphanum || "!#$%&'*+-.^_|~".toList.contains c || c.toNat == 0x60

/-- A character of a value in quotes. -/
def isQuotable (c : Char) : Bool :=
  31 < c.toNat && c.toNat != 127

/-- What a reader of parameters is in the middle of. -/
inductive Place where
  /-- In front of a parameter. -/
  | before
  /-- In the name of a parameter. -/
  | name
  /-- In front of the value of a parameter. -/
  | value
  /-- In a value without quotes. -/
  | bare
  /-- In front of the content of quotes. -/
  | openQuote
  /-- In the content of quotes. -/
  | quoted
  /-- Behind quotes. -/
  | behind
  deriving DecidableEq, Repr

/-- The place behind a character; `none` when the character may not stand there. -/
def Place.step? : Place → Char → Option Place
  | .before, c => if c = ' ' then some .before else if isToken c then some .name else none
  | .name, c => if c = '=' then some .value else if isToken c then some .name else none
  | .value, c => if c = '"' then some .openQuote else if isToken c then some .bare else none
  | .bare, c => if c = ';' then some .before else if isToken c then some .bare else none
  | .openQuote, c => if isQuotable c then some .quoted else none
  | .quoted, c => if c = '"' then some .behind else if isQuotable c then some .quoted else none
  | .behind, c => if c = ';' then some .before else if c = ' ' then some .behind else none

/-- The parameters may end here. -/
def Place.mayEnd : Place → Bool
  | .before => true
  | .value => true
  | .bare => true
  | .behind => true
  | _ => false

/-- The parameters behind a kind are written rightly. -/
def parametersOk (place : Place) : List Char → Bool
  | [] => place.mayEnd
  | c :: r =>
    match place.step? c with
    | some next => parametersOk next r
    | none => false

/-- The type, the subtype with its suffixes, and what comes behind the character that ends them;
`none` when they are written wrongly. -/
def split? (s : List Char) : Option (List Char × List Char × List Char) :=
  match splitFirst '/' s with
  | none => none
  | some (type, r) =>
    let subtype := r.takeWhile isToken
    let rest := r.dropWhile isToken
    if type.isEmpty || !type.all isToken || subtype.isEmpty then none
    else
      match rest with
      | [] => some (type, subtype, [])
      | c :: parameters =>
        if c = ';' || c = ' ' then some (type, subtype, parameters) else none

/-- The subtype without its suffix, or the suffix, is `json`. -/
def namesJson : List Char → Bool
  | [] => false
  | c :: r =>
    match splitLast '+' r with
    | some (front, suffix) => c :: front == "json".toList || suffix == "json".toList
    | none => c :: r == "json".toList

/-- The content is JSON. -/
def isJson (s : String) : Bool :=
  match split? (s.toList.map Char.toLower) with
  | none => false
  | some (type, subtype, parameters) =>
    parametersOk .before parameters && type == "application".toList && namesJson subtype

end Rendezvous.Http.MediaType
