/-!
# Media types

The type of a request's body: a type and a subtype, and parameters behind
semicolons. What follows the last plus of a subtype is its suffix.

* `MediaType.read?`: the media type that a header says;
* `MediaType.isJson`: the body is JSON.
-/

namespace Metering.Http

/-- A media type without its parameters, in small letters. -/
structure MediaType where
  /-- The type. -/
  type : List Char
  /-- The subtype up to its suffix. -/
  subtype : List Char
  /-- The suffix, if there is one. -/
  suffix? : Option (List Char)
deriving Repr, DecidableEq

namespace MediaType

/-- A character of which types and parameters are made. -/
def isToken (c : Char) : Bool :=
  c.isAlphanum || ['!', '#', '$', '%', '&', '\'', '+', '-', '.', '^', '_', '`', '|', '~'].contains c

/-- A character of a quoted parameter. -/
def isQuotable (c : Char) : Bool := ' ' ≤ c && c ≠ '\x7F'

/-- The text behind the closing quote of a parameter, which has at least one character. -/
def afterQuoted? : List Char → Option (List Char)
  | [] => none
  | c :: s =>
    if isQuotable c then
      match s.dropWhile fun d => isQuotable d && d ≠ '"' with
      | '"' :: rest => some rest
      | _ => none
    else none

/-- Parameters behind a semicolon are in order. Every parameter takes a
    character, so the length of the text bounds their number. -/
def parametersFrom : Nat → List Char → Bool
  | 0, _ => false
  | steps + 1, s =>
    match s.dropWhile (· = ' ') with
    | [] => true
    | s =>
      match s.takeWhile isToken, s.dropWhile isToken with
      | _ :: _, '=' :: '"' :: s =>
        match (afterQuoted? s).map (·.dropWhile (· = ' ')) with
        | some [] => true
        | some (';' :: s) => parametersFrom steps s
        | _ => false
      | _ :: _, '=' :: s =>
        match s.takeWhile isToken, s.dropWhile isToken with
        | _, [] => true
        | _ :: _, ';' :: s => parametersFrom steps s
        | _, _ => false
      | _, _ => false

/-- The parts of a subtype before and behind its last plus. A plus at its
    beginning belongs to it. -/
def splitSuffix (s : List Char) : List Char × Option (List Char) :=
  let suffix := (s.reverse.takeWhile (· ≠ '+')).reverse
  let before := s.take (s.length - suffix.length - 1)
  if suffix.length < s.length ∧ before ≠ [] then (before, some suffix) else (s, none)

/-- The media type that a header says. -/
def read? (header : String) : Option MediaType :=
  let s := header.toList
  match s.takeWhile isToken, s.dropWhile isToken with
  | [], _ => none
  | type, '/' :: s =>
    let (subtype, suffix?) := splitSuffix ((s.takeWhile isToken).map Char.toLower)
    let mediaType : MediaType := ⟨type.map Char.toLower, subtype, suffix?⟩
    match s.takeWhile isToken, s.dropWhile isToken with
    | _, [] => some mediaType
    | _ :: _, ';' :: s => if parametersFrom (s.length + 1) s then some mediaType else none
    | _, _ => none
  | _, _ => none

/-- The body is JSON, or something that is written in JSON. -/
def isJson (m : MediaType) : Bool :=
  m.type = "application".toList && (m.subtype = "json".toList || m.suffix? = some "json".toList)

end MediaType

end Metering.Http
