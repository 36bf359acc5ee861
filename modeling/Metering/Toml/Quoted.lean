import Metering.Text.Digits

/-!
# Quoted text in settings

Texts between quotes. Between double quotes a backslash stands before what
cannot stand for itself; between single quotes every character stands for
itself. Three quotes enclose texts of several lines, whose first line end, if
it comes at once, is not part of the text; there a backslash at the end of a
line takes away the line end and all blanks and line ends behind it.

* `Quoted.line?`: the text behind an opening quote, on one line;
* `Quoted.text?`: the text behind an opening quote, on one line or several.
-/

namespace Metering.Toml.Quoted

/-- A character that may stand in a text or a comment. -/
def isPlain (c : Char) : Bool := c = '\t' || (' ' ≤ c && c ≠ '\x7F')

/-- A blank within a line. -/
def isBlank (c : Char) : Bool := c = ' ' || c = '\t'

/-- The character whose number is written in so many hexadecimal digits, and the rest. -/
def byNumber? (width : Nat) (s : List Char) : Option (Char × List Char) := do
  let ds ← (s.take width).mapM Text.hexDigit?
  let n := Text.ofDigits 16 ds
  if ds.length = width ∧ n.isValidChar then some (Char.ofNat n, s.drop width) else none

/-- The character that is written behind a backslash, and the rest. -/
def escaped? : List Char → Option (Char × List Char)
  | 'b' :: s => some ('\x08', s)
  | 't' :: s => some ('\t', s)
  | 'n' :: s => some ('\n', s)
  | 'f' :: s => some ('\x0C', s)
  | 'r' :: s => some ('\r', s)
  | 'e' :: s => some ('\x1B', s)
  | '"' :: s => some ('"', s)
  | '\\' :: s => some ('\\', s)
  | 'x' :: s => byNumber? 2 s
  | 'u' :: s => byNumber? 4 s
  | 'U' :: s => byNumber? 8 s
  | _ => none

/-- The text up to the next double quote on the same line, behind the characters
    `done`, which are in reverse order. Every step takes a character of the text,
    whose length bounds the steps. -/
def escapedLine? : Nat → List Char → List Char → Option (String × List Char)
  | 0, _, _ => none
  | steps + 1, done, s =>
    match s with
    | '"' :: rest => some (String.ofList done.reverse, rest)
    | '\\' :: s => do
      let (c, rest) ← escaped? s
      escapedLine? steps (c :: done) rest
    | c :: rest => if isPlain c then escapedLine? steps (c :: done) rest else none
    | [] => none

/-- The text up to the next single quote on the same line. -/
def literalLine? (s : List Char) : Option (String × List Char) :=
  match s.takeWhile fun c => isPlain c && c ≠ '\'', s.dropWhile fun c => isPlain c && c ≠ '\'' with
  | text, '\'' :: rest => some (String.ofList text, rest)
  | _, _ => none

/-- The text behind an opening quote, on one line. -/
def line? (quote : Char) (s : List Char) : Option (String × List Char) :=
  if quote = '"' then escapedLine? (s.length + 1) [] s else literalLine? s

/-- A text without a line end at its head. -/
def dropLineEnd : List Char → List Char
  | '\n' :: s => s
  | '\r' :: '\n' :: s => s
  | s => s

/-- A text without the blanks and line ends at its head. -/
def dropLines : List Char → List Char
  | '\n' :: s => dropLines s
  | '\r' :: '\n' :: s => dropLines s
  | c :: s => if isBlank c then dropLines s else c :: s
  | [] => []

/-- The text behind a backslash at the end of a line, where the next line has text. -/
def joined? (s : List Char) : Option (List Char) :=
  match s.dropWhile isBlank with
  | '\n' :: s => some (dropLines s)
  | '\r' :: '\n' :: s => some (dropLines s)
  | _ => none

/-- The text up to three quotes, behind the characters `done`, which are in
    reverse order. One or two more quotes right before the last three belong to
    the text. Every step takes a character of the text, whose length bounds the steps. -/
def linesFrom? (quote : Char) : Nat → List Char → List Char → Option (String × List Char)
  | 0, _, _ => none
  | steps + 1, done, s =>
    match s with
    | '\r' :: '\n' :: rest => linesFrom? quote steps ('\n' :: '\r' :: done) rest
    | '\n' :: rest => linesFrom? quote steps ('\n' :: done) rest
    | a :: rest =>
      if a = quote ∧ rest.take 2 = [quote, quote] then
        let more := ((rest.drop 2).takeWhile (· = quote)).take 2
        some (String.ofList (done.reverse ++ more), rest.drop (2 + more.length))
      else if quote = '"' ∧ a = '\\' then
        match joined? rest with
        | some rest => linesFrom? quote steps done rest
        | none => do
          let (c, rest) ← escaped? rest
          linesFrom? quote steps (c :: done) rest
      else if isPlain a then linesFrom? quote steps (a :: done) rest
      else none
    | [] => none

/-- The text behind an opening quote, on one line or several. -/
def text? (quote : Char) (s : List Char) : Option (String × List Char) :=
  if s.take 2 = [quote, quote] then
    let s := dropLineEnd (s.drop 2)
    linesFrom? quote (s.length + 1) [] s
  else line? quote s

end Metering.Toml.Quoted
