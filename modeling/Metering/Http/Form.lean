import Metering.Text.Digits
import Metering.Text.Pieces

/-!
# Form fields

The fields that a query string holds: pairs of a name and a value, with `&`
between them. A plus stands for a blank, and `%` with two hexadecimal digits
for the byte of that number; a `%` without them stands for itself.

* `Form.fields`: the fields of a query string, in order.

Bytes beyond ASCII are kept as characters of the same number. No name and no
value that a request can use has any, so what they spell makes no difference.
-/

namespace Metering.Http.Form

/-- A name or a value as it was meant. -/
def decode : List Char → List Char
  | [] => []
  | '+' :: s => ' ' :: decode s
  | '%' :: a :: b :: s =>
    match Text.hexDigit? a, Text.hexDigit? b with
    | some x, some y => Char.ofNat (16 * x + y) :: decode s
    | _, _ => '%' :: decode (a :: b :: s)
  | c :: s => c :: decode s

/-- A field: what comes before the first equals sign, and what comes behind it. -/
def field (piece : List Char) : List Char × List Char :=
  (decode (piece.takeWhile (· ≠ '=')), decode ((piece.dropWhile (· ≠ '=')).drop 1))

/-- The fields of a query string. Empty pieces are none. -/
def fields (query : List Char) : List (List Char × List Char) :=
  ((Text.pieces '&' query).filter (!·.isEmpty)).map field

/-- The value of the one field of some name, if there is exactly one. -/
def only? (fields : List (List Char × List Char)) (name : String) : Option (List Char) :=
  match fields.filter (·.1 = name.toList) with
  | [(_, value)] => some value
  | _ => none

end Metering.Http.Form
