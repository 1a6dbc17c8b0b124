import Searchlight.Query.Basic
import Searchlight.Query.Date

/-!
# Values of field types

How the text of a literal is read as a value of the type of its field.
-/

namespace Searchlight

namespace FieldType

/-- Integers of sixty-four bits. -/
def longValue? (cs : List Char) : Option Int :=
  (readInteger? cs).filter fun n => -0x8000000000000000 ≤ n && n < 0x8000000000000000

def doubleValue? (cs : List Char) : Option Double :=
  (Binary.read? cs).filter Binary.isFinite

def booleanValue? (cs : List Char) : Option Bool :=
  if sameIgnoringAsciiCase cs "true".toList then some true
  else if sameIgnoringAsciiCase cs "false".toList then some false
  else none

def value? (type : FieldType) (s : String) : Option Value :=
  match type with
  | text | keyword => some (.text s)
  | long => (longValue? s.toList).map .integer
  | double => (doubleValue? s.toList).map .float
  | date => if Date.isDate s.toList then some (.text s) else none
  | boolean => (booleanValue? s.toList).map .boolean

/-- What a text would have to be to have a value. -/
def expected : FieldType → String
  | text | keyword => "a string"
  | long => "an integer"
  | double => "a number"
  | date => "a date (YYYY-MM-DD, RFC 3339 or date math from 'now')"
  | boolean => "true or false"

end FieldType

end Searchlight
