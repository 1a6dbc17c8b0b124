import Searchlight.Expr.Parse
import Searchlight.Text.Search

/-!
# Diagnostics for query strings

What a user is told about a query string that cannot be read: the message, the query with a caret
below the faulty place, and a hint for the common mistakes.
-/

namespace Searchlight

open Text

namespace ScanError

def text (e : ScanError) : String :=
  e.fault.message ++ " (at offset " ++ e.offset.repr ++ ")"

def hint? (e : ScanError) : Option String :=
  match e.fault with
  | .unclosedQuote => some "Add a closing quote (\") to complete the phrase"
  | .unterminatedRegex => some "Regular expressions are written as /pattern/"
  | .invalidEscape _ | .incompleteEscape =>
    some "Inside phrases only \\\" and \\\\ are valid escapes"
  | .missingBoost | .invalidBoost _ | .invalidDistance _ => none

end ScanError

namespace ParseError

def message (e : ParseError) : String :=
  "expected " ++ e.expected.describe ++ ", found " ++ e.found

def text (e : ParseError) : String :=
  e.message ++ " (at offset " ++ e.offset.repr ++ ")"

/-- Hints go by what the message says, field names in it included. -/
def hint? (e : ParseError) : Option String :=
  let expected := e.expected.describe.toList
  if occursIn "closing parenthesis".toList expected then
    some "Add a closing parenthesis ) to match the opening one"
  else if e.found = "OR" ∨ e.found = "AND" then
    some "Boolean operators require expressions on both sides, e.g., 'rust OR golang'"
  else if occursIn "'TO'".toList expected then
    some "Ranges are written as [low TO high], e.g., price:[10 TO 20]"
  else none

end ParseError

namespace QueryFault

def offset : QueryFault → Nat
  | scan e => e.offset
  | parse e => e.offset

def message : QueryFault → String
  | scan e => e.fault.message
  | parse e => e.message

/-- The message with its offset, on one line. -/
def text : QueryFault → String
  | scan e => e.text
  | parse e => e.text

def hint? : QueryFault → Option String
  | scan e => e.hint?
  | parse e => e.hint?

/-- The full diagnostic for the query string the fault was found in. -/
def report (fault : QueryFault) (query : String) : String :=
  let column := min fault.offset (byteLength query.toList)
  "query syntax error: " ++ fault.message ++ "\n" ++
    "  " ++ query ++ "\n" ++
    "  " ++ String.ofList (List.replicate column ' ') ++ "^\n" ++
    match fault.hint? with
    | some hint => "hint: " ++ hint
    | none => ""

end QueryFault

end Searchlight
