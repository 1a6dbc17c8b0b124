import Searchlight.Json.Basic

/-!
# Writing JSON

Compact text has no white space. Indented text puts every item and member on a line of its own, two
spaces further in for each level; empty arrays and objects stay closed.
-/

namespace Searchlight

namespace Json

def controlEscape (c : Char) : List Char :=
  let digits := Nat.toDigits 16 c.toNat
  ['\\', 'u'] ++ zeros (4 - digits.length) ++ digits

def writeChar (c : Char) : List Char :=
  match c with
  | '"' => ['\\', '"']
  | '\\' => ['\\', '\\']
  | '\n' => ['\\', 'n']
  | '\r' => ['\\', 'r']
  | '\t' => ['\\', 't']
  | '\x08' => ['\\', 'b']
  | '\x0c' => ['\\', 'f']
  | c => if c.toNat < 0x20 then controlEscape c else [c]

def writeString (s : String) : List Char :=
  '"' :: s.toList.flatMap writeChar ++ ['"']

/-- The text of a value without parts. A double that is not finite has none and stands as null. -/
def writeFloat (x : Double) : List Char :=
  if x.isFinite then Binary.documented.write x else "null".toList

mutual

def compact : Json → List Char
  | null => "null".toList
  | bool b => (if b then "true" else "false").toList
  | integer n => (toString n).toList
  | float x => writeFloat x
  | string s => writeString s
  | array items => '[' :: compactItems items ++ [']']
  | object members => '\x7b' :: compactMembers members ++ ['\x7d']

def compactItems : List Json → List Char
  | [] => []
  | [v] => compact v
  | v :: rest => compact v ++ ',' :: compactItems rest

def compactMembers : List (String × Json) → List Char
  | [] => []
  | [(name, v)] => writeString name ++ ':' :: compact v
  | (name, v) :: rest => writeString name ++ ':' :: compact v ++ ',' :: compactMembers rest

end

def newLine (depth : Nat) : List Char :=
  '\n' :: List.replicate (2 * depth) ' '

mutual

def indented (depth : Nat) : Json → List Char
  | null => "null".toList
  | bool b => (if b then "true" else "false").toList
  | integer n => (toString n).toList
  | float x => writeFloat x
  | string s => writeString s
  | array items =>
    if items.isEmpty then ['[', ']']
    else '[' :: indentedItems (depth + 1) items ++ newLine depth ++ [']']
  | object members =>
    if members.isEmpty then ['\x7b', '\x7d']
    else '\x7b' :: indentedMembers (depth + 1) members ++ newLine depth ++ ['\x7d']

def indentedItems (depth : Nat) : List Json → List Char
  | [] => []
  | [v] => newLine depth ++ indented depth v
  | v :: rest => newLine depth ++ indented depth v ++ ',' :: indentedItems depth rest

def indentedMembers (depth : Nat) : List (String × Json) → List Char
  | [] => []
  | [(name, v)] => newLine depth ++ writeString name ++ ':' :: ' ' :: indented depth v
  | (name, v) :: rest =>
    newLine depth ++ writeString name ++ ':' :: ' ' :: indented depth v ++
      ',' :: indentedMembers depth rest

end

def compactText (v : Json) : String := String.ofList (compact v)

def indentedText (v : Json) : String := String.ofList (indented 0 v)

end Json

end Searchlight
