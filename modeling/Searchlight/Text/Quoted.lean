import Searchlight.Text.Category
import Searchlight.Text.Property

/-!
# Quoted text

Text between double quotes, as trees and dumps show it. Printable characters stand for themselves;
the quote, the backslash and the common controls have two-character escapes; all others, the letters
that show nothing, and the marks that would attach to the character before them are written as code
points in braces.
-/

namespace Searchlight.Text

/-- Characters that extend a grapheme without being nonspacing or enclosing marks. -/
def otherExtending : Table Unit := Table.setOfText "
    9be 9bf 9d7 9d8 b3e b3f b57 b58 bbe bbf bd7 bd8 cc0 cc1 cc2 cc3 cc7 cc9 cca ccc cd5 cd7 d3e
    d3f d57 d58 dcf dd0 ddf de0 1715 1716 1734 1735 1b35 1b36 1b3b 1b3c 1b3d 1b3e 1b43 1b45 1baa
    1bab 1bf2 1bf4 200c 200d 302e 3030 a953 a954 a9c0 a9c1 ff9e ffa0 111c0 111c1 11235 11236
    1133e 1133f 1134d 1134e 11357 11358 113b8 113b9 113c2 113c3 113c5 113c6 113c7 113ca 113cf
    113d0 114b0 114b1 114bd 114be 115af 115b0 116b6 116b7 11930 11931 1193d 1193e 11f41 11f42
    16ff0 16ff2 1d165 1d167 1d16d 1d173 e0020 e0080"

def extendsGrapheme (c : Char) : Bool :=
  match category c with
  | .nonspacingMark | .enclosingMark => true
  | _ => otherExtending.contains c.toNat

/-- Whether a character attaches to the one before it. The modifier letters among those that extend
a grapheme are shown by themselves. -/
def attaches (c : Char) : Bool :=
  extendsGrapheme c && category c != .modifierLetter

/-- Characters that are shown as they are: of ASCII the space and what follows it, but for the last,
and of the others those with a glyph of their own. -/
def isPrintable (c : Char) : Bool :=
  if c.toNat < 0x7f then 0x20 ≤ c.toNat
  else !((category c).isOther || (category c).isSeparator || defaultIgnorable.contains c.toNat)

def codePointEscape (c : Char) : List Char :=
  ['\\', 'u', '\x7b'] ++ Nat.toDigits 16 c.toNat ++ ['\x7d']

def quoteChar (c : Char) : List Char :=
  match c with
  | '"' => ['\\', '"']
  | '\\' => ['\\', '\\']
  | '\n' => ['\\', 'n']
  | '\r' => ['\\', 'r']
  | '\t' => ['\\', 't']
  | '\x00' => ['\\', '0']
  | c => if isPrintable c && !attaches c then [c] else codePointEscape c

def quote (cs : List Char) : List Char :=
  '"' :: cs.flatMap quoteChar ++ ['"']

def quoted (s : String) : String :=
  String.ofList (quote s.toList)

end Searchlight.Text
