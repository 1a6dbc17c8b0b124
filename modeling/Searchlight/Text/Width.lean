import Searchlight.Text.Property
import Searchlight.Text.Quoted

/-!
# Width on a terminal

How many columns a text takes up. Ideographs and pictures take two columns, marks that attach to
other characters none. Characters that are shown as one sign take up the columns of that sign:
pictures made of several characters, flags, and the ligatures of some scripts. A text is read from
its end, because what a character takes up depends on the characters after it; a `Context` holds
what has to be known of those.
-/

namespace Searchlight.Text

/-! ## Single characters -/

/-- Characters that take two columns. -/
def wide : Table Unit := Table.setOfText "
    1100 1160 231a 231c 2329 232b 23e9 23ed 23f0 23f1 23f3 23f4 25fd 25ff 2614 2616 2630 2638 2648
    2654 267f 2680 268a 2690 2693 2694 26a1 26a2 26aa 26ac 26bd 26bf 26c4 26c6 26ce 26cf 26d4 26d5
    26ea 26eb 26f2 26f4 26f5 26f6 26fa 26fb 26fd 26fe 2705 2706 270a 270c 2728 2729 274c 274d 274e
    274f 2753 2756 2757 2758 2795 2798 27b0 27b1 27bf 27c0 2b1b 2b1d 2b50 2b51 2b55 2b56 2e80 2e9a
    2e9b 2ef4 2f00 2fd6 2ff0 303f 3041 3097 3099 3100 3105 3130 3131 318f 3190 31e6 31ef 321f 3220
    3248 3250 a48d a490 a4c7 a960 a97d ac00 d7a4 f900 fb00 fe10 fe1a fe30 fe53 fe54 fe67 fe68 fe6c
    ff01 ff61 ffe0 ffe7 16fe0 16fe5 16ff0 16ff7 17000 18cd6 18cff 18d1f 18d80 18df3 1aff0 1aff4
    1aff5 1affc 1affd 1afff 1b000 1b123 1b132 1b133 1b150 1b153 1b155 1b156 1b164 1b168 1b170 1b2fc
    1d300 1d357 1d360 1d377 1f004 1f005 1f0cf 1f0d0 1f18e 1f18f 1f191 1f19b 1f200 1f203 1f210 1f23c
    1f240 1f249 1f250 1f252 1f260 1f266 1f300 1f321 1f32d 1f336 1f337 1f37d 1f37e 1f394 1f3a0 1f3cb
    1f3cf 1f3d4 1f3e0 1f3f1 1f3f4 1f3f5 1f3f8 1f43f 1f440 1f441 1f442 1f4fd 1f4ff 1f53e 1f54b 1f54f
    1f550 1f568 1f57a 1f57b 1f595 1f597 1f5a4 1f5a5 1f5fb 1f650 1f680 1f6c6 1f6cc 1f6cd 1f6d0 1f6d3
    1f6d5 1f6d9 1f6dc 1f6e0 1f6eb 1f6ed 1f6f4 1f6fd 1f7e0 1f7ec 1f7f0 1f7f1 1f90c 1f93b 1f93c 1f946
    1f947 1fa00 1fa70 1fa7d 1fa80 1fa8b 1fa8e 1fac7 1fac8 1fac9 1facd 1fadd 1fadf 1faeb 1faef 1faf9
    20000 2fffe 30000 3fffe"

/-- Unassigned code points among pictures and East Asian scripts take two columns too. -/
def isReservedWide (c : Char) : Bool :=
  category c == .unassigned &&
    (extendedPictographic.contains c.toNat || (0x16fe0 ≤ c.toNat && c.toNat < 0x1b300))

/-- Vowels and finals of the Korean script that join the syllable before them. -/
def joinsSyllable (c : Char) : Bool :=
  let n := c.toNat
  (0x1160 ≤ n && n ≤ 0x11ff) || (0xd7b0 ≤ n && n ≤ 0xd7c6) || (0xd7cb ≤ n && n ≤ 0xd7fb)

/-- Signs that are written over, around or into the characters after them. -/
def isOverlay (c : Char) : Bool :=
  [0x605, 0x70f, 0x890, 0x891, 0x8e2, 0xd4e, 0xa8fa, 0x111c2, 0x111c3, 0x113d1, 0x1193f, 0x11941,
    0x11a84, 0x11a85, 0x11a86, 0x11a87, 0x11a88, 0x11a89, 0x11d46, 0x11f02].contains c.toNat

/-- The mark that joins Tifinagh consonants; alone it takes a column. -/
def consonantJoiner : Char := '\u2d7f'

def takesNoColumn (c : Char) : Bool :=
  (attaches c && c != consonantJoiner) || defaultIgnorable.contains c.toNat || joinsSyllable c ||
    isOverlay c

def charWidth (c : Char) : Nat :=
  if c.toNat ≤ 0xa0 then 1
  else if c = '\u115f' || c = '\u17a4' then 2
  else if takesNoColumn c then 0
  else if c = '\u17d8' then 3
  else if wide.contains c.toNat || isReservedWide c then 2
  else 1

/-! ## Pictures -/

/-- Pictures that a selector may turn into text. -/
def changeable : Table Unit := Table.setOfText "
    231a 231c 23e9 23ed 23f0 23f1 23f3 23f4 25fd 25ff 2614 2616 2648 2654 267f 2680 2693 2694 26a1
    26a2 26aa 26ac 26bd 26bf 26c4 26c6 26ce 26cf 26d4 26d5 26ea 26eb 26f2 26f4 26f5 26f6 26fa 26fb
    26fd 26fe 2705 2706 270a 270c 2728 2729 274c 274d 274e 274f 2753 2756 2757 2758 2795 2798 27b0
    27b1 27bf 27c0 2b1b 2b1d 2b50 2b51 2b55 2b56 1f004 1f005 1f21a 1f21b 1f22f 1f230 1f30d 1f310
    1f315 1f316 1f31c 1f31d 1f378 1f379 1f393 1f394 1f3a7 1f3a8 1f3ac 1f3af 1f3c2 1f3c3 1f3c4 1f3c5
    1f3c6 1f3c7 1f3ca 1f3cb 1f3e0 1f3e1 1f3ed 1f3ee 1f408 1f409 1f415 1f416 1f41f 1f420 1f426 1f427
    1f442 1f443 1f446 1f44a 1f44d 1f44f 1f453 1f454 1f46a 1f46b 1f47d 1f47e 1f4a3 1f4a4 1f4b0 1f4b1
    1f4b3 1f4b4 1f4bb 1f4bc 1f4bf 1f4c0 1f4cb 1f4cc 1f4da 1f4db 1f4df 1f4e0 1f4e4 1f4e7 1f4ea 1f4ee
    1f4f7 1f4f8 1f4f9 1f4fc 1f508 1f509 1f50d 1f50e 1f512 1f514 1f550 1f568 1f610 1f611 1f687 1f688
    1f68d 1f68e 1f691 1f692 1f694 1f695 1f698 1f699 1f6ad 1f6ae 1f6b2 1f6b3 1f6b9 1f6bb 1f6bc 1f6bd"

/-- Whether a selector may ask for a character to be shown as a picture. -/
def hasPictureForm (c : Char) : Bool :=
  (emoji.contains c.toNat && !emojiPresentation.contains c.toNat) || changeable.contains c.toNat

/-- Whether a character takes one column once a selector has asked for text. Ideographs in squares
stay as wide as they are. -/
def hasNarrowForm (c : Char) : Bool :=
  changeable.contains c.toNat && !(0x1f200 ≤ c.toNat && c.toNat < 0x1f300)

def joiner : Char := '\u200d'

def textSelector : Char := '\ufe0e'

def pictureSelector : Char := '\ufe0f'

def isFlagLetter (c : Char) : Bool := 0x1f1e6 ≤ c.toNat && c.toNat ≤ 0x1f1ff

def isSkinTone (c : Char) : Bool := emojiModifier.contains c.toNat

/-- The end of the name of a region behind a black flag. -/
def isTagEnd (c : Char) : Bool := c.toNat = 0xe007f

def isTagLetter (c : Char) : Bool := 0xe0061 ≤ c.toNat && c.toNat ≤ 0xe007a

def isTagDigit (c : Char) : Bool := 0xe0030 ≤ c.toNat && c.toNat ≤ 0xe0039

def isBlackFlag (c : Char) : Bool := c.toNat = 0x1f3f4

/-! ## Ligatures -/

def isLam (c : Char) : Bool :=
  let n := c.toNat
  n == 0x644 || (0x6b5 ≤ n && n ≤ 0x6b8) || n == 0x76a || n == 0x8a6 || n == 0x8c7

def isAlef (c : Char) : Bool :=
  let n := c.toNat
  [0x622, 0x623, 0x625, 0x627, 0x671, 0x672, 0x673, 0x675, 0x773, 0x774].contains n ||
    (0x870 ≤ n && n ≤ 0x882)

/-- Characters of no width that may stand between joined Arabic letters. -/
def isTransparent (c : Char) : Bool :=
  charWidth c == 0 &&
    match category c with
    | .nonspacingMark | .enclosingMark => true
    | .format =>
      !(List.contains
        [0x605, 0x890, 0x891, 0x8e2, 0x180e, 0x200c, 0x200d, 0x2066, 0x2067, 0x2068, 0x2069]
        c.toNat)
    | _ => false

/-- Khmer letters that are written below the consonant before them once a coeng is between. -/
def isSubscriptLetter (c : Char) : Bool :=
  let n := c.toNat
  0x1780 ≤ n && n ≤ 0x17af &&
    !(List.contains [0x1783, 0x1788, 0x178d, 0x1794, 0x1799, 0x179a, 0x179e, 0x179f, 0x17a1, 0x17a3,
      0x17a4, 0x17a5, 0x17a6, 0x17a8, 0x17a9, 0x17aa, 0x17ad, 0x17ae] n)

def isTifinaghConsonant (c : Char) : Bool :=
  let n := c.toNat
  (0x2d31 ≤ n && n ≤ 0x2d65) || n == 0x2d6f

/-- Ignorable characters that a ligature is made across. -/
def passesLigature (c : Char) : Bool :=
  let n := c.toNat
  n == 0x34f || n == 0x17b4 || n == 0x17b5 || (0x180b ≤ n && n ≤ 0x180d) || n == 0x180f ||
    (0xfe00 ≤ n && n ≤ 0xfe0f) || (0xe0100 ≤ n && n ≤ 0xe01ef)

/-- The later part of a ligature. Some need a joiner before them, which may have been read. -/
inductive Ligature where
  | alef
  | lamed (joined : Bool)
  | ya (joined : Bool)
  /-- The Buginese vowel i, a joiner and a ya. -/
  | vowelYa
  | consonant (joined : Bool)
  /-- A Tifinagh consonant behind the mark that joins it. -/
  | markedConsonant
  | tone
  | orkhonI (joined : Bool)
  | subscript
  deriving DecidableEq

namespace Ligature

def join : Ligature → Ligature
  | lamed _ => lamed true
  | ya _ => ya true
  | consonant _ => consonant true
  | orkhonI _ => orkhonI true
  | l => l

end Ligature

/-! ## Contexts -/

/-- How a selector asks for the character before it to be shown. -/
inductive Presentation where
  | text
  | picture
  deriving DecidableEq

/-- What follows a character, as far as it matters to the width. -/
inductive Context where
  | plain
  | asking (p : Presentation)
  | ligature (l : Ligature) (asked : Option Presentation)
  | skinTone
  | flagLetter
  | flagLetters
  | picture
  /-- A joiner and a picture. -/
  | joinedPicture
  /-- A selector for a picture, or for a keycap, that is joined to a picture. -/
  | joinedAsking
  | joinedKeycap
  /-- So many letters of flags, an odd or an even number, that are joined to a picture. -/
  | joinedFlagLetter
  | joinedFlagLetters (even : Bool)
  /-- The end of a region's name that is joined to a picture, with the letters and digits read of
  the name. -/
  | joinedTag (letters digits : Nat)
  | vowelE
  | vowelAi
  deriving DecidableEq

namespace Context

def asksPicture : Context → Bool
  | asking .picture | ligature _ (some .picture) | joinedAsking => true
  | _ => false

def asksText : Context → Bool
  | asking .text | ligature _ (some .text) => true
  | _ => false

/-- What a selector makes of a context. -/
def ask (p : Presentation) : Context → Context
  | ligature l _ => ligature l (some p)
  | joinedPicture | joinedKeycap => if p = .picture then joinedAsking else asking .text
  | _ => asking p

/-- The context of a character that the selector in it does not apply to. -/
def unasked : Context → Context
  | ligature l _ => ligature l none
  | asking _ | joinedAsking => plain
  | k => k

end Context

/-! ## Reading from the end -/

/-- The context that a character makes by itself. -/
def contextOf (c : Char) : Context :=
  if c = '\u05dc' then .ligature (.lamed false) none
  else if isAlef c then .ligature .alef none
  else if isSubscriptLetter c then .ligature .subscript none
  else if c = '\u1a10' then .ligature (.ya false) none
  else if isTifinaghConsonant c then .ligature (.consonant false) none
  else if c = '\ua4fc' || c = '\ua4fd' then .ligature .tone none
  else if c.toNat = 0x10c03 then .ligature (.orkhonI false) none
  else if c = textSelector then .asking .text
  else if c = pictureSelector then .asking .picture
  else if c.toNat = 0x16d67 then .vowelE
  else if c.toNat = 0x16d68 then .vowelAi
  else if isFlagLetter c then .flagLetter
  else if isSkinTone c then .skinTone
  else if emojiPresentation.contains c.toNat then .picture
  else .plain

/-- The columns that a character adds as the earlier part of a ligature. -/
def completes (c : Char) : Ligature → Option (Int × Context)
  | .alef =>
    if isLam c then some (0, .plain)
    else if isTransparent c then some (0, .ligature .alef none)
    else none
  | .lamed true => if c = '\u05d0' then some (0, .plain) else none
  | .subscript => if c = '\u17d2' then some (-1, .plain) else none
  | .ya true => if c = '\u1a17' then some (0, .ligature .vowelYa none) else none
  | .vowelYa => if c = '\u1a15' then some (0, .plain) else none
  | .consonant joined =>
    if c = consonantJoiner then some (1, .ligature .markedConsonant none)
    else if joined && isTifinaghConsonant c then some (0, .plain)
    else none
  | .markedConsonant => if isTifinaghConsonant c then some (-1, .plain) else none
  | .tone => if '\ua4f8' ≤ c && c ≤ '\ua4fb' then some (0, .plain) else none
  | .orkhonI true => if c.toNat = 0x10c32 then some (0, .plain) else none
  | .lamed false | .ya false | .orkhonI false => none

/-- The columns that a character adds to a ligature. All but the one of lam and alef are made across
joiners and ignorable characters. -/
def extendsLigature (c : Char) (l : Ligature) : Option (Int × Context) :=
  if l ≠ .alef && c = joiner then some (0, .ligature l.join none)
  else if l ≠ .alef && passesLigature c then some (0, .ligature l none)
  else completes c l

/-- The columns that a character adds to what follows it where both are shown as one sign. -/
def extendsSign (c : Char) : Context → Option (Int × Context)
  | .ligature l _ => extendsLigature c l
  | .skinTone =>
    if emojiModifierBase.contains c.toNat then some (0, .picture) else joins c
  | .flagLetter => if isFlagLetter c then some (1, .flagLetters) else none
  | .flagLetters => if isFlagLetter c then some (1, .flagLetters) else joins c
  | .picture => joins c
  | .joinedPicture =>
    if c = '\u20e3' then some (0, .joinedKeycap)
    else if isFlagLetter c then some (1, .joinedFlagLetter)
    else if isSkinTone c then some (0, .skinTone)
    else if isTagEnd c then some (0, .joinedTag 0 0)
    else if contextOf c = .picture then some (0, .picture)
    else none
  | .joinedFlagLetter => if isFlagLetter c then some (-1, .joinedFlagLetters true) else none
  | .joinedFlagLetters true =>
    if isFlagLetter c then some (3, .joinedFlagLetters false) else joins c
  | .joinedFlagLetters false =>
    if isFlagLetter c then some (-1, .joinedFlagLetters true) else joins c
  | .joinedTag letters digits =>
    if isTagLetter c && digits = 0 && letters < 6 then some (0, .joinedTag (letters + 1) 0)
    else if isTagDigit c && ((digits = 0 && letters < 5) || digits = 1 || digits = 2) then
      some (0, .joinedTag letters (digits + 1))
    else if isBlackFlag c && ((digits = 0 && 3 ≤ letters) || digits = 3) then some (0, .picture)
    else none
  | .vowelE =>
    if c.toNat = 0x16d63 || c.toNat = 0x16d69 then some (0, .plain)
    else if c.toNat = 0x16d67 then some (0, .vowelAi)
    else if c.toNat = 0x16d68 then some (1, .vowelE)
    else none
  | .vowelAi => if c.toNat = 0x16d63 then some (0, .plain) else none
  | .plain | .asking _ | .joinedAsking | .joinedKeycap => none
where
  joins (c : Char) : Option (Int × Context) :=
    if c = joiner then some (0, .joinedPicture) else none

/-- The columns that a character adds in front of a context, and the context they make together. -/
def widthBefore (c : Char) (k : Context) : Int × Context :=
  if k.asksPicture && hasPictureForm c then (if k = .joinedAsking then 0 else 2, .picture)
  else if c.toNat ≤ 0xa0 then (1, .plain)
  else if c = pictureSelector && k ≠ .plain && k ≠ .asking .picture && k ≠ .joinedAsking then
    (0, k.ask .picture)
  else if c = textSelector && k ≠ .plain && k ≠ .asking .picture && k ≠ .joinedAsking then
    (0, k.ask .text)
  else if k.asksText && hasNarrowForm c then (1, .plain)
  else (extendsSign c k.unasked).getD (charWidth c, contextOf c)

/-- The columns of a text and the context that it makes. -/
def measure : List Char → Int × Context
  | [] => (0, .plain)
  | c :: rest =>
    let (sum, k) := measure rest
    let (n, k) := widthBefore c k
    (n + sum, k)

def width (cs : List Char) : Nat := (measure cs).1.toNat

end Searchlight.Text
