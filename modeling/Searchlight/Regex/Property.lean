import Searchlight.Regex.CharSet
import Searchlight.Text.Age
import Searchlight.Text.Blank
import Searchlight.Text.Break
import Searchlight.Text.Fold
import Searchlight.Text.Letter
import Searchlight.Text.Property
import Searchlight.Text.Quoted
import Searchlight.Text.Script

/-!
# Named sets of characters

The sets that expressions refer to by name: general categories, scripts, ages, breaks and further
properties. Names are compared without regard to case, spaces, hyphens and underscores, and may
begin with "is". Expressions know the characters up to version 16.0 of the standard; to them, later
characters are unassigned.
-/

namespace Searchlight

namespace CharSet

open Text

/-! ## Versions -/

/-- The characters that are too new to be known. -/
def unknown : CharSet := ofRuns ageTable (· == latestVersion)

/-- The characters of a set that are not too new. -/
def known (s : CharSet) : CharSet := s.difference unknown

/-- The last version that is known calls this letter a lowercase letter; it has no case since. -/
def formerLowercase : CharSet := single '\u0295'

/-- The characters of the first versions up to one of a given name, such as "3.0" or "V3_0". -/
def ofAge? (name : List Char) : Option CharSet :=
  let isNamed (version : String) : Bool :=
    name == version.toList || name == 'v' :: version.toList.filter (· ≠ '.')
  (versions.findIdx? isNamed).map fun i =>
    let upTo := versions.take (i + 1)
    ofRuns ageTable upTo.contains

/-! ## Categories -/

/-- The characters of some categories. -/
def ofCategories (cats : List Category) : CharSet :=
  let assigned := known (ofRuns categoryTable fun cat => cats.contains cat)
  let assigned :=
    if cats.contains .lowercaseLetter then assigned.union formerLowercase
    else assigned.difference formerLowercase
  if cats.contains .unassigned then assigned.union unknown else assigned

def ofCategory (cat : Category) : CharSet := ofCategories [cat]

def ofCategoriesWhere (p : Category → Bool) : CharSet :=
  ofCategories ((Category.abbreviations.map (·.2)).filter p)

/-! ## Classes with a letter of their own -/

def digit : CharSet := ofCategory .decimalNumber

def blank : CharSet := ⟨blanks⟩

def alphabetic : CharSet :=
  (ofCategoriesWhere fun cat => cat.isLetter || cat == .letterNumber).union
    (known (ofTable otherAlphabetic))

/-- Characters of words. -/
def word : CharSet :=
  unions [
    alphabetic, ofCategoriesWhere (·.isMark), digit, ofCategory .connectorPunctuation,
    ofTable joinControl]

/-! ## Variants -/

/-- The characters of a set and their case variants. -/
def ignoringCase (s : CharSet) : CharSet :=
  let variants := s.ranges.flatMap fun (first, last) =>
    (variantsTable.within first last).flatMap fun (_, cs) => cs.map Char.toNat
  if variants.isEmpty then s else s.union (ofPoints variants)

/-- The characters of a set and their case variants among the ASCII characters. -/
def ignoringAsciiCase (s : CharSet) : CharSet :=
  s.union ((s.intersection ascii).ignoringCase.intersection ascii)

/-! ## Names -/

/-- The form in which names are compared. The name `isc` is not `c` after "is". -/
def plainName (name : List Char) : List Char :=
  let kept := (name.filter fun c =>
    ascii.contains c && !(c = ' ' || c = '_' || c = '-')).map asciiLower
  match name.map asciiLower with
  | 'i' :: 's' :: _ => if kept = "isc".toList then kept else kept.drop 2
  | _ => kept

/-- Categories and groups of categories, with their names. -/
def categories : List (List String × CharSet) := [
  (["any"], any),
  (["ascii"], ascii),
  (["assigned"], (ofCategory .unassigned).negated),
  (["l", "letter"], ofCategoriesWhere (·.isLetter)),
  (["lc", "casedletter"], ofCategories [.uppercaseLetter, .lowercaseLetter, .titlecaseLetter]),
  (["lu", "uppercaseletter"], ofCategory .uppercaseLetter),
  (["ll", "lowercaseletter"], ofCategory .lowercaseLetter),
  (["lt", "titlecaseletter"], ofCategory .titlecaseLetter),
  (["lm", "modifierletter"], ofCategory .modifierLetter),
  (["lo", "otherletter"], ofCategory .otherLetter),
  (["m", "mark", "combiningmark"], ofCategoriesWhere (·.isMark)),
  (["mn", "nonspacingmark"], ofCategory .nonspacingMark),
  (["mc", "spacingmark"], ofCategory .spacingMark),
  (["me", "enclosingmark"], ofCategory .enclosingMark),
  (["n", "number"], ofCategoriesWhere (·.isNumber)),
  (["nd", "decimalnumber", "digit"], digit),
  (["nl", "letternumber"], ofCategory .letterNumber),
  (["no", "othernumber"], ofCategory .otherNumber),
  (["p", "punctuation", "punct"], ofCategoriesWhere (·.isPunctuation)),
  (["pc", "connectorpunctuation"], ofCategory .connectorPunctuation),
  (["pd", "dashpunctuation"], ofCategory .dashPunctuation),
  (["ps", "openpunctuation"], ofCategory .openPunctuation),
  (["pe", "closepunctuation"], ofCategory .closePunctuation),
  (["pi", "initialpunctuation"], ofCategory .initialPunctuation),
  (["pf", "finalpunctuation"], ofCategory .finalPunctuation),
  (["po", "otherpunctuation"], ofCategory .otherPunctuation),
  (["s", "symbol"], ofCategoriesWhere (·.isSymbol)),
  (["sm", "mathsymbol"], ofCategory .mathSymbol),
  (["sc", "currencysymbol"], ofCategory .currencySymbol),
  (["sk", "modifiersymbol"], ofCategory .modifierSymbol),
  (["so", "othersymbol"], ofCategory .otherSymbol),
  (["z", "separator"], ofCategoriesWhere (·.isSeparator)),
  (["zs", "spaceseparator"], ofCategory .spaceSeparator),
  (["zl", "lineseparator"], ofCategory .lineSeparator),
  (["zp", "paragraphseparator"], ofCategory .paragraphSeparator),
  (["c", "other"], ofCategories [.control, .format, .privateUse, .unassigned]),
  (["cc", "control", "cntrl"], ofCategory .control),
  (["cf", "format"], ofCategory .format),
  (["co", "privateuse"], ofCategory .privateUse),
  (["cn", "unassigned"], ofCategory .unassigned)]

/-! ## Properties -/

def ofKnown (t : Table Unit) : CharSet := known (ofTable t)

def lowercase : CharSet :=
  (ofCategory .lowercaseLetter).union (ofKnown otherLowercase)

def uppercase : CharSet :=
  (ofCategory .uppercaseLetter).union (ofKnown otherUppercase)

def cased : CharSet :=
  unions [lowercase, uppercase, ofCategory .titlecaseLetter]

def caseIgnorable : CharSet :=
  (ofCategories [.nonspacingMark, .enclosingMark, .format, .modifierLetter, .modifierSymbol]).union
    (ofKnown wordPunctuation)

def graphemeExtend : CharSet :=
  (ofCategories [.nonspacingMark, .enclosingMark]).union (ofKnown otherExtending)

def graphemeBase : CharSet :=
  (unions [
    ofCategories [.control, .format, .surrogate, .privateUse, .unassigned, .lineSeparator,
      .paragraphSeparator],
    graphemeExtend]).negated

def identifierStart : CharSet :=
  (ofCategoriesWhere fun cat => cat.isLetter || cat == .letterNumber).symmetricDifference
    (ofKnown identifierStartExceptions)

def identifierContinue : CharSet :=
  unions [
    identifierStart, digit,
    ofCategories [.nonspacingMark, .spacingMark, .connectorPunctuation],
    ofKnown otherIdentifierPart]

/-- The characters that have an entry in a table. -/
def ofEntries {α : Type} (t : Table α) : CharSet :=
  ofPoints (t.entries.toList.map (·.1))

def changesWhenLowercased : CharSet :=
  known (unions [range 'A' 'Z', single '\u0130', ofEntries lowercaseTable])

def changesWhenCasemapped : CharSet :=
  (ofEntries variantsTable).symmetricDifference (ofKnown casemappedExceptions)

def changesWhenUppercased : CharSet :=
  (changesWhenCasemapped.difference changesWhenLowercased).union (ofCategory .titlecaseLetter)

def changesWhenTitlecased : CharSet :=
  changesWhenUppercased.symmetricDifference (ofKnown titlecasedExceptions)

def changesWhenCasefolded : CharSet :=
  changesWhenLowercased.symmetricDifference (ofKnown casefoldedExceptions)

/-- Properties that a character has or has not, with their names. -/
def properties : List (List String × CharSet) := [
  (["alphabetic", "alpha"], alphabetic),
  (["lowercase", "lower"], lowercase),
  (["uppercase", "upper"], uppercase),
  (["whitespace", "wspace", "space"], blank),
  (["cased"], cased),
  (["caseignorable", "ci"], caseIgnorable),
  (["changeswhenlowercased", "cwl"], changesWhenLowercased),
  (["changeswhenuppercased", "cwu"], changesWhenUppercased),
  (["changeswhentitlecased", "cwt"], changesWhenTitlecased),
  (["changeswhencasefolded", "cwcf"], changesWhenCasefolded),
  (["changeswhencasemapped", "cwcm"], changesWhenCasemapped),
  (["idstart", "ids"], identifierStart),
  (["idcontinue", "idc"], identifierContinue),
  (["xidstart", "xids"], identifierStart.difference (ofTable unstableStart)),
  (["xidcontinue", "xidc"], identifierContinue.difference (ofTable unstablePart)),
  (["graphemebase", "grbase"], graphemeBase),
  (["graphemeextend", "grext"], graphemeExtend),
  (["graphemelink", "grlink"], ofKnown graphemeLink),
  (["math"], (ofCategory .mathSymbol).union (ofKnown otherMath)),
  (["dash"], ofKnown dash),
  (["hyphen"], ofKnown hyphen),
  (["diacritic", "dia"], ofKnown diacritic),
  (["extender", "ext"], ofKnown extender),
  (["emoji"], ofKnown emoji),
  (["emojicomponent", "ecomp"], ofKnown emojiComponent),
  (["emojimodifier", "emod"], ofKnown emojiModifier),
  (["emojimodifierbase", "ebase"], ofKnown emojiModifierBase),
  (["emojipresentation", "epres"], ofKnown emojiPresentation),
  (["extendedpictographic", "extpict"], ofTable extendedPictographic),
  (["asciihexdigit", "ahex"], ofKnown asciiHexDigit),
  (["hexdigit", "hex"], ofKnown hexDigit),
  (["ideographic", "ideo"], ofKnown ideographic),
  (["unifiedideograph", "uideo"], ofKnown unifiedIdeograph),
  (["radical"], ofKnown radical),
  (["idsunaryoperator", "idsu"], ofKnown idsUnary),
  (["idsbinaryoperator", "idsb"], ofKnown idsBinary),
  (["idstrinaryoperator", "idst"], ofKnown idsTrinary),
  (["idcompatmathstart"], ofKnown mathStart),
  (["idcompatmathcontinue"], ofKnown mathPart),
  (["quotationmark", "qmark"], ofKnown quotationMark),
  (["sentenceterminal", "sterm"], ofKnown sentenceTerminal),
  (["terminalpunctuation", "term"], ofKnown terminalPunctuation),
  (["softdotted", "sd"], ofKnown softDotted),
  (["variationselector", "vs"], ofKnown variationSelector),
  (["regionalindicator", "ri"], ofKnown regionalIndicator),
  (["noncharactercodepoint", "nchar"], ofKnown noncharacter),
  (["patternsyntax", "patsyn"], ofTable patternSyntax),
  (["patternwhitespace", "patws"], ofKnown patternBlank),
  (["prependedconcatenationmark", "pcm"], ofKnown prependedMark),
  (["modifiercombiningmark", "mcm"], ofKnown modifierMark),
  (["joincontrol", "joinc"], ofKnown joinControl),
  (["bidicontrol", "bidic"], ofKnown bidiControl),
  (["bidimirrored", "bidim"], ofKnown bidiMirrored),
  (["deprecated", "dep"], ofKnown deprecated),
  (["defaultignorablecodepoint", "di"], ofTable defaultIgnorable),
  (["logicalorderexception", "loe"], ofKnown logicalOrderException),
  (["otheralphabetic", "oalpha"], ofKnown otherAlphabetic),
  (["otherlowercase", "olower"], ofKnown otherLowercase),
  (["otheruppercase", "oupper"], ofKnown otherUppercase),
  (["othermath", "omath"], ofKnown otherMath),
  (["othergraphemeextend", "ogrext"], ofKnown otherExtending),
  (["otheridstart", "oids"], ofKnown otherIdentifierStart),
  (["otheridcontinue", "oidc"], ofKnown otherIdentifierContinue),
  (["otherdefaultignorablecodepoint", "odi"], ofTable otherIgnorable)]

def findNamed (sets : List (List String × CharSet)) (name : List Char) : Option CharSet :=
  (sets.find? fun (names, _) => names.contains (String.ofList name)).map (·.2)

/-- The code that is known by itself or by a name. -/
def codeNamed? (names : List (String × String)) (name : List Char) : Option String :=
  (names.find? fun (code, full) =>
    plainName code.toList = name || plainName full.toList = name).map (·.1)

/-- The code of a script, known by its code, its name or an older code. -/
def scriptCode? (name : List Char) : Option String :=
  if name = "qaac".toList then some "Copt"
  else if name = "qaai".toList then some "Zinh"
  else codeNamed? scriptNames name

def script? (name : List Char) : Option CharSet :=
  (scriptCode? name).map fun code => ofRuns scriptTable (· == code)

/-- The characters that are used in a script: its own, unless they are listed with the scripts that
they are used in, and those listed with it. -/
def scriptExtension? (name : List Char) : Option CharSet :=
  (scriptCode? name).map fun code =>
    ((ofRuns scriptTable (· == code)).difference
        (ofRuns scriptExtensionTable fun codes => !codes.isEmpty)).union
      (ofRuns scriptExtensionTable (·.contains code))

/-- The characters with a code, given by name, in a table of breaks. -/
def break? (names : List (String × String)) (t : Table String) (name : List Char) :
    Option CharSet :=
  (codeNamed? names name).map fun code => ofRuns t (· == code)

/-- The set of a name. -/
def named? (name : List Char) : Option CharSet :=
  let name := plainName name
  (findNamed properties name).orElse fun _ =>
    (findNamed categories name).orElse fun _ => script? name

/-- The set of the characters for which a property has a value. -/
def valued? (property value : List Char) : Option CharSet :=
  let value := plainName value
  match String.ofList (plainName property) with
  | "gc" | "generalcategory" => findNamed categories value
  | "sc" | "script" => script? value
  | "scx" | "scriptextensions" => scriptExtension? value
  | "age" => ofAge? value
  | "gcb" | "graphemeclusterbreak" => break? graphemeBreakNames graphemeBreakTable value
  | "wb" | "wordbreak" => break? wordBreakNames wordBreakTable value
  | "sb" | "sentencebreak" => break? sentenceBreakNames sentenceBreakTable value
  | _ => none

/-- Sets of ASCII characters that have a name between brackets. -/
def asciiClass? (name : List Char) : Option CharSet :=
  let lower := range 'a' 'z'
  let upper := range 'A' 'Z'
  let digit := range '0' '9'
  let alnum := union digit (union upper lower)
  match String.ofList name with
  | "alnum" => some alnum
  | "alpha" => some (union upper lower)
  | "ascii" => some ascii
  | "blank" => some (union (single '\t') (single ' '))
  | "cntrl" => some (union (range '\x00' '\x1f') (single '\x7f'))
  | "digit" => some digit
  | "graph" => some (range '!' '~')
  | "lower" => some lower
  | "print" => some (range ' ' '~')
  | "punct" => some (difference (range '!' '~') alnum)
  | "space" => some (union (range '\t' '\r') (single ' '))
  | "upper" => some upper
  | "word" => some (union alnum (single '_'))
  | "xdigit" => some (union digit (union (range 'A' 'F') (range 'a' 'f')))
  | _ => none

end CharSet

end Searchlight
