import ModuleBundler.Text.Unicode.Ages
import ModuleBundler.Text.Unicode.Breaks
import ModuleBundler.Text.Unicode.Categories
import ModuleBundler.Text.Unicode.Properties
import ModuleBundler.Text.Unicode.ScriptExtensions
import ModuleBundler.Text.Unicode.Scripts

/-!
Properties of characters by name. A property is the set of characters that have it. Names are
compared without regard to case, blanks, hyphens, underscores and a leading `is`; most properties
have a short name and a long one.

A property that follows from others is put together from them, as Unicode defines it.
-/

set_option autoImplicit false

namespace ModuleBundler.Text.Property

open CharSet

/-! ## Names -/

/-- A name without what its spelling leaves open. What is not ASCII does not count. -/
def plainName (name : List Char) : String :=
  let kept (name : List Char) : List Char :=
    (name.filter fun c => c.toNat < 0x80 && !" -_".toList.contains c).map Char.toLower
  match name with
  | i :: s :: rest =>
    if i.toLower = 'i' && s.toLower = 's' then
      if kept rest = ['c'] then "isc" else String.ofList (kept rest)
    else String.ofList (kept name)
  | name => String.ofList (kept name)

/-! ## General categories -/

def casedLetters : CharSet := unions [uppercaseLetters, lowercaseLetters, titlecaseLetters]

def letters : CharSet := unions [casedLetters, modifierLetters, otherLetters]

def marks : CharSet := unions [nonspacingMarks, spacingMarks, enclosingMarks]

def numbers : CharSet := unions [decimalNumbers, letterNumbers, otherNumbers]

def punctuation : CharSet :=
  unions [connectors, dashes, openingPunctuation, closingPunctuation, initialQuotes, finalQuotes,
    otherPunctuation]

def symbols : CharSet := unions [mathSymbols, currencySymbols, modifierSymbols, otherSymbols]

def separators : CharSet := unions [blanks, lineSeparators, paragraphSeparators]

def assigned : CharSet :=
  unions [letters, marks, numbers, punctuation, symbols, separators, controls, formats, privateUse]

/-- The characters of a general category. -/
def category? (name : String) : Option CharSet :=
  match name with
  | "any" => some (range 0 0x10FFFF)
  | "assigned" => some assigned
  | "ascii" => some (range 0 0x7F)
  | "l" | "letter" => some letters
  | "lc" | "casedletter" => some casedLetters
  | "lu" | "uppercaseletter" => some uppercaseLetters
  | "ll" | "lowercaseletter" => some lowercaseLetters
  | "lt" | "titlecaseletter" => some titlecaseLetters
  | "lm" | "modifierletter" => some modifierLetters
  | "lo" | "otherletter" => some otherLetters
  | "m" | "mark" | "combiningmark" => some marks
  | "mn" | "nonspacingmark" => some nonspacingMarks
  | "mc" | "spacingmark" => some spacingMarks
  | "me" | "enclosingmark" => some enclosingMarks
  | "n" | "number" => some numbers
  | "nd" | "decimalnumber" | "digit" => some decimalNumbers
  | "nl" | "letternumber" => some letterNumbers
  | "no" | "othernumber" => some otherNumbers
  | "p" | "punctuation" | "punct" => some punctuation
  | "pc" | "connectorpunctuation" => some connectors
  | "pd" | "dashpunctuation" => some dashes
  | "ps" | "openpunctuation" => some openingPunctuation
  | "pe" | "closepunctuation" => some closingPunctuation
  | "pi" | "initialpunctuation" => some initialQuotes
  | "pf" | "finalpunctuation" => some finalQuotes
  | "po" | "otherpunctuation" => some otherPunctuation
  | "s" | "symbol" => some symbols
  | "sm" | "mathsymbol" => some mathSymbols
  | "sc" | "currencysymbol" => some currencySymbols
  | "sk" | "modifiersymbol" => some modifierSymbols
  | "so" | "othersymbol" => some otherSymbols
  | "z" | "separator" => some separators
  | "zs" | "spaceseparator" => some blanks
  | "zl" | "lineseparator" => some lineSeparators
  | "zp" | "paragraphseparator" => some paragraphSeparators
  | "c" | "other" => some (unions [controls, formats, privateUse, unassigned])
  | "cc" | "control" | "cntrl" => some controls
  | "cf" | "format" => some formats
  | "co" | "privateuse" => some privateUse
  | "cn" | "unassigned" => some unassigned
  | _ => none

/-! ## Properties that characters have or have not -/

def lowercase : CharSet := unions [lowercaseLetters, otherLowercase]

def uppercase : CharSet := unions [uppercaseLetters, otherUppercase]

def alphabetic : CharSet :=
  unions [lowercase, uppercase, titlecaseLetters, modifierLetters, otherLetters, letterNumbers,
    otherAlphabetic]

def graphemeExtend : CharSet := unions [nonspacingMarks, enclosingMarks, otherGraphemeExtend]

def graphemeBase : CharSet :=
  (unions [letters, spacingMarks, numbers, punctuation, symbols, blanks]).minus otherGraphemeExtend

def idStart : CharSet :=
  (unions [letters, letterNumbers, otherIdStart]).minus patternSyntax

def idContinue : CharSet :=
  unions [idStart, nonspacingMarks, spacingMarks, decimalNumbers, connectors, otherIdContinue]

def changesWhenLowercased : CharSet :=
  (unions [uppercase, titlecaseLetters]).minus unchangedByLowering

def changesWhenUppercased : CharSet :=
  (unions [lowercase, titlecaseLetters]).minus unchangedByRaising

def changesWhenTitlecased : CharSet :=
  unions [changesWhenUppercased.minus unchangedByTitling, changedByTitlingAlone]

def changesWhenCasefolded : CharSet :=
  unions [changesWhenLowercased.minus unchangedByFolding, changedByFoldingAlone]

/-- The characters that words are made of. -/
def words : CharSet := unions [alphabetic, marks, decimalNumbers, connectors, joinControls]

/-- The characters that have a property, by its name. -/
def binary? (name : String) : Option CharSet :=
  match name with
  | "ahex" | "asciihexdigit" => some asciiHexDigits
  | "alpha" | "alphabetic" => some alphabetic
  | "bidic" | "bidicontrol" => some bidiControls
  | "ci" | "caseignorable" =>
    some (unions [nonspacingMarks, enclosingMarks, formats, modifierLetters, modifierSymbols,
      otherCaseIgnorable])
  | "cased" => some (unions [lowercase, uppercase, titlecaseLetters])
  | "cwcf" | "changeswhencasefolded" => some changesWhenCasefolded
  | "cwcm" | "changeswhencasemapped" =>
    some (unions [changesWhenLowercased, changesWhenUppercased, changesWhenTitlecased])
  | "cwl" | "changeswhenlowercased" => some changesWhenLowercased
  | "cwt" | "changeswhentitlecased" => some changesWhenTitlecased
  | "cwu" | "changeswhenuppercased" => some changesWhenUppercased
  | "dash" => some dashCharacters
  | "di" | "defaultignorablecodepoint" => some defaultIgnorable
  | "dep" | "deprecated" => some deprecated
  | "dia" | "diacritic" => some diacritics
  | "emoji" => some emoji
  | "ecomp" | "emojicomponent" => some emojiComponents
  | "emod" | "emojimodifier" => some emojiModifiers
  | "ebase" | "emojimodifierbase" => some emojiModifierBases
  | "epres" | "emojipresentation" => some emojiPresentation
  | "extpict" | "extendedpictographic" => some extendedPictographic
  | "ext" | "extender" => some extenders
  | "grbase" | "graphemebase" => some graphemeBase
  | "grext" | "graphemeextend" => some graphemeExtend
  | "grlink" | "graphemelink" => some graphemeLinks
  | "hex" | "hexdigit" => some hexDigits
  | "hyphen" => some hyphens
  | "idsb" | "idsbinaryoperator" => some idsBinaryOperators
  | "idst" | "idstrinaryoperator" => some idsTrinaryOperators
  | "idsu" | "idsunaryoperator" => some idsUnaryOperators
  | "idcompatmathstart" => some mathNameStarts
  | "idcompatmathcontinue" => some mathNameContinues
  | "ids" | "idstart" => some idStart
  | "idc" | "idcontinue" => some idContinue
  | "ideo" | "ideographic" => some ideographic
  | "joinc" | "joincontrol" => some joinControls
  | "loe" | "logicalorderexception" => some logicalOrderExceptions
  | "lower" | "lowercase" => some lowercase
  | "math" => some (unions [mathSymbols, otherMath])
  | "mcm" | "modifiercombiningmark" => some modifierCombiningMarks
  | "nchar" | "noncharactercodepoint" => some noncharacters
  | "oalpha" | "otheralphabetic" => some otherAlphabetic
  | "odi" | "otherdefaultignorablecodepoint" => some otherIgnorable
  | "ogrext" | "othergraphemeextend" => some otherGraphemeExtend
  | "oids" | "otheridstart" => some otherIdStart
  | "oidc" | "otheridcontinue" => some otherIdContinue
  | "olower" | "otherlowercase" => some otherLowercase
  | "omath" | "othermath" => some otherMath
  | "oupper" | "otheruppercase" => some otherUppercase
  | "patsyn" | "patternsyntax" => some patternSyntax
  | "patws" | "patternwhitespace" => some patternWhiteSpace
  | "pcm" | "prependedconcatenationmark" => some prependedConcatenationMarks
  | "qmark" | "quotationmark" => some quotationMarks
  | "radical" => some radicals
  | "ri" | "regionalindicator" => some regionalIndicators
  | "sd" | "softdotted" => some softDotted
  | "sterm" | "sentenceterminal" => some sentenceTerminals
  | "term" | "terminalpunctuation" => some terminalPunctuation
  | "uideo" | "unifiedideograph" => some unifiedIdeographs
  | "upper" | "uppercase" => some uppercase
  | "vs" | "variationselector" => some variationSelectors
  | "wspace" | "space" | "whitespace" => some whiteSpace
  | "xids" | "xidstart" => some (idStart.minus unstableIdStart)
  | "xidc" | "xidcontinue" => some (idContinue.minus unstableIdContinue)
  | _ => none

/-! ## Scripts and versions -/

/-- The characters that belong to a script. -/
def script? (name : String) : Option CharSet := NamedSet.find? scripts name

/-- The characters that a script uses. -/
def scriptExtension? (name : String) : Option CharSet :=
  (NamedSet.find? scriptExtensions name).or (script? name)

/-- The characters that a version of Unicode has, those of earlier ones included. -/
def age? (name : String) : Option CharSet :=
  let earlier := ages.takeWhile (!·.names.contains name)
  match ages.drop earlier.length with
  | version :: _ => some (unions ((version :: earlier).map (·.set)))
  | [] => none

/-! ## Breaks -/

/-- The first code point of the syllables of Hangul. -/
def hangulStart : Nat := 0xAC00

/-- How many syllables begin with the same consonant and vowel. -/
def hangulPeriod : Nat := 28

/-- How many different beginnings the syllables of Hangul have. -/
def hangulBeginnings : Nat := 399

/-- The syllables of Hangul that a consonant does not close. -/
def hangulOpen : CharSet :=
  ⟨(List.range hangulBeginnings).map fun i =>
    (hangulStart + hangulPeriod * i, hangulStart + hangulPeriod * i + 1)⟩

/-- The other syllables of Hangul. -/
def hangulClosed : CharSet :=
  ⟨(List.range hangulBeginnings).map fun i =>
    (hangulStart + hangulPeriod * i + 1, hangulStart + hangulPeriod * (i + 1))⟩

/-- The characters of a kind, as far as breaks between graphemes go. -/
def graphemeBreak? (name : String) : Option CharSet :=
  let extend := unions [graphemeExtend, emojiModifiers]
  match name with
  | "cr" => some (range 0x0D 0x0D)
  | "lf" => some (range 0x0A 0x0A)
  | "cn" | "control" => some graphemeControls
  | "ex" | "extend" => some extend
  | "l" => some hangulLeading
  | "v" => some hangulVowels
  | "t" => some hangulTrailing
  | "lv" => some hangulOpen
  | "lvt" => some hangulClosed
  | "pp" | "prepend" => some graphemePrepends
  | "ri" | "regionalindicator" => some regionalIndicators
  | "sm" | "spacingmark" =>
    some (unions [(spacingMarks.minus extend).minus spacingMarksOutside, range 0xE33 0xE33,
      range 0xEB3 0xEB3])
  | "zwj" => some (range 0x200D 0x200D)
  | _ => none

/-- The characters of a kind, as far as breaks between words go. -/
def wordBreak? (name : String) : Option CharSet :=
  match name with
  | "cr" => some (range 0x0D 0x0D)
  | "lf" => some (range 0x0A 0x0A)
  | "nl" | "newline" => some wordNewlines
  | "extend" => some (unions [graphemeExtend, spacingMarks, emojiModifiers])
  | "fo" | "format" => some wordFormats
  | "ka" | "katakana" => some katakanaWords
  | "hl" | "hebrewletter" => some hebrewLetters
  | "le" | "aletter" => some wordLetters
  | "sq" | "singlequote" => some (range 0x27 0x27)
  | "dq" | "doublequote" => some (range 0x22 0x22)
  | "mb" | "midnumlet" => some midLettersAndNumbers
  | "ml" | "midletter" => some midLetters
  | "mn" | "midnum" => some midNumbers
  | "nu" | "numeric" => some (unions [decimalNumbers, wordNumerics])
  | "ex" | "extendnumlet" => some wordConnectors
  | "ri" | "regionalindicator" => some regionalIndicators
  | "wsegspace" => some wordBlanks
  | "zwj" => some (range 0x200D 0x200D)
  | _ => none

/-- The characters of a kind, as far as breaks between sentences go. -/
def sentenceBreak? (name : String) : Option CharSet :=
  let extend := unions [graphemeExtend, spacingMarks, range 0x200D 0x200D]
  match name with
  | "cr" => some (range 0x0D 0x0D)
  | "lf" => some (range 0x0A 0x0A)
  | "ex" | "extend" => some extend
  | "se" | "sep" => some sentenceSeparators
  | "fo" | "format" => some sentenceFormats
  | "sp" => some sentenceBlanks
  | "lo" | "lower" => some ((lowercase.minus extend).minus sentenceCased)
  | "up" | "upper" => some ((unions [uppercase, titlecaseLetters]).minus sentenceCased)
  | "le" | "oletter" =>
    let cased := (unions [lowercase, uppercase, titlecaseLetters]).minus sentenceCased
    some (unions [(alphabetic.minus extend).minus cased, range 0x5F3 0x5F3])
  | "nu" | "numeric" => some (unions [decimalNumbers, sentenceNumerics])
  | "at" | "aterm" => some sentencePoints
  | "sc" | "scontinue" => some sentenceContinues
  | "st" | "sterm" => some sentenceEnds
  | "cl" | "close" => some sentenceCloses
  | _ => none

/-! ## All properties -/

/-- The characters of a property that is named alone. -/
def ofName? (name : List Char) : Option CharSet :=
  let name := plainName name
  (binary? name).or ((category? name).or (script? name))

/-- The characters that have a value of a property. -/
def ofValue? (property value : List Char) : Option CharSet :=
  let value := plainName value
  match plainName property with
  | "gc" | "generalcategory" => category? value
  | "sc" | "script" => script? value
  | "scx" | "scriptextensions" => scriptExtension? value
  | "age" => age? value
  | "gcb" | "graphemeclusterbreak" => graphemeBreak? value
  | "wb" | "wordbreak" => wordBreak? value
  | "sb" | "sentencebreak" => sentenceBreak? value
  | _ => none

end ModuleBundler.Text.Property
