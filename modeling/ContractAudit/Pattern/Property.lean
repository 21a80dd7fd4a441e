import ContractAudit.Text.Blank
import ContractAudit.Unicode.Property
import ContractAudit.Unicode.Script

/-!
# Named classes of characters

Classes that a pattern refers to by name: those of one letter such as `\d`, those in brackets such as `[:alpha:]`, and
properties such as `\p{Greek}`.
-/

namespace ContractAudit.Pattern

open Unicode (CharSet)

def range (low high : Char) : Nat × Nat := (low.toNat, high.toNat)

def asciiDigits : CharSet := ⟨[range '0' '9']⟩

def asciiBlanks : CharSet := ⟨[(9, 13), (32, 32)]⟩

def asciiWord : CharSet := ⟨[range '0' '9', range 'A' 'Z', range '_' '_', range 'a' 'z']⟩

/-- The class of a letter `d`, `s` or `w`. -/
def letterClass? (unicode : Bool) : Char → Option CharSet
  | 'd' => some (if unicode then Unicode.Category.decimalNumber else asciiDigits)
  | 's' => some (if unicode then Unicode.Category.whiteSpace else asciiBlanks)
  | 'w' => some (if unicode then Unicode.Category.word else asciiWord)
  | _ => none

/-- The classes that are named between `[:` and `:]`. -/
def bracketClass? : String → Option CharSet
  | "alnum" => some ⟨[range '0' '9', range 'A' 'Z', range 'a' 'z']⟩
  | "alpha" => some ⟨[range 'A' 'Z', range 'a' 'z']⟩
  | "ascii" => some ⟨[(0, 127)]⟩
  | "blank" => some ⟨[(9, 9), (32, 32)]⟩
  | "cntrl" => some ⟨[(0, 31), (127, 127)]⟩
  | "digit" => some asciiDigits
  | "graph" => some ⟨[range '!' '~']⟩
  | "lower" => some ⟨[range 'a' 'z']⟩
  | "print" => some ⟨[range ' ' '~']⟩
  | "punct" => some ⟨[range '!' '/', range ':' '@', (0x5B, 0x60), (0x7B, 0x7E)]⟩
  | "space" => some asciiBlanks
  | "upper" => some ⟨[range 'A' 'Z']⟩
  | "word" => some asciiWord
  | "xdigit" => some ⟨[range '0' '9', range 'A' 'F', range 'a' 'f']⟩
  | _ => none

/-! ## Properties -/

/-- Names are compared without case, blanks, dashes and underscores, and without a leading `is`. -/
def normalName (name : String) : String :=
  let cs := (name.toList.map Char.toLower).filter fun c => c.toNat < 0x80 && c != ' ' && c != '_' && c != '-'
  match cs with
  | ['i', 's', 'c'] => "isc"
  | 'i' :: 's' :: rest => String.ofList rest
  | _ => String.ofList cs

open Unicode.Category in
/-- General categories by their short and long names. -/
def category? : String → Option CharSet
  | "any" => some CharSet.all
  | "ascii" => some ⟨[(0, 127)]⟩
  | "assigned" => some assigned
  | "l" | "letter" => some letter
  | "lc" | "casedletter" => some casedLetter
  | "lu" | "uppercaseletter" => some uppercaseLetter
  | "ll" | "lowercaseletter" => some lowercaseLetter
  | "lt" | "titlecaseletter" => some titlecaseLetter
  | "lm" | "modifierletter" => some modifierLetter
  | "lo" | "otherletter" => some otherLetter
  | "m" | "mark" | "combiningmark" => some mark
  | "mn" | "nonspacingmark" => some nonspacingMark
  | "mc" | "spacingmark" => some spacingMark
  | "me" | "enclosingmark" => some enclosingMark
  | "n" | "number" => some number
  | "nd" | "decimalnumber" | "digit" => some decimalNumber
  | "nl" | "letternumber" => some letterNumber
  | "no" | "othernumber" => some otherNumber
  | "p" | "punctuation" | "punct" => some punctuation
  | "pc" | "connectorpunctuation" => some connectorPunctuation
  | "pd" | "dashpunctuation" => some dashPunctuation
  | "ps" | "openpunctuation" => some openPunctuation
  | "pe" | "closepunctuation" => some closePunctuation
  | "pi" | "initialpunctuation" => some initialPunctuation
  | "pf" | "finalpunctuation" => some finalPunctuation
  | "po" | "otherpunctuation" => some otherPunctuation
  | "s" | "symbol" => some symbol
  | "sm" | "mathsymbol" => some mathSymbol
  | "sc" | "currencysymbol" => some currencySymbol
  | "sk" | "modifiersymbol" => some modifierSymbol
  | "so" | "othersymbol" => some otherSymbol
  | "z" | "separator" => some separator
  | "zs" | "spaceseparator" => some spaceSeparator
  | "zl" | "lineseparator" => some lineSeparator
  | "zp" | "paragraphseparator" => some paragraphSeparator
  | "c" | "other" => some other
  | "cc" | "control" | "cntrl" => some control
  | "cf" | "format" => some format
  | "co" | "privateuse" => some privateUse
  | "cn" | "unassigned" => some unassigned
  | _ => none

open Unicode.Category Unicode.Property in
/-- Properties that are no category, by their short and long names. -/
def binaryProperty? : String → Option CharSet
  | "alphabetic" | "alpha" => some alphabetic
  | "asciihexdigit" | "ahex" => some asciiHexDigit
  | "bidicontrol" | "bidic" => some bidiControl
  | "bidimirrored" | "bidim" => some bidiMirrored
  | "caseignorable" | "ci" => some caseIgnorable
  | "cased" => some cased
  | "changeswhencasefolded" | "cwcf" => some changesWhenCasefolded
  | "changeswhencasemapped" | "cwcm" => some changesWhenCasemapped
  | "changeswhenlowercased" | "cwl" => some changesWhenLowercased
  | "changeswhentitlecased" | "cwt" => some changesWhenTitlecased
  | "changeswhenuppercased" | "cwu" => some changesWhenUppercased
  | "dash" => some dash
  | "defaultignorablecodepoint" | "di" => some defaultIgnorable
  | "deprecated" | "dep" => some deprecated
  | "diacritic" | "dia" => some diacritic
  | "emoji" => some emoji
  | "emojicomponent" | "ecomp" => some emojiComponent
  | "emojimodifier" | "emod" => some emojiModifier
  | "emojimodifierbase" | "ebase" => some emojiModifierBase
  | "emojipresentation" | "epres" => some emojiPresentation
  | "extendedpictographic" | "extpict" => some extendedPictographic
  | "extender" | "ext" => some extender
  | "graphemebase" | "grbase" => some graphemeBase
  | "graphemeextend" | "grext" => some graphemeExtend
  | "hexdigit" | "hex" => some hexDigit
  | "idsbinaryoperator" | "idsb" => some binaryIdeographOperator
  | "idstrinaryoperator" | "idst" => some trinaryIdeographOperator
  | "idcontinue" | "idc" => some idContinue
  | "idstart" | "ids" => some idStart
  | "ideographic" | "ideo" => some ideographic
  | "joincontrol" | "joinc" => some joinControl
  | "logicalorderexception" | "loe" => some logicalOrderException
  | "lowercase" | "lower" => some lowercase
  | "math" => some math
  | "noncharactercodepoint" | "nchar" => some noncharacter
  | "otheralphabetic" | "oalpha" => some otherAlphabetic
  | "othergraphemeextend" | "ogrext" => some otherGraphemeExtend
  | "otheridcontinue" | "oidc" => some otherIdContinue
  | "otheridstart" | "oids" => some otherIdStart
  | "otherlowercase" | "olower" => some otherLowercase
  | "othermath" | "omath" => some otherMath
  | "otheruppercase" | "oupper" => some otherUppercase
  | "patternsyntax" | "patsyn" => some patternSyntax
  | "patternwhitespace" | "patws" => some patternWhiteSpace
  | "quotationmark" | "qmark" => some quotationMark
  | "radical" => some radical
  | "regionalindicator" | "ri" => some regionalIndicator
  | "sentenceterminal" | "sterm" => some sentenceTerminal
  | "softdotted" | "sd" => some softDotted
  | "terminalpunctuation" | "term" => some terminalPunctuation
  | "unifiedideograph" | "uideo" => some unifiedIdeograph
  | "uppercase" | "upper" => some uppercase
  | "variationselector" | "vs" => some variationSelector
  | "whitespace" | "wspace" | "space" => some whiteSpace
  | "xidcontinue" | "xidc" => some xidContinue
  | "xidstart" | "xids" => some xidStart
  | _ => none

/-- The class of a single name. -/
def namedProperty? (name : String) : Option CharSet :=
  let n := normalName name
  (binaryProperty? n).or ((category? n).or (Unicode.script? n))

/-- The class of a property with a value. -/
def valuedProperty? (name value : String) : Option CharSet :=
  let v := normalName value
  match normalName name with
  | "gc" | "generalcategory" => category? v
  | "sc" | "script" => Unicode.script? v
  | "scx" | "scriptextensions" => Unicode.scriptExtensions? v
  | _ => none

/-- Splits at the first occurrence of a mark. -/
def splitOnce? (mark : String) (cs : List Char) : Option (String × String) :=
  match Text.splitMark mark.toList cs with
  | first :: second :: rest =>
    some (String.ofList first, String.ofList (mark.toList.intercalate (second :: rest)))
  | _ => none

/-- The class of the text between the braces of `\p`, which may be a name, `name=value` or `name!=value`. -/
def property? (cs : List Char) : Option CharSet :=
  match splitOnce? "!=" cs with
  | some (name, value) => (valuedProperty? name value).map (·.complement)
  | none =>
    match (splitOnce? ":" cs).or (splitOnce? "=" cs) with
    | some (name, value) => valuedProperty? name value
    | none => namedProperty? (String.ofList cs)

end ContractAudit.Pattern
