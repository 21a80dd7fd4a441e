/-!
# Blank characters

The characters with the Unicode property White_Space, and what depends on them: trimming, splitting a text into
words, and removing or collapsing the blanks of a text. Every operation is given on character lists and lifted to
strings at the end.
-/

namespace ContractAudit.Text

/-- The property White_Space: 25 characters. -/
def isBlank (c : Char) : Bool :=
  let n := c.toNat
  (0x09 ≤ n && n ≤ 0x0D) || n == 0x20 || n == 0x85 || n == 0xA0 || n == 0x1680 || (0x2000 ≤ n && n ≤ 0x200A) ||
    n == 0x2028 || n == 0x2029 || n == 0x202F || n == 0x205F || n == 0x3000

/-- Blank and below 128: tab, line feed, form feed, carriage return and space. -/
def isAsciiBlank (c : Char) : Bool :=
  c == ' ' || c == '\t' || c == '\n' || c == '\r' || c == '\x0c'

/-! ## Trimming -/

/-- Without the longest tail whose characters satisfy `p`. -/
def dropWhileEnd (p : Char → Bool) (cs : List Char) : List Char :=
  (cs.reverse.dropWhile p).reverse

def trimStartChars (cs : List Char) : List Char := cs.dropWhile isBlank

def trimEndChars (cs : List Char) : List Char := dropWhileEnd isBlank cs

/-- Without the blanks at both ends. -/
def trimChars (cs : List Char) : List Char := trimEndChars (trimStartChars cs)

def trim (s : String) : String := String.ofList (trimChars s.toList)

/-- Empty or made of blanks only. -/
def isBlankText (s : String) : Bool := s.toList.all isBlank

/-! ## Splitting -/

/-- The pieces between the characters that satisfy `p`; always at least one piece. -/
def splitWhere (p : Char → Bool) : List Char → List (List Char)
  | [] => [[]]
  | c :: cs =>
    if p c then [] :: splitWhere p cs
    else match splitWhere p cs with
      | [] => [[c]]
      | piece :: rest => (c :: piece) :: rest

/-- The maximal runs of characters that are not blank. -/
def words (cs : List Char) : List (List Char) := (splitWhere isBlank cs).filter fun w => !w.isEmpty

/-- Strips `mark` from the front if it stands there. -/
def stripFront? : List Char → List Char → Option (List Char)
  | [], cs => some cs
  | _ :: _, [] => none
  | m :: ms, c :: cs => if m == c then stripFront? ms cs else none

/-- Strips `mark` from the front as often as it stands there, at most `fuel` times. -/
def dropFronts (mark : List Char) : Nat → List Char → List Char
  | 0, cs => cs
  | fuel + 1, cs =>
    match stripFront? mark cs with
    | some rest => dropFronts mark fuel rest
    | none => cs

/-- The pieces between the occurrences of a mark, found from left to right. `fuel` bounds the number of steps. -/
def splitMarkAux (mark : List Char) : Nat → List Char → List Char → List (List Char)
  | 0, piece, cs => [piece.reverse ++ cs]
  | _ + 1, piece, [] => [piece.reverse]
  | fuel + 1, piece, c :: cs =>
    match stripFront? mark (c :: cs) with
    | some rest => piece.reverse :: splitMarkAux mark fuel [] rest
    | none => splitMarkAux mark fuel (c :: piece) cs

/-- The pieces of `cs` between the occurrences of the nonempty `mark`. -/
def splitMark (mark cs : List Char) : List (List Char) := splitMarkAux mark (cs.length + 1) [] cs

/-! ## Blanks inside a text -/

/-- All characters that are not blank. -/
def compact (s : String) : String := String.ofList (s.toList.filter fun c => !isBlank c)

/-- The words, one space apart. -/
def collapse (s : String) : String :=
  String.intercalate " " ((words s.toList).map String.ofList)

/-- What stands before and behind the first character that satisfies `p`. -/
def splitFirst? (p : Char → Bool) (cs : List Char) : Option (List Char × List Char) :=
  match cs.dropWhile fun c => !p c with
  | [] => none
  | _ :: rest => some (cs.takeWhile fun c => !p c, rest)

/-- Does `s` end with `tail`? -/
def endsWith (s tail : String) : Bool := tail.toList.isSuffixOf s.toList

/-- Does `s` start with `front`? -/
def startsWith (s front : String) : Bool := front.toList.isPrefixOf s.toList

/-- Does `part` stand somewhere in `cs`? -/
def hasPart (part : List Char) : List Char → Bool
  | [] => part.isEmpty
  | c :: cs => part.isPrefixOf (c :: cs) || hasPart part cs

/-! ## Joining and cutting -/

/-- Lines joined by newlines. -/
def lines (ls : List String) : String := String.intercalate "\n" ls

/-- The first `n` characters. -/
def truncate (n : Nat) (cs : List Char) : String := String.ofList (cs.take n)

/-! ## Letters below 128 -/

def lowerAscii (s : String) : String := String.ofList (s.toList.map Char.toLower)

/-- Equal up to the case of the letters below 128. -/
def eqIgnoreAsciiCase (s t : String) : Bool := lowerAscii s == lowerAscii t

end ContractAudit.Text
