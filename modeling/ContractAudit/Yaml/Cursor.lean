import ContractAudit.Text.Blank

/-!
# Places in a YAML text

A cursor is the text that remains, and where it begins. Indentation is the column of a cursor.
-/

namespace ContractAudit.Yaml

structure Cursor where
  rest : List Char
  line : Nat
  column : Nat
  /-- Number of characters before this place. -/
  offset : Nat
  /-- May a mapping or a sequence begin here without a bracket? -/
  open? : Bool

/-- One kind of line end. -/
def unifyLineEnds : List Char → List Char
  | '\r' :: '\n' :: cs => '\n' :: unifyLineEnds cs
  | '\r' :: cs => '\n' :: unifyLineEnds cs
  | c :: cs => c :: unifyLineEnds cs
  | [] => []

def isGap (c : Char) : Bool := c == ' ' || c == '\t'

namespace Cursor

/-- The start of a text; a byte order mark is passed over. -/
def ofText (text : String) : Cursor :=
  let cs := unifyLineEnds text.toList
  ⟨if cs.head? == some (Char.ofNat 0xFEFF) then cs.tail else cs, 0, 0, 0, true⟩

def next (c : Cursor) : Cursor :=
  match c.rest with
  | [] => c
  | '\n' :: cs => ⟨cs, c.line + 1, 0, c.offset + 1, c.open?⟩
  | _ :: cs => ⟨cs, c.line, c.column + 1, c.offset + 1, c.open?⟩

def drop : Nat → Cursor → Cursor
  | 0, c => c
  | n + 1, c => drop n c.next

/-- Passes over the characters at the front of the rest that have a property. -/
def passWhile (p : Char → Bool) (c : Cursor) : Cursor := c.drop (c.rest.takeWhile p).length

def closed (c : Cursor) : Cursor := { c with open? := false }

def opened (c : Cursor) : Cursor := { c with open? := true }

def head? (c : Cursor) : Option Char := c.rest.head?

def atEnd (c : Cursor) : Bool := c.rest.isEmpty

/-- Is there a blank, a line end or the end of the text, some characters further on? -/
def gapAt (c : Cursor) (n : Nat) : Bool :=
  match c.rest[n]? with
  | none => true
  | some d => isGap d || d == '\n'

/-- An indicator: a character followed by a gap. -/
def atMark (c : Cursor) (mark : Char) : Bool := c.head? == some mark && c.gapAt 1

/-- Three dashes or dots in a line of their own begin or end a document. -/
def atMarker (c : Cursor) (mark : Char) : Bool :=
  c.column == 0 && (List.replicate 3 mark).isPrefixOf c.rest && c.gapAt 3

def atBoundary (c : Cursor) : Bool := c.atMarker '-' || c.atMarker '.'

/-- Is there nothing more in the line but a comment? -/
def atLineEnd (c : Cursor) : Bool := c.atEnd || c.head? == some '\n' || c.head? == some '#'

/-- Passes over blanks, comments and line ends. In brackets, and behind a token, tabs are blanks too; behind a line end
a collection may begin, unless it is within brackets. -/
def skipFrom (inBrackets : Bool) : Nat → Cursor → Cursor
  | 0, c => c
  | fuel + 1, c =>
    match c.head? with
    | some ' ' => skipFrom inBrackets fuel c.next
    | some '\t' => if inBrackets || !c.open? then skipFrom inBrackets fuel c.next else c
    | some '#' => skipFrom inBrackets fuel (c.passWhile (· != '\n'))
    | some '\n' => skipFrom inBrackets fuel { c.next with open? := c.open? || !inBrackets }
    | _ => c

def skip (inBrackets : Bool) (c : Cursor) : Cursor := skipFrom inBrackets (c.rest.length + 1) c

end Cursor

end ContractAudit.Yaml
