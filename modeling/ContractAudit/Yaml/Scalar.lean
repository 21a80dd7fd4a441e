import ContractAudit.Json.Reader
import ContractAudit.Yaml.Cursor

/-!
# YAML scalars

Texts without quotes, in quotes, and in blocks. A single line end within a text counts as a blank, of several the first
does not count; blanks around them never count.
-/

namespace ContractAudit.Yaml

/-- What blanks and line ends between two parts of a text stand for. -/
def foldGap (gap : List Char) : List Char :=
  match gap.count '\n' with
  | 0 => gap
  | 1 => [' ']
  | n + 1 => List.replicate n '\n'

def isGapOrEnd (c : Char) : Bool := isGap c || c == '\n'

/-- Passes over blanks and line ends; a tab may not take the place of indentation. -/
def passGap? (indent : Int) : Nat → Bool → Cursor → Option Cursor
  | 0, _, c => some c
  | fuel + 1, newLine, c =>
    match c.head? with
    | some ' ' => passGap? indent fuel newLine c.next
    | some '\t' => if newLine && (c.column : Int) < indent then none else passGap? indent fuel newLine c.next
    | some '\n' => passGap? indent fuel true c.next
    | _ => some c

/-! ## Plain scalars -/

def isBracketPart (c : Char) : Bool := c == ',' || c == '[' || c == ']' || c == '\x7b' || c == '\x7d'

/-- Does a plain scalar end before this place? -/
def endsPlain (inBrackets : Bool) (c : Cursor) : Bool :=
  c.gapAt 0 || c.atMark ':' || (inBrackets && (c.head?.map isBracketPart).getD false)

/-- A colon in brackets directly before a comma, a question mark or a bracket. -/
def isBadColon (inBrackets : Bool) (c : Cursor) : Bool :=
  inBrackets && c.head? == some ':' && ((c.rest[1]?.map fun d => d == '?' || isBracketPart d).getD false)

/-- The characters up to the next gap or end of the scalar. -/
def plainPart? (inBrackets : Bool) : Nat → Cursor → Option (List Char × Cursor)
  | 0, c => some ([], c)
  | fuel + 1, c =>
    if isBadColon inBrackets c then none
    else if endsPlain inBrackets c then some ([], c)
    else (plainPart? inBrackets fuel c.next).map fun (cs, d) => (c.head?.toList ++ cs, d)

/-- The rest of a plain scalar, with what is put in front of it. A line that continues it is indented further than
`indent - 1`, unless it is in brackets. The cursor is moved up to the next token. -/
def plainFrom? (inBrackets : Bool) (indent : Int) : Nat → List Char → Cursor → Option (List Char × Cursor)
  | 0, _, c => some ([], c)
  | fuel + 1, gap, c =>
    if c.atBoundary || c.head? == some '#' then some ([], c)
    else do
      let (part, after) ← plainPart? inBrackets (c.rest.length + 1) c
      if part.isEmpty then return ([], c)
      let front := foldGap gap ++ part
      let further ← passGap? indent (after.rest.length + 1) false after
      let between := after.rest.take (further.offset - after.offset)
      let further := { further with open? := between.contains '\n' }
      if between.isEmpty || (!inBrackets && (further.column : Int) < indent) then return (front, further)
      let (rest, last) ← plainFrom? inBrackets indent fuel between further
      return (front ++ rest, last)

def plain? (inBrackets : Bool) (indent : Int) (c : Cursor) : Option (String × Cursor) :=
  (plainFrom? inBrackets indent (c.rest.length + 1) [] c.closed).map fun (cs, d) => (String.ofList cs, d)

/-- The characters that a plain scalar does not begin with. -/
def indicators : List Char := "-?:,[]\x7b\x7d#&*!|>'\"%@".toList ++ [Char.ofNat 0x60]

def startsPlain (inBrackets : Bool) (c : Cursor) : Bool :=
  match c.head? with
  | none => false
  | some d =>
    if !indicators.contains d then !isGapOrEnd d
    else if d == '-' then !c.gapAt 1
    else (d == '?' || d == ':') && !inBrackets && !c.gapAt 1

/-! ## Quoted scalars -/

/-- Single characters behind a backslash. -/
def escapes : List (Char × Nat) :=
  [('0', 0), ('a', 7), ('b', 8), ('t', 9), ('\t', 9), ('n', 10), ('v', 11), ('f', 12), ('r', 13), ('e', 27), (' ', 32),
    ('"', 34), ('/', 47), ('\\', 92), ('N', 0x85), ('_', 0xA0), ('L', 0x2028), ('P', 0x2029)]

/-- The number of hexadecimal digits behind a letter. -/
def codeLength? : Char → Option Nat
  | 'x' => some 2
  | 'u' => some 4
  | 'U' => some 8
  | _ => none

/-- The value of hexadecimal digits. -/
def hexDigits? (cs : List Char) : Option Nat :=
  cs.foldlM (fun n c => (Json.hexDigit? c).map (16 * n + ·)) 0

/-- The character of a code that is one. -/
def charOfCode? (n : Nat) : Option Char := if n.isValidChar then some (Char.ofNat n) else none

/-- The character behind a backslash, and where it ends. -/
def escape? (c : Cursor) : Option (Char × Cursor) :=
  c.head?.bind fun d =>
    match codeLength? d with
    | some n => do
      let digits := c.next.rest.take n
      if digits.length < n then none
      let char ← (hexDigits? digits).bind charOfCode?
      return (char, c.next.drop n)
    | none => (escapes.lookup d).map fun n => (Char.ofNat n, c.next)

/-- The rest of a quoted scalar. Two single quotes are one; a backslash counts between double quotes, where at the end
of a line it takes the line end away. -/
def quotedFrom? (mark : Char) : Nat → Cursor → Option (List Char × Cursor)
  | 0, _ => none
  | fuel + 1, c =>
    if c.atBoundary then none
    else match c.head? with
      | none => none
      | some d =>
        if d == mark then
          if mark == '\'' && c.rest[1]? == some '\'' then
            (quotedFrom? mark fuel (c.drop 2)).map fun (cs, last) => ('\'' :: cs, last)
          else some ([], c.next)
        else if d == '\\' && mark == '"' then
          if c.rest[1]? == some '\n' then
            let after := (c.drop 2).passWhile isGapOrEnd
            let ends := ((c.drop 2).rest.take (after.offset - (c.drop 2).offset)).count '\n'
            (quotedFrom? mark fuel after).map fun (cs, last) => (List.replicate ends '\n' ++ cs, last)
          else (escape? c.next).bind fun (char, after) =>
            (quotedFrom? mark fuel after).map fun (cs, last) => (char :: cs, last)
        else if isGapOrEnd d then
          let after := c.passWhile isGapOrEnd
          let gap := c.rest.take (after.offset - c.offset)
          (quotedFrom? mark fuel after).map fun (cs, last) => (foldGap gap ++ cs, last)
        else (quotedFrom? mark fuel c.next).map fun (cs, last) => (d :: cs, last)

/-- The quoted scalar whose opening quote is at the cursor. -/
def quoted? (mark : Char) (c : Cursor) : Option (String × Cursor) :=
  (quotedFrom? mark (c.rest.length + 1) c.next).map fun (cs, d) => (String.ofList cs, d.closed)

/-! ## Block scalars -/

/-- What becomes of the line ends at the end of a block. -/
inductive Chomping where
  | strip
  | clip
  | keep
deriving DecidableEq, Repr

def chomping? : Char → Option Chomping
  | '-' => some .strip
  | '+' => some .keep
  | _ => none

def indentDigit? (c : Char) : Option Nat := if '1' ≤ c && c ≤ '9' then some (c.toNat - '0'.toNat) else none

/-- Chomping and indentation as given behind the mark of a block, in any order. -/
def blockHeader (c : Cursor) : Chomping × Option Nat × Cursor :=
  match c.head?.bind chomping?, c.head?.bind indentDigit? with
  | some chomping, _ =>
    match c.next.head?.bind indentDigit? with
    | some n => (chomping, some n, c.drop 2)
    | none => (chomping, none, c.next)
  | none, some n =>
    match c.next.head?.bind chomping? with
    | some chomping => (chomping, some n, c.drop 2)
    | none => (.clip, some n, c.next)
  | none, none => (.clip, none, c)

/-- Passes over empty lines and indentation. The result has the number of lines and the largest indentation. Without a
given indentation all blanks are passed; a tab may not take their place. -/
def blockGap? (indent : Option Nat) : Nat → Cursor → Option (Nat × Nat × Cursor)
  | 0, c => some (0, c.column, c)
  | fuel + 1, c =>
    let isInside := (indent.map fun n => decide (c.column < n)).getD true
    match c.head? with
    | some ' ' => if isInside then blockGap? indent fuel c.next else some (0, c.column, c)
    | some '\t' => if isInside then none else some (0, c.column, c)
    | some '\n' => (blockGap? indent fuel c.next).map fun (ends, widest, d) => (ends + 1, max widest c.column, d)
    | _ => some (0, c.column, c)

/-- What is known before a line of a block: whether it folds, whether there is a line end and how many empty lines
behind it, and whether the line before begins with a blank. -/
structure BlockState where
  folds : Bool
  lineEnd : Bool
  emptyLines : Nat
  afterBlank : Bool

/-- What stands between the line before and one that does or does not begin with a blank. -/
def BlockState.between (s : BlockState) (beforeBlank : Bool) : List Char :=
  let first :=
    if s.folds && s.lineEnd && !s.afterBlank && !beforeBlank then (if s.emptyLines = 0 then [' '] else [])
    else if s.lineEnd then ['\n'] else []
  first ++ List.replicate s.emptyLines '\n'

/-- What stands behind the last line. -/
def BlockState.ending (s : BlockState) (chomping : Chomping) : List Char :=
  match chomping with
  | .strip => []
  | .clip => if s.lineEnd then ['\n'] else []
  | .keep => (if s.lineEnd then ['\n'] else []) ++ List.replicate s.emptyLines '\n'

/-- The lines of a block with a given indentation. -/
def blockLines? (chomping : Chomping) (indent : Nat) : Nat → BlockState → Cursor → Option (List Char × Cursor)
  | 0, _, _ => none
  | fuel + 1, s, c =>
    if c.column != indent || c.atEnd then some (s.ending chomping, c)
    else do
      let isBlank := (c.head?.map isGap).getD false
      let text := c.rest.takeWhile (· != '\n')
      let after := c.drop text.length
      let (emptyLines, _, further) ← blockGap? (some indent) (after.rest.length + 1) after.next
      let (rest, last) ← blockLines? chomping indent fuel ⟨s.folds, !after.atEnd, emptyLines, isBlank⟩ further
      return (s.between isBlank ++ text ++ rest, last)

/-- The block scalar whose mark is at the cursor, within a collection of indentation `parent`. -/
def block? (parent : Int) (c : Cursor) : Option (String × Cursor) := do
  let (chomping, digit, header) := blockHeader c.next
  let header := header.passWhile isGap
  if !header.atLineEnd then none
  let body := (header.passWhile (· != '\n')).next
  let indent := digit.map fun n => if 0 ≤ parent then parent.toNat + n else n
  let (emptyLines, widest, first) ← blockGap? indent (body.rest.length + 1) body
  let indent := indent.getD (max (max widest (parent + 1).toNat) 1)
  let state : BlockState := ⟨c.head? == some '>', false, emptyLines, false⟩
  let (text, last) ← blockLines? chomping indent (body.rest.length + 2) state first
  return (String.ofList text, last.opened)

end ContractAudit.Yaml
