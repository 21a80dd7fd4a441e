import ContractAudit.Numeric.Reading
import ContractAudit.Pattern.Property
import ContractAudit.Pattern.Syntax

/-!
# Reading a pattern

The concrete syntax of regular expressions. Flags are resolved while reading, so that the result is a plain `Regex`.
A text that is no pattern gives `none`; there are neither look-around groups nor back references.
-/

namespace ContractAudit.Pattern

open Unicode (CharSet)

structure Flags where
  ignoreCase : Bool := false
  multiLine : Bool := false
  dotAll : Bool := false
  swapGreed : Bool := false
  unicode : Bool := true
  carriageReturn : Bool := false
  verbose : Bool := false
deriving DecidableEq, Repr

/-! ## Blanks and comments -/

/-- Drops blanks and the comments from `#` to the end of a line. -/
def dropBlanks : Bool → List Char → List Char
  | _, [] => []
  | true, c :: cs => dropBlanks (c != '\n') cs
  | false, c :: cs => if Text.isBlank c then dropBlanks false cs else if c == '#' then dropBlanks true cs else c :: cs

/-- Blanks count only in patterns that are not verbose. -/
def Flags.skip (fl : Flags) (cs : List Char) : List Char := if fl.verbose then dropBlanks false cs else cs

/-! ## Escapes -/

/-- What an escape or a plain character stands for. -/
inductive Atom where
  | char (c : Char)
  | set (s : CharSet)
  | look (l : Look)

def isMeta (c : Char) : Bool := "\\.+*?()|[]\x7b\x7d^$#&-~".toList.contains c

/-- Every other character below 128 that is neither letter nor digit may be escaped. -/
def isEscapable (c : Char) : Bool := isMeta c || (c.toNat < 0x80 && !c.isAlphanum && c != '<' && c != '>')

def hexValue? (c : Char) : Option Nat :=
  if '0' ≤ c && c ≤ '9' then some (c.toNat - '0'.toNat)
  else if 'a' ≤ c && c ≤ 'f' then some (c.toNat - 'a'.toNat + 10)
  else if 'A' ≤ c && c ≤ 'F' then some (c.toNat - 'A'.toNat + 10)
  else none

/-- The character with a code point, unless it is a surrogate or out of range. -/
def scalar? (n : Nat) : Option Char := if n < 0xD800 || (0xDFFF < n && n < 0x110000) then some (Char.ofNat n) else none

/-- Exactly `count` hexadecimal digits. -/
def hexDigits? (fl : Flags) : Nat → Nat → List Char → Option (Nat × List Char)
  | 0, value, cs => some (value, cs)
  | _ + 1, _, [] => none
  | count + 1, value, c :: cs => (hexValue? c).bind fun d => hexDigits? fl count (16 * value + d) (fl.skip cs)

/-- Characters up to a closing brace. -/
def upToBrace? (fl : Flags) : Nat → List Char → Option (List Char × List Char)
  | 0, _ => none
  | fuel + 1, cs =>
    match fl.skip cs with
    | [] => none
    | c :: rest =>
      if c == '\x7d' then some ([], rest) else (upToBrace? fl fuel rest).map fun (inner, rest) => (c :: inner, rest)

/-- The digits of `\x`, `\u` and `\U`: a fixed number, or any number between braces. -/
def hexEscape? (fl : Flags) (count : Nat) (cs : List Char) : Option (Char × List Char) :=
  match fl.skip cs with
  | '\x7b' :: rest =>
    (upToBrace? fl (rest.length + 1) rest).bind fun (inner, rest) =>
      if inner.isEmpty then none
      else (inner.foldl (fun acc c => acc.bind fun n => (hexValue? c).map (16 * n + ·)) (some 0)).bind fun n =>
        (scalar? n).map (·, rest)
  | digits => (hexDigits? fl count 0 digits).bind fun (n, rest) => (scalar? n).map (·, rest)

/-- A class of characters under a negation. Without Unicode only characters below 128 can be described. -/
def Flags.negated? (fl : Flags) (negate : Bool) (s : CharSet) : Option CharSet :=
  if !negate then some s else if fl.unicode then some s.complement else none

/-- The class behind `\p` or `\P`. -/
def propertyEscape? (fl : Flags) (negate : Bool) (cs : List Char) : Option (CharSet × List Char) :=
  if !fl.unicode then none
  else
    let found := match fl.skip cs with
      | '\x7b' :: rest =>
        (upToBrace? fl (rest.length + 1) rest).bind fun (inner, rest) => (property? inner).map (·, rest)
      | '\\' :: _ => none
      | c :: rest => (property? [c]).map (·, fl.skip rest)
      | [] => none
    found.map fun (set, rest) =>
      let folded := if fl.ignoreCase then set.foldCase else set
      (if negate then folded.complement else folded, rest)

def Flags.word (fl : Flags) : CharSet := if fl.unicode then Unicode.Category.word else asciiWord

def isBoundaryNameChar (c : Char) : Bool := c.isAlpha || c == '-'

/-- The name in `\b{name}`; `some none` if the braces hold a repetition instead. -/
def boundaryName? (fl : Flags) : Nat → List Char → Option (List Char × List Char)
  | 0, _ => none
  | fuel + 1, cs =>
    match cs with
    | [] => none
    | c :: rest =>
      if c == '\x7d' then some ([], rest)
      else if isBoundaryNameChar c then
        (boundaryName? fl fuel (fl.skip rest)).map fun (name, rest) => (c :: name, rest)
      else none

/-- A word boundary, maybe with the name of a special one. -/
def boundaryEscape? (fl : Flags) (cs : List Char) : Option (Atom × List Char) :=
  match cs with
  | '\x7b' :: rest =>
    match fl.skip rest with
    | [] => none
    | c :: more =>
      if isBoundaryNameChar c then
        (boundaryName? fl (more.length + 2) (c :: more)).bind fun (name, rest) =>
          match String.ofList name with
          | "start" => some (.look (.wordStart fl.word), rest)
          | "end" => some (.look (.wordEnd fl.word), rest)
          | "start-half" => some (.look (.notAfterWord fl.word), rest)
          | "end-half" => some (.look (.notBeforeWord fl.word), rest)
          | _ => none
      else some (.look (.wordBoundary fl.word), cs)
  | _ => some (.look (.wordBoundary fl.word), cs)

/-- What follows a backslash. -/
def escape? (fl : Flags) : List Char → Option (Atom × List Char)
  | [] => none
  | c :: cs =>
    if c == 'x' then (hexEscape? fl 2 cs).map fun (d, rest) => (.char d, rest)
    else if c == 'u' then (hexEscape? fl 4 cs).map fun (d, rest) => (.char d, rest)
    else if c == 'U' then (hexEscape? fl 8 cs).map fun (d, rest) => (.char d, rest)
    else if c == 'p' || c == 'P' then (propertyEscape? fl (c == 'P') cs).map fun (s, rest) => (.set s, rest)
    else if isEscapable c then some (.char c, cs)
    else match letterClass? fl.unicode c.toLower with
      | some set => (fl.negated? c.isUpper set).map fun s => (.set s, cs)
      | none =>
        match c with
        | 'a' => some (.char '\x07', cs)
        | 'f' => some (.char '\x0c', cs)
        | 't' => some (.char '\t', cs)
        | 'n' => some (.char '\n', cs)
        | 'r' => some (.char '\r', cs)
        | 'v' => some (.char '\x0b', cs)
        | 'A' => some (.look .textStart, cs)
        | 'z' => some (.look .textEnd, cs)
        | 'b' => boundaryEscape? fl cs
        | 'B' => some (.look (.notWordBoundary fl.word), cs)
        | '<' => some (.look (.wordStart fl.word), cs)
        | '>' => some (.look (.wordEnd fl.word), cs)
        | _ => none

/-! ## Classes in brackets -/

inductive SetOp where
  | inter
  | diff
  | symmDiff

def SetOp.apply : SetOp → CharSet → CharSet → CharSet
  | inter => CharSet.inter
  | diff => CharSet.diff
  | symmDiff => CharSet.symmDiff

def Flags.fold (fl : Flags) (s : CharSet) : CharSet :=
  if !fl.ignoreCase then s
  else if fl.unicode then s.foldCase
  else s.foldCase.inter ⟨[(0, 127)]⟩

/-- The left operand with the operation that waits for its right operand. -/
structure Waiting where
  op : SetOp
  left : CharSet

def Flags.combine (fl : Flags) (waiting : Option Waiting) (right : CharSet) : CharSet :=
  match waiting with
  | none => right
  | some w => w.op.apply (fl.fold w.left) (fl.fold right)

/-- A class `[:name:]`, read behind its first bracket. -/
def bracketName? (cs : List Char) : Option (CharSet × List Char) :=
  match cs with
  | ':' :: rest =>
    let (negate, rest) := match rest with
      | '^' :: more => (true, more)
      | _ => (false, rest)
    let name := rest.takeWhile (· != ':')
    match rest.drop name.length with
    | ':' :: ']' :: more =>
      (bracketClass? (String.ofList name)).map fun s => (if negate then s.complement else s, more)
    | _ => none
  | _ => none

/-- A character of a class. Without Unicode only characters below 128 can be named. -/
def Flags.charSet? (fl : Flags) (c : Char) : Option CharSet :=
  if fl.unicode || c.toNat < 0x80 then some (.singleton c.toNat) else none

def Flags.classAtom? (fl : Flags) : List Char → Option (Atom × List Char)
  | [] => none
  | '\\' :: cs => escape? fl cs
  | c :: cs => some (.char c, cs)

def Flags.atomSet? (fl : Flags) : Atom → Option CharSet
  | .char c => fl.charSet? c
  | .set s => some s
  | .look _ => none

/-- A single character, a named class or a range. A dash before a closing bracket or another dash is no range. -/
def Flags.classRange? (fl : Flags) (cs : List Char) : Option (CharSet × List Char) :=
  (fl.classAtom? cs).bind fun (first, rest) =>
    let rest := fl.skip rest
    let single := (fl.atomSet? first).map (·, rest)
    match rest with
    | '-' :: more =>
      match fl.skip more with
      | [] => none
      | ']' :: _ => single
      | '-' :: _ => single
      | behind =>
        (fl.classAtom? behind).bind fun (second, rest) =>
          match first, second with
          | .char a, .char b =>
            if a ≤ b && (fl.unicode || b.toNat < 0x80) then some (⟨[(a.toNat, b.toNat)]⟩, rest) else none
          | _, _ => none
    | [] => none
    | _ => single

/-- Dashes directly behind the opening of a class. -/
def Flags.leadingDashes (fl : Flags) : Nat → List Char → List Char
  | 0, cs => cs
  | fuel + 1, cs =>
    match cs with
    | '-' :: rest => fl.leadingDashes fuel (fl.skip rest)
    | _ => cs

/-- Level of brackets with the class and the text behind it. -/
structure ClassEnd where
  set : CharSet
  depth : Nat
  rest : List Char

mutual

/-- A class, read behind its opening bracket. -/
def classOpen? (fl : Flags) : Nat → List Char → Option ClassEnd
  | 0, _ => none
  | fuel + 1, cs =>
    let cs := fl.skip cs
    let (negate, cs) := match cs with
      | '^' :: rest => (true, fl.skip rest)
      | _ => (false, cs)
    let behind := fl.leadingDashes cs.length cs
    let dashes := if cs.head? == some '-' then CharSet.singleton '-'.toNat else .empty
    let (start, behind) := match behind with
      | ']' :: rest => if dashes.ranges.isEmpty then (CharSet.singleton ']'.toNat, fl.skip rest) else (dashes, behind)
      | _ => (dashes, behind)
    (classItems? fl fuel none start 0 behind).bind fun c =>
      (fl.negated? negate (fl.fold c.set)).map fun s => { c with set := s, depth := c.depth + 1 }

/-- The items of a class up to its closing bracket. -/
def classItems? (fl : Flags) : Nat → Option Waiting → CharSet → Nat → List Char → Option ClassEnd
  | 0, _, _, _, _ => none
  | fuel + 1, waiting, acc, depth, cs =>
    match fl.skip cs with
    | [] => none
    | '[' :: rest =>
      match bracketName? rest with
      | some (set, rest) => classItems? fl fuel waiting (acc.union set) depth rest
      | none =>
        (classOpen? fl fuel rest).bind fun c =>
          classItems? fl fuel waiting (acc.union c.set) (max depth c.depth) c.rest
    | ']' :: rest => some ⟨fl.combine waiting acc, depth, rest⟩
    | '&' :: '&' :: rest => classItems? fl fuel (some ⟨.inter, fl.combine waiting acc⟩) .empty depth rest
    | '-' :: '-' :: rest => classItems? fl fuel (some ⟨.diff, fl.combine waiting acc⟩) .empty depth rest
    | '~' :: '~' :: rest => classItems? fl fuel (some ⟨.symmDiff, fl.combine waiting acc⟩) .empty depth rest
    | cs => (fl.classRange? cs).bind fun (set, rest) => classItems? fl fuel waiting (acc.union set) depth rest

end

/-! ## Groups -/

/-- A part of a sequence: an expression with its depth, or a change of flags, which nothing can repeat. -/
structure Piece where
  regex : Regex
  depth : Nat
  isFlags : Bool := false

/-- Parts in the order in which they were read, last first. -/
def Piece.sequence : List Piece → Piece
  | [] => ⟨.empty, 0, false⟩
  | [single] => single
  | pieces =>
    ⟨pieces.foldl (fun r p => .seq p.regex r) .empty, 1 + (pieces.map (·.depth)).foldl max 0, false⟩

/-- Alternatives, last first. -/
def Piece.choice : List Piece → Piece
  | [] => ⟨.empty, 0, false⟩
  | [single] => single
  | last :: earlier =>
    ⟨earlier.foldl (fun r p => .alt p.regex r) last.regex, 1 + ((last :: earlier).map (·.depth)).foldl max 0, false⟩

/-- What is known of an open group: the alternatives before the current one and the parts of the current one. -/
structure Level where
  branches : List Piece := []
  pieces : List Piece := []

def Level.close (level : Level) : Piece := Piece.choice (Piece.sequence level.pieces :: level.branches)

structure State where
  rest : List Char
  flags : Flags := {}
  level : Level := {}
  /-- The groups around the current one, with the flags that hold behind it. -/
  outer : List (Level × Flags) := []
  /-- Names of groups. -/
  names : List String := []

def State.push (s : State) (piece : Piece) (rest : List Char) : State :=
  { s with rest, level := { s.level with pieces := piece :: s.level.pieces } }

def Flags.set? (fl : Flags) (on : Bool) : Char → Option Flags
  | 'i' => some { fl with ignoreCase := on }
  | 'm' => some { fl with multiLine := on }
  | 's' => some { fl with dotAll := on }
  | 'U' => some { fl with swapGreed := on }
  | 'u' => some { fl with unicode := on }
  | 'R' => some { fl with carriageReturn := on }
  | 'x' => some { fl with verbose := on }
  | _ => none

/-- Flags up to `:` or `)`. Each may be named once, a dash turns those behind it off and cannot stand last. -/
def readFlags? (fl : Flags) (on : Bool) (seen : List Char) : List Char → Option (Flags × List Char × List Char)
  | [] => none
  | c :: cs =>
    if c == ':' || c == ')' then
      if seen.head? == some '-' then none else some (fl, seen, c :: cs)
    else if seen.contains c then none
    else if c == '-' then readFlags? fl false (c :: seen) cs
    else (fl.set? on c).bind fun fl => readFlags? fl on (c :: seen) cs

/-- The name of a group up to `>`. -/
def groupName? (cs : List Char) : Option (String × List Char) :=
  let name := cs.takeWhile (· != '>')
  let isStart := fun c => c == '_' || Unicode.Category.alphabetic.contains c
  let isPart := fun c => isStart c || c == '.' || c == '[' || c == ']' || Unicode.Category.number.contains c
  match name, cs.drop name.length with
  | first :: others, _ :: rest => if isStart first && others.all isPart then some (String.ofList name, rest) else none
  | _, _ => none

def State.open (s : State) (inner : Flags) (rest : List Char) : State :=
  { s with rest, flags := inner, level := {}, outer := (s.level, s.flags) :: s.outer }

/-- An opening bracket has been read. -/
def State.group? (s : State) (cs : List Char) : Option State :=
  let cs := s.flags.skip cs
  let named := fun rest =>
    (groupName? rest).bind fun (name, rest) =>
      if s.names.contains name then none else some (({ s with names := name :: s.names }).open s.flags rest)
  match cs with
  | '?' :: '=' :: _ | '?' :: '!' :: _ | '?' :: '<' :: '=' :: _ | '?' :: '<' :: '!' :: _ => none
  | '?' :: 'P' :: '<' :: rest => named rest
  | '?' :: '<' :: rest => named rest
  | '?' :: rest =>
    (readFlags? s.flags true [] rest).bind fun (fl, seen, rest) =>
      match rest with
      | ':' :: rest => some (s.open fl rest)
      | _ :: rest => if seen.isEmpty then none else some ({ s with flags := fl }.push ⟨.empty, 0, true⟩ rest)
      | [] => none
  | _ => some (s.open s.flags cs)

/-- A closing bracket has been read. -/
def State.endGroup? (s : State) (rest : List Char) : Option State :=
  match s.outer with
  | [] => none
  | (level, fl) :: outer =>
    let inner := s.level.close
    some ({ s with flags := fl, level, outer }.push ⟨inner.regex, inner.depth + 1, false⟩ rest)

/-! ## Repetitions -/

/-- Repeats the last part. -/
def State.repeat? (s : State) (greedy : Bool) (min : Nat) (max : Option Nat) (rest : List Char) : Option State :=
  match s.level.pieces with
  | [] => none
  | piece :: pieces =>
    if piece.isFlags then none
    else
      let regex := Regex.many (greedy != s.flags.swapGreed) min max piece.regex
      some ({ s with level := { s.level with pieces } }.push ⟨regex, piece.depth + 1, false⟩ rest)

/-- A question mark behind a repetition makes it prefer fewer rounds. -/
def lazyMark (cs : List Char) : Bool × List Char :=
  match cs with
  | '?' :: rest => (false, rest)
  | _ => (true, cs)

/-- Digits, each followed by ignored blanks. -/
def countDigits (fl : Flags) : Nat → List Char → List Char × List Char
  | 0, cs => ([], cs)
  | fuel + 1, cs =>
    match cs with
    | [] => ([], [])
    | c :: rest =>
      if Numeric.isDigit c then
        let (ds, rest) := countDigits fl fuel (fl.skip rest)
        (c :: ds, rest)
      else ([], cs)

/-- A number of rounds, with blanks around it. -/
def count? (fl : Flags) (cs : List Char) : Option (Nat × List Char) :=
  let cs := cs.dropWhile Text.isBlank
  let (ds, rest) := countDigits fl cs.length cs
  (Numeric.readDigits? ds).bind fun n =>
    if n ≤ Numeric.maxU32 then some (n, fl.skip (rest.dropWhile Text.isBlank)) else none

/-- The bounds of a counted repetition behind its opening brace. -/
def bounds? (fl : Flags) (cs : List Char) : Option (Nat × Option Nat × List Char) :=
  (count? fl (fl.skip cs)).bind fun (min, rest) =>
    match rest with
    | '\x7d' :: rest => some (min, some min, rest)
    | ',' :: rest =>
      match fl.skip rest with
      | '\x7d' :: rest => some (min, none, rest)
      | more =>
        (count? fl more).bind fun (max, rest) =>
          match rest with
          | '\x7d' :: rest => if min ≤ max then some (min, some max, rest) else none
          | _ => none
    | _ => none

/-! ## The whole pattern -/

def Flags.charRegex (fl : Flags) (c : Char) : Regex := .one (fl.fold (.singleton c.toNat))

def Flags.dot? (fl : Flags) : Option Regex :=
  let excluded : CharSet :=
    if fl.dotAll then .empty else if fl.carriageReturn then ⟨[(10, 10), (13, 13)]⟩ else ⟨[(10, 10)]⟩
  (fl.negated? true excluded).map .one

def Flags.lineStart (fl : Flags) : Look :=
  if !fl.multiLine then .textStart else if fl.carriageReturn then .returnLineStart else .lineStart

def Flags.lineEnd (fl : Flags) : Look :=
  if !fl.multiLine then .textEnd else if fl.carriageReturn then .returnLineEnd else .lineEnd

/-- Reads the next part, which starts with `c`. -/
def State.step? (s : State) (c : Char) (cs : List Char) : Option State :=
  let fl := s.flags
  match c with
  | '(' => s.group? cs
  | ')' => s.endGroup? cs
  | '|' => some { s with
      rest := cs
      level := { branches := Piece.sequence s.level.pieces :: s.level.branches } }
  | '[' => (classOpen? fl (2 * cs.length + 2) cs).map fun c => s.push ⟨.one c.set, c.depth, false⟩ c.rest
  | '?' => let (greedy, rest) := lazyMark cs; s.repeat? greedy 0 (some 1) rest
  | '*' => let (greedy, rest) := lazyMark cs; s.repeat? greedy 0 none rest
  | '+' => let (greedy, rest) := lazyMark cs; s.repeat? greedy 1 none rest
  | '\x7b' =>
    (bounds? fl cs).bind fun (min, max, rest) =>
      let (greedy, rest) := lazyMark (fl.skip rest)
      s.repeat? greedy min max rest
  | '\\' =>
    (escape? fl cs).map fun (atom, rest) =>
      let regex := match atom with
        | .char d => fl.charRegex d
        | .set set => .one set
        | .look l => .look l
      s.push ⟨regex, 0, false⟩ rest
  | '.' => fl.dot?.map fun r => s.push ⟨r, 0, false⟩ cs
  | '^' => some (s.push ⟨.look fl.lineStart, 0, false⟩ cs)
  | '$' => some (s.push ⟨.look fl.lineEnd, 0, false⟩ cs)
  | _ => some (s.push ⟨fl.charRegex c, 0, false⟩ cs)

/-- Reads to the end of the text; every step consumes a character, so `fuel` is its length. -/
def State.run? : Nat → State → Option State
  | 0, s => some s
  | fuel + 1, s =>
    match s.flags.skip s.rest with
    | [] => some { s with rest := [] }
    | c :: cs => (s.step? c cs).bind (run? fuel)

/-- The greatest depth of nested groups and repetitions. -/
def maxDepth : Nat := 250

/-- The expression that a text denotes. -/
def Regex.read? (text : String) : Option Regex :=
  (State.run? (text.length + 1) { rest := text.toList }).bind fun s =>
    let piece := s.level.close
    if s.rest.isEmpty && s.outer.isEmpty && piece.depth ≤ maxDepth && piece.regex.cost ≤ Regex.maxCost then
      some piece.regex
    else none

end ContractAudit.Pattern
