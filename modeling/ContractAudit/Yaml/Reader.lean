import ContractAudit.Yaml.Basic
import ContractAudit.Yaml.Scalar

/-!
# Reading YAML

Collections are written in brackets, or by indentation. By indentation, a sequence is a column of dashes and a mapping
a column of keys; what belongs to an item or a value is indented further, apart from the dashes of a sequence that is
the value of a key. A key without a mark of its own ends with a colon in the line where it begins.
-/

namespace ContractAudit.Yaml

open Cursor

/-! ## Properties -/

def isAnchorChar (c : Char) : Bool := c.isAlphanum || c == '_' || c == '-'

/-- The name behind the mark of an anchor or alias. -/
def anchorName? (c : Cursor) : Option (String × Cursor) :=
  let name := c.next.rest.takeWhile isAnchorChar
  let after := c.next.drop name.length
  let isClosed := after.gapAt 0 || (after.head?.map fun d => "?:,]\x7d%@".toList.contains d).getD false
  if name.isEmpty || !isClosed then none else some (String.ofList name, after.closed)

def isTagChar (c : Char) : Bool := c.isAlphanum || "-_;/?:@&=+$.!~*'()%".toList.contains c

/-- The tag at the cursor, which goes up to a gap, or up to a comma in brackets. -/
def tag? (inBrackets : Bool) (c : Cursor) : Option (String × Cursor) :=
  let isVerbatim := c.rest[1]? == some '<'
  let name := if isVerbatim then c.rest.takeWhile (fun d => d != '>' && !isGapOrEnd d) ++ ['>']
    else c.rest.takeWhile isTagChar
  let after := c.drop name.length
  if (isVerbatim && c.rest[name.length - 1]? != some '>') || !(after.gapAt 0 || (inBrackets && after.head? == some ','))
  then none else some (String.ofList name, after.closed)

/-- The property at the cursor, if there is one. -/
def property? (inBrackets : Bool) (c : Cursor) : Option (Option (Properties × Cursor)) :=
  match c.head? with
  | some '&' => (anchorName? c).map fun (name, d) => some (⟨some name, none⟩, d)
  | some '!' => (tag? inBrackets c).map fun (name, d) => some (⟨none, some name⟩, d)
  | _ => some none

/-- Up to two properties. In brackets they may be in several lines. -/
def properties? (inBrackets : Bool) : Nat → Properties → Cursor → Option (Properties × Cursor)
  | 0, p, c => some (p, c)
  | fuel + 1, p, c => do
    match ← property? inBrackets c with
    | none => return (p, c)
    | some (q, after) =>
      let p ← p.union? q
      properties? inBrackets fuel p (if inBrackets then after.skip true else after.passWhile isGap)

/-! ## Nodes -/

/-- A key without a mark is at most this long. -/
def maxKeyLength : Nat := 1024

/-- Is what was read from `start` up to here a key? -/
def endsKey (start c : Cursor) : Bool :=
  let c := c.passWhile isGap
  start.open? && c.line == start.line && c.atMark ':' && c.offset ≤ start.offset + maxKeyLength

/-- Behind a key in brackets there is a colon in the same line. -/
def endsBracketKey (start c : Cursor) : Bool :=
  c.head? == some ':' && c.line == start.line && c.offset ≤ start.offset + maxKeyLength

mutual

/-- A scalar without a block, an alias, or a collection in brackets. -/
def inline? (inBrackets : Bool) (parent : Int) : Nat → Cursor → Option (Node × Cursor)
  | 0, _ => none
  | fuel + 1, c =>
    match c.head? with
    | some '[' => (items? parent fuel c.next).map fun (items, d) => (.sequence {} items, d.closed)
    | some '\x7b' => (entries? parent fuel c.next).map fun (entries, d) => (.mapping {} entries, d.closed)
    | some '*' => (anchorName? c).map fun (name, d) => (.reference name, d)
    | some '"' => (quoted? '"' c).map fun (text, d) => (.scalar {} .quoted text, d)
    | some '\'' => (quoted? '\'' c).map fun (text, d) => (.scalar {} .quoted text, d)
    | _ =>
      if startsPlain inBrackets c then
        (plain? inBrackets (parent + 1) c).map fun (text, d) => (.scalar {} .plain text, d)
      else none

/-- A node in brackets. -/
def bracketNode? (parent : Int) : Nat → Cursor → Option (Node × Cursor)
  | 0, _ => none
  | fuel + 1, c => do
    let (p, after) ← properties? true 2 {} c
    if !p.isEmpty && (after.head?.map fun d => ",:]\x7d".toList.contains d).getD false then
      return (.scalar p .plain "", after)
    let (node, last) ← inline? true parent fuel after
    return (← node.attach? p, last)

/-- A node in brackets, or nothing before a comma or the closing bracket. -/
def bracketValue? (parent : Int) : Nat → Cursor → Option (Node × Cursor)
  | 0, _ => none
  | fuel + 1, c =>
    let c := c.skip true
    if (c.head?.map fun d => ",]\x7d".toList.contains d).getD false then some (.missing, c)
    else bracketNode? parent fuel c

/-- A key and its value in brackets, if the value is there; the cursor is behind the key. -/
def bracketPair? (parent : Int) : Nat → Node → Cursor → Option (Node × Cursor)
  | 0, _, _ => none
  | fuel + 1, key, c =>
    let c := c.skip true
    if c.head? == some ':' then (bracketValue? parent fuel c.next).map fun (value, d) => (.mapping {} [(key, value)], d)
    else some (.mapping {} [(key, .missing)], c)

/-- The items of a sequence in brackets. A key with its value is a mapping of one entry. -/
def items? (parent : Int) : Nat → Cursor → Option (List Node × Cursor)
  | 0, _ => none
  | fuel + 1, c =>
    let c := c.skip true
    if c.head? == some ']' then some ([], c.next)
    else do
      let (item, after) ←
        if c.atMark '?' then do
          let (key, d) ← bracketValue? parent fuel c.next
          bracketPair? parent fuel key d
        else do
          let (node, d) ← bracketNode? parent fuel c
          if endsBracketKey c (d.skip true) then bracketPair? parent fuel node d else pure (node, d)
      let after := after.skip true
      match after.head? with
      | some ',' => (items? parent fuel after.next).map fun (rest, d) => (item :: rest, d)
      | some ']' => return ([item], after.next)
      | _ => none

/-- The entries of a mapping in brackets. -/
def entries? (parent : Int) : Nat → Cursor → Option (List (Node × Node) × Cursor)
  | 0, _ => none
  | fuel + 1, c =>
    let c := c.skip true
    if c.head? == some '\x7d' then some ([], c.next)
    else do
      let (key, after) ←
        if c.atMark '?' then bracketValue? parent fuel c.next
        else if c.head? == some ':' then pure (.missing, c)
        else bracketNode? parent fuel c
      let after := after.skip true
      let (value, after) ←
        if c.atMark '?' && after.head? == some ':' || endsBracketKey c after then bracketValue? parent fuel after.next
        else pure (.missing, after)
      let after := after.skip true
      match after.head? with
      | some ',' => (entries? parent fuel after.next).map fun (rest, d) => ((key, value) :: rest, d)
      | some '\x7d' => return ([(key, value)], after.next)
      | _ => none

/-- A node by indentation, which is larger than that of the collection around it. The dashes of a sequence may have the
same indentation where `alongside` says so. -/
def node? (alongside : Bool) (parent : Int) : Nat → Cursor → Option (Node × Cursor)
  | 0, _ => none
  | fuel + 1, c =>
    let c := c.skip false
    if c.atEnd || c.atBoundary then some (.missing, c)
    else if (c.column : Int) ≤ parent then
      if alongside && (c.column : Int) = parent && c.atMark '-' then
        (dashes? true c.column fuel c).map fun (items, d) => (.sequence {} items, d)
      else some (.missing, c)
    else if c.atMark '-' then
      if c.open? then (dashes? false c.column fuel c).map fun (items, d) => (.sequence {} items, d) else none
    else if c.atMark '?' || c.atMark ':' then
      if c.open? then (keys? c.column fuel c).map fun (entries, d) => (.mapping {} entries, d) else none
    else do
      let (p, after) ← properties? false 2 {} c
      if !p.isEmpty && after.atLineEnd then
        let (node, last) ← node? alongside parent fuel after
        return (← node.attach? p, last)
      else if after.head? == some '|' || after.head? == some '>' then
        let (text, last) ← block? parent after
        return (.scalar p (if after.head? == some '|' then .literal else .folded) text, last)
      else
        let (node, last) ←
          if !p.isEmpty && after.atMark ':' then pure (.missing, after) else inline? false parent fuel after
        let node ← node.attach? p
        if endsKey c last then
          let (value, d) ← node? true c.column fuel (last.passWhile isGap).next.closed
          let (rest, d) ← keys? c.column fuel d
          return (.mapping {} ((node, value) :: rest), d)
        else return (node, last)

/-- The items of a sequence whose dashes are in a column. Alongside the keys of a mapping, a key ends it. -/
def dashes? (alongside : Bool) (column : Nat) : Nat → Cursor → Option (List Node × Cursor)
  | 0, _ => none
  | fuel + 1, c =>
    let c := c.skip false
    if c.atEnd || c.atBoundary || c.column < column then some ([], c)
    else if c.column = column && c.atMark '-' then do
      let (item, d) ← node? false column fuel c.next.opened
      let (rest, d) ← dashes? alongside column fuel d
      return (item :: rest, d)
    else if alongside && c.column = column then some ([], c)
    else none

/-- The entries of a mapping whose keys are in a column. -/
def keys? (column : Nat) : Nat → Cursor → Option (List (Node × Node) × Cursor)
  | 0, _ => none
  | fuel + 1, c =>
    let c := c.skip false
    if c.atEnd || c.atBoundary || c.column < column then some ([], c)
    else if c.column ≠ column then none
    else do
      let (key, after) ←
        if c.atMark '?' then node? true column fuel c.next.opened
        else if c.atMark ':' then pure (.missing, c)
        else do
          let (p, after) ← properties? false 2 {} c
          let (node, last) ←
            if !p.isEmpty && after.atMark ':' then pure (.missing, after) else inline? false column fuel after
          if endsKey c last then pure (← node.attach? p, (last.passWhile isGap).closed) else none
      let isMarked := c.atMark '?' || c.atMark ':'
      let after := after.skip false
      let (value, d) ←
        if isMarked && !(after.column = column && after.atMark ':') then pure (.missing, after)
        else node? true column fuel (if isMarked then after.next.opened else after.next.closed)
      let (rest, d) ← keys? column fuel d
      return ((key, value) :: rest, d)

end

/-! ## Documents -/

/-- A line that says something about the document: its version, or what a tag stands for. -/
def isDirective (line : List Char) : Bool :=
  match (Text.words line).map String.ofList with
  | "%YAML" :: version :: rest => (version == "1.1" || version == "1.2") && (rest.head?.map (·.startsWith "#")).getD true
  | "%TAG" :: _ :: _ :: _ => true
  | _ => false

/-- Passes over directives; behind them there has to be a document with a marker. -/
def directives? : Nat → Bool → Cursor → Option Cursor
  | 0, _, _ => none
  | fuel + 1, some?, c =>
    let c := c.skip false
    if c.column == 0 && c.head? == some '%' then
      if isDirective (c.rest.takeWhile (· != '\n')) then directives? fuel true (c.passWhile (· != '\n')) else none
    else if some? && !c.atMarker '-' then none
    else some c

/-- Is there nothing more but markers of the end? -/
def isFinished : Nat → Cursor → Bool
  | 0, _ => false
  | fuel + 1, c =>
    let c := c.skip false
    c.atEnd || (c.atMarker '.' && isFinished fuel (c.drop 3))

/-- The only document of a text, or nothing if it is empty; `none` if the text is not well formed or has several
documents. -/
def read? (text : String) : Option Node := do
  let fuel := 4 * text.length + 16
  let c ← directives? fuel false (.ofText text)
  if c.atMarker '.' then none
  let (node, last) ← node? false (-1) fuel (if c.atMarker '-' then (c.drop 3).closed else c)
  if isFinished fuel last then
    let (node, _) ← node.resolve? []
    return node
  else none

end ContractAudit.Yaml
