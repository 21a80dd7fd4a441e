import ContractAudit.Json.Basic
import ContractAudit.Text.Blank

/-!
# Writing JSON

The indented form: two blanks for every level, one item or field on a line, and nothing between the brackets of an
empty array or object.
-/

namespace ContractAudit.Json

/-- Two hexadecimal digits. -/
def hexPair (n : Nat) : List Char := [Nat.digitChar (n / 16), Nat.digitChar (n % 16)]

/-- Quotes, backslashes and controls are escaped, nothing else. -/
def escapeChar (c : Char) : List Char :=
  if c == '"' then ['\\', '"']
  else if c == '\\' then ['\\', '\\']
  else if c == '\x08' then ['\\', 'b']
  else if c == '\x0c' then ['\\', 'f']
  else if c == '\n' then ['\\', 'n']
  else if c == '\r' then ['\\', 'r']
  else if c == '\t' then ['\\', 't']
  else if c.toNat < 0x20 then ['\\', 'u', '0', '0'] ++ hexPair c.toNat
  else [c]

def printString (s : String) : List Char := '"' :: (s.toList.flatMap escapeChar ++ ['"'])

/-- Numbers that are not finite have no JSON form and become null. -/
def printFloat (f : Numeric.Format) (value : Numeric.Binary) : List Char :=
  if value.isFinite then (Numeric.dataLayout.text f value).toList else "null".toList

def printInt (n : Int) : List Char :=
  if n < 0 then '-' :: Numeric.digitChars n.natAbs else Numeric.digitChars n.natAbs

def printNumber : Number → List Char
  | .int n => printInt n
  | .double value => printFloat Numeric.binary64 value
  | .single value => printFloat Numeric.binary32 value

/-- A new line at a level. -/
def newline (level : Nat) : List Char := '\n' :: List.replicate (2 * level) ' '

/-- Parts on lines of their own, one level deeper, separated by commas. -/
def printParts (level : Nat) : List (List Char) → List Char
  | [] => []
  | [part] => newline (level + 1) ++ part
  | part :: parts => newline (level + 1) ++ part ++ ',' :: printParts level parts

/-- Parts between two brackets. -/
def bracket (level : Nat) (left right : Char) (parts : List (List Char)) : List Char :=
  if parts.isEmpty then [left, right] else left :: (printParts level parts ++ newline level ++ [right])

mutual

/-- The text of a value at a level. -/
def print (level : Nat) : Json → List Char
  | null | unusable => "null".toList
  | bool b => (if b then "true" else "false").toList
  | number n => printNumber n
  | string s => printString s
  | array items => bracket level '[' ']' (printItems (level + 1) items)
  | object fields => bracket level '\x7b' '\x7d' (printFields (level + 1) fields)

def printItems (level : Nat) : List Json → List (List Char)
  | [] => []
  | j :: js => print level j :: printItems level js

def printFields (level : Nat) : List (String × Json) → List (List Char)
  | [] => []
  | (name, j) :: fs => (printString name ++ ':' :: ' ' :: print level j) :: printFields level fs

end

/-- The indented text of a value. -/
def pretty (j : Json) : String := String.ofList (print 0 j)

end ContractAudit.Json
