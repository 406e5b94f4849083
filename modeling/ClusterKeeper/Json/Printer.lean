import ClusterKeeper.Json.Value

/-!
# `Json/Printer.lean` — values as JSON text

Two layouts: `Value.render` writes everything on one line without a blank, `Value.renderPretty`
puts every item on a line of its own, indented by two spaces a level, and leaves empty arrays and
objects as `[]` and `{}`. Strings are the same in both: a quote, a backslash and the controls are
escaped, all else stands for itself.
-/

set_option autoImplicit false

namespace ClusterKeeper.Json

/-- The lower-case hexadecimal digit of a number below sixteen. -/
def hexDigit (n : Nat) : Char := if n < 10 then Char.ofNat (48 + n) else Char.ofNat (87 + n)

def escapeChar (c : Char) : List Char :=
  if c = '"' then ['\\', '"']
  else if c = '\\' then ['\\', '\\']
  else if c = '\x08' then ['\\', 'b']
  else if c = '\t' then ['\\', 't']
  else if c = '\n' then ['\\', 'n']
  else if c = '\x0c' then ['\\', 'f']
  else if c = '\r' then ['\\', 'r']
  else if c.toNat < 0x20 then
    ['\\', 'u', '0', '0', hexDigit (c.toNat / 16), hexDigit (c.toNat % 16)]
  else [c]

def stringChars (s : String) : List Char := '"' :: (s.toList.flatMap escapeChar ++ ['"'])

def separated : List (List Char) → List Char
  | [] => []
  | [p] => p
  | p :: ps => p ++ ',' :: separated ps

mutual

def Value.chars : Value → List Char
  | .null => ['n', 'u', 'l', 'l']
  | .boolean true => ['t', 'r', 'u', 'e']
  | .boolean false => ['f', 'a', 'l', 's', 'e']
  | .number n => n.render.toList
  | .string s => stringChars s
  | .array items => '[' :: (separated (itemChars items) ++ [']'])
  | .object members => '{' :: (separated (memberChars members) ++ ['}'])

def itemChars : List Value → List (List Char)
  | [] => []
  | v :: vs => v.chars :: itemChars vs

def memberChars : List (String × Value) → List (List Char)
  | [] => []
  | (k, v) :: ms => (stringChars k ++ ':' :: v.chars) :: memberChars ms

end

def Value.render (v : Value) : String := String.ofList v.chars

/-- A new line at a level of indentation. -/
def newLine (level : Nat) : List Char := '\n' :: List.replicate (2 * level) ' '

/-- Writes the parts on lines of their own, with commas between them. -/
def separatedLines (level : Nat) : List (List Char) → List Char
  | [] => []
  | [p] => newLine level ++ p
  | p :: ps => newLine level ++ p ++ ',' :: separatedLines level ps

mutual

/-- The characters of a value that begins at a level of indentation. -/
def Value.prettyChars (level : Nat) : Value → List Char
  | .array [] => ['[', ']']
  | .array (v :: vs) =>
    '[' :: (separatedLines (level + 1) (prettyItems (level + 1) (v :: vs)) ++ newLine level ++ [']'])
  | .object [] => ['{', '}']
  | .object (m :: ms) =>
    '{' :: (separatedLines (level + 1) (prettyMembers (level + 1) (m :: ms)) ++ newLine level ++ ['}'])
  | v => v.chars

def prettyItems (level : Nat) : List Value → List (List Char)
  | [] => []
  | v :: vs => v.prettyChars level :: prettyItems level vs

def prettyMembers (level : Nat) : List (String × Value) → List (List Char)
  | [] => []
  | (k, v) :: ms => (stringChars k ++ ':' :: ' ' :: v.prettyChars level) :: prettyMembers level ms

end

def Value.renderPretty (v : Value) : String := String.ofList (v.prettyChars 0)

end ClusterKeeper.Json
