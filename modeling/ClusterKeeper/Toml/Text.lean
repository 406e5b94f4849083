import ClusterKeeper.Toml.Value

/-!
# `Toml/Text.lean` — blanks, comments, strings and keys

A `Reader` takes what it needs from the front of a text or fails; why it fails is not told, since
a text that is no document has no more to say about it. Failing takes nothing, so `<|>` goes back
to where the first attempt began.
-/

set_option autoImplicit false

namespace ClusterKeeper.Toml

abbrev Reader := StateT (List Char) Option

/-- The next character, which stays. -/
def peek : Reader (Option Char) := fun cs => some (cs.head?, cs)

def expect (c : Char) : Reader Unit
  | [] => none
  | d :: cs => if d = c then some ((), cs) else none

def expectAll : List Char → Reader Unit
  | [] => return ()
  | c :: cs => do expect c; expectAll cs

/-! ## 1. Blanks and comments -/

def isBlank (c : Char) : Bool := c = ' ' || c = '\t'

def blanks : Reader Unit := fun cs => some ((), cs.dropWhile isBlank)

/-- What may stand within a line: all but controls; the tab is allowed. -/
def isPlain (c : Char) : Bool := c = '\t' || (0x20 ≤ c.toNat && c.toNat ≠ 0x7F)

def newline : Reader Unit
  | '\n' :: cs => some ((), cs)
  | '\r' :: '\n' :: cs => some ((), cs)
  | _ => none

/-- Takes a comment, if one begins here. -/
def comment : Reader Unit
  | '#' :: cs => some ((), cs.dropWhile isPlain)
  | cs => some ((), cs)

/-- Takes the rest of a line, which may hold blanks and a comment only. -/
def lineEnd : Reader Unit := do
  blanks
  comment
  match ← peek with
  | none => return ()
  | some _ => newline

/-- Passes over blanks, line ends and comments. -/
def skipGap : (inComment : Bool) → List Char → List Char
  | _, [] => []
  | _, '\n' :: cs => skipGap false cs
  | _, '\r' :: '\n' :: cs => skipGap false cs
  | false, '#' :: cs => skipGap true cs
  | inComment, c :: cs =>
    if isBlank c || (inComment && isPlain c) then skipGap inComment cs else c :: cs

def gap : Reader Unit := fun cs => some ((), skipGap false cs)

/-! ## 2. Strings -/

/-- The character that a one-letter escape names. -/
def shortEscape? (c : Char) : Option Char :=
  match c with
  | 'b' => some '\x08'
  | 't' => some '\t'
  | 'n' => some '\n'
  | 'f' => some '\x0c'
  | 'r' => some '\r'
  | '"' => some '"'
  | '\\' => some '\\'
  | _ => none

/-- Where in a string with escapes the reader stands. -/
inductive StringPhase
  /-- Between characters; `trimming` blanks and line ends after an escaped line end. -/
  | plain (trimming : Bool)
  | escape
  /-- In blanks behind a backslash, which only a line end may follow. -/
  | escapedLine
  /-- Among the digits of a code point, with `left` to come. -/
  | code (left value : Nat)
  deriving DecidableEq, Repr

/-- Behind a quote in a text of several lines: if two more quotes follow, the text ends with them,
and up to two further quotes come before its end. -/
def closing? (quote : Char) : List Char → Option (List Char × List Char)
  | a :: b :: c :: d :: rest =>
    if a = quote ∧ b = quote then
      if c = quote then
        if d = quote then some ([quote, quote], rest) else some ([quote], d :: rest)
      else some ([], c :: d :: rest)
    else none
  | a :: b :: c :: rest =>
    if a = quote ∧ b = quote then
      if c = quote then some ([quote], rest) else some ([], c :: rest)
    else none
  | a :: b :: rest => if a = quote ∧ b = quote then some ([], rest) else none
  | _ => none

/-- Puts a character in front of what is read after it. -/
def emit (c : Char) : Option (List Char × List Char) → Option (List Char × List Char) :=
  Option.map fun (s, rest) => (c :: s, rest)

/-- Reads the characters of a string with escapes up to its end. -/
def escapedBody (lines : Bool) : StringPhase → List Char → Option (List Char × List Char)
  | _, [] => none
  | .plain _, '"' :: cs =>
    if lines then
      match closing? '"' cs with
      | some found => some found
      | none => emit '"' (escapedBody lines (.plain false) cs)
    else some ([], cs)
  | .plain _, '\\' :: cs => escapedBody lines .escape cs
  | .plain trimming, '\n' :: cs =>
    if !lines then none
    else if trimming then escapedBody lines (.plain true) cs
    else emit '\n' (escapedBody lines (.plain false) cs)
  | .plain trimming, '\r' :: '\n' :: cs =>
    if !lines then none
    else if trimming then escapedBody lines (.plain true) cs
    else emit '\n' (escapedBody lines (.plain false) cs)
  | .plain trimming, c :: cs =>
    if trimming && isBlank c then escapedBody lines (.plain true) cs
    else if isPlain c then emit c (escapedBody lines (.plain false) cs)
    else none
  | .escape, 'u' :: cs => escapedBody lines (.code 4 0) cs
  | .escape, 'U' :: cs => escapedBody lines (.code 8 0) cs
  | .code left value, c :: cs =>
    match hexValue? c with
    | none => none
    | some h =>
      let n := value * 16 + h
      if left ≤ 1 then
        if n.isValidChar then emit (Char.ofNat n) (escapedBody lines (.plain false) cs) else none
      else escapedBody lines (.code (left - 1) n) cs
  | phase, '\n' :: cs =>
    if lines && (phase = .escape || phase = .escapedLine) then escapedBody lines (.plain true) cs
    else none
  | _, '\r' :: '\n' :: cs => if lines then escapedBody lines (.plain true) cs else none
  | .escape, c :: cs =>
    if lines && isBlank c then escapedBody lines .escapedLine cs
    else
      match shortEscape? c with
      | some e => emit e (escapedBody lines (.plain false) cs)
      | none => none
  | .escapedLine, c :: cs => if isBlank c then escapedBody lines .escapedLine cs else none

/-- Reads the characters of a string without escapes up to its end. -/
def literalBody (lines : Bool) : List Char → Option (List Char × List Char)
  | [] => none
  | '\'' :: cs =>
    if lines then
      match closing? '\'' cs with
      | some found => some found
      | none => emit '\'' (literalBody lines cs)
    else some ([], cs)
  | '\n' :: cs => if lines then emit '\n' (literalBody lines cs) else none
  | '\r' :: '\n' :: cs => if lines then emit '\n' (literalBody lines cs) else none
  | c :: cs => if isPlain c then emit c (literalBody lines cs) else none

/-- A body as a string. -/
def textOf (body : List Char → Option (List Char × List Char)) : Reader String := fun cs => do
  let (s, rest) ← body cs
  return (String.ofList s, rest)

/-- A line end directly behind the opening quotes does not belong to the text. -/
def firstNewline : Reader Unit := newline <|> return ()

def lineString : Reader String
  | '"' :: cs => textOf (escapedBody false (.plain false)) cs
  | '\'' :: cs => textOf (literalBody false) cs
  | _ => none

/-- Reads a string of either kind, of one line or several. -/
def string : Reader String
  | '"' :: '"' :: '"' :: cs => (do firstNewline; textOf (escapedBody true (.plain false))) cs
  | '\'' :: '\'' :: '\'' :: cs => (do firstNewline; textOf (literalBody true)) cs
  | cs => lineString cs

/-! ## 3. Keys -/

/-- How long a dotted key, and how deep a value, must not be. -/
def nestingLimit : Nat := 80

def isBareLetter (c : Char) : Bool := c.isAlphanum || c = '_' || c = '-'

/-- A part of a key that stands without quotes. -/
def bareName : Reader String := fun cs =>
  match cs.takeWhile isBareLetter with
  | [] => none
  | name => some (String.ofList name, cs.dropWhile isBareLetter)

/-- The parts of a dotted key, with the blanks around them. The fuel bounds their number. -/
def keyParts : (fuel : Nat) → Reader (List String)
  | 0 => failure
  | fuel + 1 => do
    blanks
    let name ← lineString <|> bareName
    blanks
    match ← peek with
    | some '.' =>
      expect '.'
      return name :: (← keyParts fuel)
    | _ => return [name]

def key : Reader Key := do
  let parts ← keyParts (nestingLimit - 1)
  match parts.getLast? with
  | some name => return ⟨parts.dropLast, name⟩
  | none => failure

end ClusterKeeper.Toml
