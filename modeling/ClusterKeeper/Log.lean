import ClusterKeeper.Member
import ClusterKeeper.Duration
import ClusterKeeper.Text.Character

/-!
# `Log.lean` — log records

A record has a level, a message, named fields whose values are texts, and the spans within which
it was made, the outermost first. How a value becomes a field is part of the record's format:
names stand for themselves, lists and sets of names show each name's kind and quote it, and a
duration is shown in the largest unit of which it has at least one.
-/

set_option autoImplicit false

namespace ClusterKeeper

inductive LogLevel
  | trace
  | debug
  | info
  | warn
  | error
  deriving DecidableEq, Repr, Inhabited

abbrev LogFields := List (String × String)

/-- A stretch of an activity to which log records are attributed. -/
structure LogSpan where
  name : String
  fields : LogFields
  deriving DecidableEq, Repr, Inhabited

structure LogRecord where
  level : LogLevel
  message : String
  fields : LogFields
  spans : List LogSpan
  deriving DecidableEq, Repr, Inhabited

namespace LogRecord

/-- The record as it looks from outside a span in which it was made. -/
def within (span : LogSpan) (r : LogRecord) : LogRecord := { r with spans := span :: r.spans }

end LogRecord

/-! ## Fields -/

namespace NameKind

/-- What fields call a name of this kind. -/
def title : NameKind → String
  | node => "NodeId"
  | task => "TaskId"
  | host => "Host"

end NameKind

/-- A name with its kind, quoted. -/
def Identifier.shown {kind : NameKind} (i : Identifier kind) : String :=
  kind.title ++ "(" ++ Text.quoted i.text ++ ")"

def shownList {kind : NameKind} (is : List (Identifier kind)) : String :=
  "[" ++ ", ".intercalate (is.map Identifier.shown) ++ "]"

def shownSet {kind : NameKind} (is : OrderedSet (Identifier kind)) : String :=
  "\x7b" ++ ", ".intercalate (is.toList.map Identifier.shown) ++ "\x7d"

namespace Duration

/-- The digits of `part / 10 ^ places`, without zeros at the end. -/
def fractionDigits (part places : Nat) : List Char :=
  let digits := Nat.toDigits 10 part
  let padded := List.replicate (places - digits.length) '0' ++ digits
  (padded.reverse.dropWhile (· = '0')).reverse

/-- A whole number of units and a fraction with so many places. -/
def shownIn (unit : String) (whole part places : Nat) : String :=
  let fraction := fractionDigits part places
  toString whole ++ (if fraction.isEmpty then "" else "." ++ String.ofList fraction) ++ unit

def shown (d : Duration) : String :=
  if 0 < d.seconds then shownIn "s" d.seconds d.subsecond 9
  else if 1000000 ≤ d.subsecond then shownIn "ms" (d.subsecond / 1000000) (d.subsecond % 1000000) 6
  else if 1000 ≤ d.subsecond then shownIn "µs" (d.subsecond / 1000) (d.subsecond % 1000) 3
  else toString d.subsecond ++ "ns"

end Duration

end ClusterKeeper
