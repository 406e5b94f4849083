import ClusterKeeper.Duration

/-!
# `Duration/Unit.lean` — the units in which people write durations

A unit has names, a size, and a scale in which its multiples are counted: the small ones count
nanoseconds, the others whole seconds. A month is a twelfth of a year and a year is 365.25 days,
both in whole seconds.

Multiples are computed in 64-bit words, and a fraction of a unit has to come out whole in the
scale of its unit: half a day is 43200 seconds, but a thousandth of a year is no whole number of
seconds and is refused.
-/

set_option autoImplicit false

namespace ClusterKeeper

inductive TimeUnit
  | nanosecond
  | microsecond
  | millisecond
  | second
  | minute
  | hour
  | day
  | week
  | month
  | year
  deriving DecidableEq, Repr, Inhabited

namespace TimeUnit

def all : List TimeUnit :=
  [nanosecond, microsecond, millisecond, second, minute, hour, day, week, month, year]

/-- Every spelling that is read as this unit. Case matters: `m` is a minute, `M` a month. -/
def names : TimeUnit → List String
  | nanosecond => ["nanos", "nsec", "ns"]
  | microsecond => ["usec", "us", "µs"]
  | millisecond => ["millis", "msec", "ms"]
  | second => ["seconds", "second", "secs", "sec", "s"]
  | minute => ["minutes", "minute", "min", "mins", "m"]
  | hour => ["hours", "hour", "hr", "hrs", "h"]
  | day => ["days", "day", "d"]
  | week => ["weeks", "week", "wk", "wks", "w"]
  | month => ["months", "month", "M"]
  | year => ["years", "year", "yr", "yrs", "y"]

def ofName? (name : String) : Option TimeUnit := all.find? (fun u => u.names.contains name)

/-- The size of a unit that is shorter than a second, in nanoseconds; of the others, in seconds. -/
def size : TimeUnit → Nat
  | nanosecond => 1
  | microsecond => 1000
  | millisecond => 1000000
  | second => 1
  | minute => 60
  | hour => 3600
  | day => 86400
  | week => 604800
  | month => 2630016
  | year => 31557600

/-- Whether multiples of the unit are counted in nanoseconds. -/
def isShort : TimeUnit → Bool
  | nanosecond | microsecond | millisecond => true
  | _ => false

/-- The seconds and nanoseconds of `n` units. -/
def multiple? (u : TimeUnit) (n : Nat) : Option (Nat × Nat) :=
  (word? (n * u.size)).map fun x => if u.isShort then (0, x) else (x, 0)

/-- `numerator / denominator` units as a whole number of `scale`-ths, if it is one. -/
def exactPart? (numerator denominator scale : Nat) : Option Nat :=
  match word? (numerator * scale) with
  | some x => if x % denominator = 0 then some (x / denominator) else none
  | none => none

/-- The seconds and nanoseconds of a fraction of the unit. A fraction of a second or a minute is
counted in nanoseconds, of longer units in seconds, and a nanosecond has no fraction. -/
def fraction? (u : TimeUnit) (numerator denominator : Nat) : Option (Nat × Nat) :=
  match u with
  | nanosecond => none
  | microsecond | millisecond => (exactPart? numerator denominator u.size).map ((0, ·))
  | second | minute =>
    (exactPart? numerator denominator (u.size * nanosPerSecond)).map ((0, ·))
  | _ => (exactPart? numerator denominator u.size).map ((·, 0))

end TimeUnit

end ClusterKeeper
