/-!
# Points in time

A point in time is a number of seconds since the epoch, which is negative before it, and of
nanoseconds after that second. A clock gives the distance from the epoch instead, so `ofClock` turns
a distance back in time into the second before it.

Sums, differences and negatives have to stay in the range of their words. Where one does not, the
program stops; such a step gives nothing here. A word that is taken for a signed one wraps around.
-/

namespace SdkForge.Server

/-- The nanoseconds of a second. -/
def nanosPerSecond : UInt32 := 1000000000

/-! ## Words -/

/-- The sum of two numbers, if it has a word. -/
def sum? (x y : UInt64) : Option UInt64 :=
  if x.toNat + y.toNat < UInt64.size then some (x + y) else none

/-- The difference of two numbers, if it has a word. -/
def difference? (x y : UInt32) : Option UInt32 := if y ≤ x then some (x - y) else none

/-- The negative of a number, if it has a word. -/
def negative? (x : Int64) : Option Int64 := if x = Int64.minValue then none else some (-x)

/-! ## Distances -/

/-- A span of time. -/
structure Distance where
  secs : UInt64
  nanos : UInt32 := 0
  deriving DecidableEq, Repr

namespace Distance

/-- A span of seconds and nanoseconds, where whole seconds may be among the nanoseconds. -/
def ofParts? (secs : UInt64) (nanos : UInt32) : Option Distance := do
  return ⟨← sum? secs (nanos / nanosPerSecond).toUInt64, nanos % nanosPerSecond⟩

/-- One span after the other. -/
def add? (a b : Distance) : Option Distance := do
  ofParts? (← sum? a.secs b.secs) (a.nanos + b.nanos)

end Distance

/-- What a clock shows: how far a time lies from the epoch. -/
inductive ClockTime where
  | since (d : Distance)
  | before (d : Distance)
  deriving DecidableEq, Repr

/-- Whether a computer can keep the time: its seconds, taken down to a whole second, are a signed
number. -/
def ClockTime.isKept : ClockTime → Bool
  | .since d => d.secs.toNat < 9223372036854775808
  | .before d =>
    d.secs.toNat < 9223372036854775808 || (d.secs.toNat == 9223372036854775808 && d.nanos == 0)

/-- The whole seconds of what a clock shows. Before the epoch, a time between two seconds belongs to
the earlier one. -/
def ClockTime.wholeSecs? : ClockTime → Option UInt64
  | .since d => some d.secs
  | .before d => if d.nanos = 0 then some d.secs else (d.add? { secs := 1 }).map (·.secs)

/-! ## Points in time -/

/-- A point in time. -/
structure DateTime where
  secs : Int64
  /-- Nanoseconds after the second. -/
  nanos : UInt32 := 0
  deriving DecidableEq, Inhabited, Repr

namespace DateTime

/-- The start of a second. -/
def ofSecs (secs : Int64) : DateTime := ⟨secs, 0⟩

/-- The point in time with some nanoseconds, which are less than a second. -/
def ofSecsAndNanos? (secs : Int64) (nanos : UInt32) : Option DateTime :=
  if nanos < nanosPerSecond then some ⟨secs, nanos⟩ else none

/-- The point in time that a clock shows. -/
def ofClock (time : ClockTime) : Option DateTime := do
  let secs := (← time.wholeSecs?).toInt64
  match time with
  | .since d => return ⟨secs, d.nanos⟩
  | .before d =>
    if d.nanos = 0 then return ofSecs (← negative? secs)
    else return ⟨← negative? secs, ← difference? nanosPerSecond d.nanos⟩

/-- Earlier points in time come first. -/
def order : DateTime → DateTime → Ordering :=
  compareLex (compareOn DateTime.secs) (compareOn DateTime.nanos)

instance : Ord DateTime := ⟨order⟩

end DateTime

end SdkForge.Server
