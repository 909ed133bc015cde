/-!
# Runs of code points

A property of characters is a list of runs: evenly spaced code points, so that alternating capital
and small letters make one run and not many.
-/

namespace SdkForge.Text

/-- The code points `first`, `first + step`, up to `last`. -/
structure CharRun where
  first : Nat
  last : Nat
  step : Nat
  deriving DecidableEq, Repr

/-- Whether the code point lies on the run. -/
def CharRun.holds (run : CharRun) (code : Nat) : Bool :=
  run.first ≤ code && code ≤ run.last && (code - run.first) % run.step == 0

/-- Whether one of the runs holds the character. -/
def inRuns (runs : List CharRun) (c : Char) : Bool :=
  runs.any (·.holds c.toNat)

end SdkForge.Text
