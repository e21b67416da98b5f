import WormBattle.Error

/-!
# Sampling

Flights, falls and searches are followed by **samples** at equal steps. How many samples cover a
span is fixed beforehand, and a span that would need more than `maxSamples` is refused.
-/

namespace WormBattle

open Scalar

variable {α : Type} [Scalar α]

/-- The largest number of samples that is ever taken of one span. -/
def maxSamples : Nat :=
  1000000

/-- A time is legal when it is finite and not negative. -/
def checkTime (time : α) : Except (Error α) Unit :=
  if !isFinite time || time < 0.0 then .error (.illegalTime time) else .ok ()

/-- A time step is legal when it is finite and positive. -/
def checkTimeStep (step : α) : Except (Error α) Unit :=
  if !isFinite step || step ≤ 0.0 then .error (.illegalTimeStep step) else .ok ()

/-- The number of samples at distance `step` that cover a span, both of its ends included. -/
def sampleCount (span step : α) : Except (Error α) Nat :=
  if !isFinite step || step ≤ 0.0 then .error (.illegalStep step)
  else if !isFinite span || span < 0.0 then .error (.illegalSpan span)
  else
    let count := ceil (span / step) + 1.0
    if (maxSamples : α) < count then .error (.tooManySamples step span)
    else .ok (toNat count)

end WormBattle
