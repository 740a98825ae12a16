import HybridGraphics.Decision.Situation

/-!
# Carrying a decision out

The effects of a decision are attempted in order, and one that fails does not
keep the others from being attempted. There is one exception: without its
fragment or its driver, the discrete card cannot be used, so in a PRIME mode the
first such failure makes the run fall back to the integrated card and leave out
what would still enable the discrete one.

`carryOut` is parametric over what attempting an effect and falling back mean,
so what holds of it holds for every pattern of success and failure.
-/

namespace HybridGraphics.Run

variable {m : Type → Type} [Monad m]

/-- Attempts the effects left, `mode` being what was reached so far; the result is the
mode reached in the end. -/
def carryOutFrom (attempt : Effect → m Bool) (fallBack : m Unit) (decided : Mode) :
    Mode → List Effect → m Mode
  | mode, [] => pure mode
  | mode, effect :: rest => do
    -- after the fall back, nothing enables the discrete card any more
    if mode != decided && effect.enablesDiscrete then
      carryOutFrom attempt fallBack decided mode rest
    else if ← attempt effect then
      carryOutFrom attempt fallBack decided mode rest
    else if mode.isPrime && effect.enablesDiscrete then
      fallBack
      carryOutFrom attempt fallBack decided .integratedOnly rest
    else
      carryOutFrom attempt fallBack decided mode rest

/-- Attempts all effects of a decision, and yields the mode reached. -/
def carryOut (attempt : Effect → m Bool) (fallBack : m Unit) (d : Decision) : m Mode :=
  carryOutFrom attempt fallBack d.mode d.mode d.effects

end HybridGraphics.Run
