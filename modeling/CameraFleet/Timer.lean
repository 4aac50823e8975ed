/-!
# Timers

A timer takes a delay of whole milliseconds between a shortest and a longest
one. A delay outside of these bounds is replaced by the shortest, so that a
period that is too long is up at once.
-/

namespace CameraFleet
namespace Timer

/-- The shortest delay, in milliseconds. -/
def shortest : Nat := 1

/-- The longest delay, in milliseconds. -/
def longest : Nat := 2147483647

/-- The delay after which a timer that is set for so many milliseconds is due. -/
def delay (wanted : Nat) : Nat :=
  if shortest ≤ wanted && wanted ≤ longest then wanted else shortest

end Timer
end CameraFleet
