import DesignMetrics.Log.Event

/-!
# Values with a report

Computations that report events, in the order in which they run.
-/

namespace DesignMetrics.Log

/-- A value and the events that were reported on the way to it. -/
structure Logged (α : Type) where
  value : α
  events : List Event := []

namespace Logged

instance : Monad Logged where
  pure value := ⟨value, []⟩
  bind x f := ⟨(f x.value).value, x.events ++ (f x.value).events⟩

/-- Reports events. -/
def report (events : List Event) : Logged Unit := ⟨(), events⟩

end Logged
end DesignMetrics.Log
