/-!
# The shutdown signal

One signal ends everything that runs for long. It is fired once and stays fired, and whoever looks
at it later still sees it. Work under the signal goes on until it ends by itself or the signal is
fired.

## Main definitions

- `ShutdownSignal`: the signal, and `fire`.
- `ShutdownSignal.watch`: work under the signal.
-/

namespace MeshRegistry

/-- A signal that ends everything that runs. -/
structure ShutdownSignal where
  /-- Whether the signal has been fired. -/
  fired : Bool := false
deriving DecidableEq, Repr

/-- How work under a signal stands. -/
inductive Watched (α : Type) where
  /-- The work has ended with a value. -/
  | ended (a : α)
  /-- The signal has ended the work. -/
  | cancelled
  /-- The work goes on. -/
  | going
deriving DecidableEq, Repr

namespace ShutdownSignal

/-- The signal after it is fired. -/
def fire (_ : ShutdownSignal) : ShutdownSignal := ⟨true⟩

/-- How work stands under a signal, by the value it has ended with, if it has ended. -/
def watch {α : Type} (s : ShutdownSignal) : Option α → Watched α
  | some a => .ended a
  | none => if s.fired then .cancelled else .going

@[simp] theorem fired_fire (s : ShutdownSignal) : s.fire.fired = true := rfl

end ShutdownSignal

end MeshRegistry
