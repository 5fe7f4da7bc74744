import TaskMessaging.Diagnostics.Listener
import TaskMessaging.TaskSystem.Delivery

/-!
# Feeds

A task system together with the listener that taps it: whatever an operation delivers is published
to the clients before the next operation begins.
-/

namespace TaskMessaging

/-- A tapped system and its listener. -/
structure DiagnosticFeed where
  system : TaskSystem
  listener : DiagnosticListener

namespace DiagnosticFeed

/-- Hands what the tap holds over to the listener. -/
def publish (f : DiagnosticFeed) : DiagnosticFeed :=
  ⟨f.system.drainTap.2, f.listener.recordAll (f.system.drainTap.1.getD [])⟩

/-- Operates on the system and publishes what was delivered. -/
def operate (f : DiagnosticFeed) (operation : TaskSystem → α × TaskSystem) : α × DiagnosticFeed :=
  ((operation f.system).1, publish ⟨(operation f.system).2, f.listener⟩)

/-- Records that come from elsewhere are published as well. -/
def record (f : DiagnosticFeed) (rs : List MessageRecord) : DiagnosticFeed :=
  { f with listener := f.listener.recordAll rs }

/-- The listener has no say in what an operation answers. -/
theorem operate_fst (f : DiagnosticFeed) (operation : TaskSystem → α × TaskSystem) :
    (f.operate operation).1 = (operation f.system).1 := rfl

end DiagnosticFeed

end TaskMessaging
