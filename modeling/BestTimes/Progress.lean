import BestTimes.Event
import BestTimes.Registry
set_option autoImplicit false

/-!
# Work on a registry

Reading and comparing change a registry step by step, tell about it in the log, and
may end in a fault.  What was done before the fault stays done, so the result of
such work is the registry it leaves, the events, and how it ended.

Work is put together with `andThen`: the second part starts with the registry the
first one leaves, and is not reached after a fault.
-/

namespace BestTimes

/-- What work on a registry leaves behind. -/
structure Progress (α : Type) where
  registry : Registry
  events : List Event
  outcome : Except Fault α

namespace Progress

variable {α β : Type}

/-- No work, with a result. -/
def done (registry : Registry) (a : α) : Progress α := ⟨registry, [], .ok a⟩

/-- No work, ending in a fault. -/
def stop (registry : Registry) (fault : Fault) : Progress α := ⟨registry, [], .error fault⟩

/-- The work with events in front. -/
def after (events : List Event) (p : Progress α) : Progress α :=
  ⟨p.registry, events ++ p.events, p.outcome⟩

/-- The work, and then what follows from its result. -/
def andThen (p : Progress α) (next : Registry → α → Progress β) : Progress β :=
  match p.outcome with
  | .ok a => (next p.registry a).after p.events
  | .error fault => ⟨p.registry, p.events, .error fault⟩

theorem registry_andThen (p : Progress α) (next : Registry → α → Progress β) :
    (p.andThen next).registry =
      match p.outcome with
      | .ok a => (next p.registry a).registry
      | .error _ => p.registry := by
  unfold andThen
  cases p.outcome with
  | ok a => rfl
  | error fault => rfl

theorem events_andThen (p : Progress α) (next : Registry → α → Progress β) :
    (p.andThen next).events =
      match p.outcome with
      | .ok a => p.events ++ (next p.registry a).events
      | .error _ => p.events := by
  unfold andThen
  cases p.outcome with
  | ok a => rfl
  | error fault => rfl

theorem outcome_andThen (p : Progress α) (next : Registry → α → Progress β) :
    (p.andThen next).outcome =
      match p.outcome with
      | .ok a => (next p.registry a).outcome
      | .error fault => .error fault := by
  unfold andThen
  cases p.outcome with
  | ok a => rfl
  | error fault => rfl

end Progress

end BestTimes
