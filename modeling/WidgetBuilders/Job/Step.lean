import WidgetBuilders.Diagnostic
import WidgetBuilders.Job
import WidgetBuilders.Log

/-!
# Steps of a run

A run is a sequence of steps, each of which needs the results of those before it. A step reports and
logs as it goes. One that fails ends the run: it has reported why, or it says why in the groups that
it fails with, which are reported last.
-/

namespace WidgetBuilders.Job

/-- A result, with what was reported and logged on the way to it. -/
structure Step (α : Type) where
  diagnostics : List Diagnostic.Group
  log : List LogRecord
  result : Except (List Diagnostic.Group) α

namespace Step

/-- A step that reports and logs nothing and has a result. -/
def done {α : Type} (value : α) : Step α := ⟨[], [], .ok value⟩

/-- A step that ends the run with a message. -/
def stop {α : Type} (message : String) : Step α := ⟨[], [], .error [[.error message none]]⟩

/-- Logs something before a step. -/
def logging {α : Type} (log : List LogRecord) (step : Step α) : Step α :=
  { step with log := log ++ step.log }

/-- A step and the one after it, which is taken only if the first one has a result. -/
def andThen {α β : Type} (first : Step α) (next : α → Step β) : Step β :=
  match first.result with
  | .error groups => ⟨first.diagnostics, first.log, .error groups⟩
  | .ok value =>
    let second := next value
    ⟨first.diagnostics ++ second.diagnostics, first.log ++ second.log, second.result⟩

end Step

end WidgetBuilders.Job
