import WidgetBuilders.Diagnostic
import WidgetBuilders.Helper.Spec
import WidgetBuilders.Widget

/-!
# Faults of a generation

The widgets, the registry and the templates may contradict one another. Each contradiction is a
fault, and a generation that meets any fault produces no text: it reports all of them, in the order
in which the widgets stand.
-/

namespace WidgetBuilders

/-- A contradiction between widgets, registry and templates. -/
inductive Fault
  /-- No method sets `property`. -/
  | noSetter (widget property setter : String) (spec : HelperSpec)
  /-- Several methods set one property of `spec`. -/
  | severalSetters (widget setter : String) (spec : HelperSpec) (candidates : List Method)
  /-- The widget has helper constructors, but not under `key`, where they are looked up. -/
  | noSpecs (widget key : String)
  /-- Helper constructors are declared for a widget that cannot be constructed. -/
  | unconstructible (widget key : String) (span : Option Span)
  /-- Two constructions want the same factory property. -/
  | keyTaken (object key existing rejected : String)
  | noTemplate (name : String)
  | noValue (template key : String)
  /-- The placeholder that opens at byte `offset` of the template does not close. -/
  | unclosedPlaceholder (template : String) (offset : Nat)
  deriving DecidableEq

namespace Fault

/-- The fault in words. -/
def message : Fault → String
  | .noSetter widget property setter spec =>
    "can't find a method `" ++ setter ++ "` (for property `" ++ property
      ++ "`) for helper constructor `" ++ widget ++ "(" ++ spec.parameterList ++ ")`"
  | .severalSetters widget setter spec candidates =>
    "there are several methods `" ++ setter ++ "` for helper constructor `" ++ widget
      ++ "(" ++ spec.parameterList ++ ")`: "
      ++ Text.commaSeparated (candidates.map Method.signature)
  | .noSpecs widget key =>
    "helper constructors not found for `" ++ widget ++ "` (looked up as `" ++ key ++ "`)"
  | .unconstructible widget key _ =>
    "helper constructors are declared for `" ++ widget ++ "` (as `" ++ key
      ++ "`), but it has no usable constructor"
  | .keyTaken object key existing rejected =>
    "factory property `" ++ key ++ "` of `" ++ object ++ "` is bound to `" ++ existing
      ++ "` and can't be rebound to `" ++ rejected ++ "`"
  | .noTemplate name => "template `" ++ name ++ "` is not defined"
  | .noValue template key =>
    "template `" ++ template ++ "` refers to `" ++ key ++ "`, which has no value"
  | .unclosedPlaceholder template offset =>
    "template `" ++ template ++ "` has an unterminated placeholder at byte " ++ toString offset

/-- The line of a file that the fault goes back to. -/
def span? : Fault → Option Span
  | .noSetter _ _ _ spec => spec.span
  | .severalSetters _ _ spec _ => spec.span
  | .unconstructible _ _ span => span
  | _ => none

/-- A fault is shown as an error, at the place of the declaration that it is about. -/
def diagnostic (fault : Fault) : Diagnostic :=
  .error fault.message fault.span?

end Fault

/-- The faults of one generation, in the order in which they were found. -/
structure Report where
  faults : List Fault
  deriving DecidableEq

namespace Report

/-- One fault by itself. -/
def ofFault (fault : Fault) : Report := ⟨[fault]⟩

/-- Adds a fault after the others. -/
def push (report : Report) (fault : Fault) : Report :=
  ⟨report.faults ++ [fault]⟩

/-- The faults of the second report after those of the first. -/
def append (first second : Report) : Report :=
  ⟨first.faults ++ second.faults⟩

/-- The value, unless there are faults. -/
def check {α : Type} (report : Report) (value : α) : Except Report α :=
  if report.faults.isEmpty then .ok value else .error report

/-- One fault is told by its message; several are counted and listed. -/
def message (report : Report) : String :=
  match report.faults with
  | [] => "no errors"
  | [fault] => fault.message
  | faults =>
    toString faults.length ++ " errors:"
      ++ Text.concat (faults.map fun fault => "\n - " ++ fault.message)

/-- The group in which the faults are shown. -/
def diagnostics (report : Report) : Diagnostic.Group :=
  report.faults.map Fault.diagnostic

end Report

end WidgetBuilders
