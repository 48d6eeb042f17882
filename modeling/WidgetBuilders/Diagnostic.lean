import WidgetBuilders.Source

/-!
# Diagnostics

A diagnostic is a message for the user, at the place in a file that it is about, if there is one.
Diagnostics are reported in groups. A run has failed exactly when one of its diagnostics is an
error.
-/

namespace WidgetBuilders

/-- How bad a diagnostic is. Only errors make a run fail. -/
inductive Severity
  | error | warning
  deriving DecidableEq

/-- A message for the reader of the report, with the place that it is about, if there is one. -/
structure Diagnostic where
  severity : Severity
  message : String
  span : Option Span
  deriving DecidableEq

namespace Diagnostic

/-- A diagnostic that makes a run fail. -/
def error (message : String) (span : Option Span) : Diagnostic :=
  { severity := .error, message, span }

/-- A diagnostic that does not make a run fail. -/
def warning (message : String) (span : Option Span) : Diagnostic :=
  { severity := .warning, message, span }

/-- The diagnostic makes a run fail. -/
def isError (diagnostic : Diagnostic) : Bool :=
  diagnostic.severity = .error

/-- Diagnostics that are shown together. -/
abbrev Group := List Diagnostic

/-- Some diagnostic in the groups is an error. -/
def anyError (groups : List Group) : Bool :=
  groups.any (·.any isError)

end Diagnostic

end WidgetBuilders
