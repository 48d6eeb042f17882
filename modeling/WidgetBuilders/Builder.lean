import WidgetBuilders.Template
import WidgetBuilders.Text.LetterCase

/-!
# Builder functions

A widget has builder functions on `ViewManager`; a container may have them on `Context` and
`Activity` too. The functions on one receiver are the `view` template, filled with the names and
types that a builder holds.
-/

namespace WidgetBuilders

/-- The builder functions of one widget on one receiver. -/
structure Builder where
  receiver : String
  functionName : String
  /-- The class by which the widget is constructed. -/
  className : String
  /-- The receiver of the init block. -/
  initReceiver : String
  returnType : String
  /-- The expression that refers to the widget's factory. -/
  factory : String
  deriving DecidableEq

namespace Builder

/-- The name of the functions that take a theme. -/
def themedFunctionName (builder : Builder) : String :=
  "themed" ++ Text.capitalize builder.functionName

/-- The values of the placeholders. -/
def bindings (builder : Builder) : List (String × String) :=
  [ ("receiver", builder.receiver),
    ("functionName", builder.functionName),
    ("themedFunctionName", builder.themedFunctionName),
    ("className", builder.className),
    ("lambdaArgType", builder.initReceiver),
    ("returnType", builder.returnType),
    ("factory", builder.factory) ]

/-- The text of the functions. -/
def render (templates : Templates) (builder : Builder) : Except Fault String :=
  templates.render "view" builder.bindings

end Builder

end WidgetBuilders
