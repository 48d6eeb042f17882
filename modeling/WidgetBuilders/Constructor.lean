import WidgetBuilders.Widget

/-!
# Constructors that a factory can call

A factory has a context and nothing else, so it can call a constructor that takes a context, one
that takes attributes as well, and one that takes a default style after these. Of the constructors
that a class declares it calls the first of these three.
-/

namespace WidgetBuilders

/-- A parameter for which a factory has an argument. -/
inductive Parameter
  | context | attributes | style
  deriving DecidableEq

namespace Parameter

/-- The type of a parameter, as the platform names it. -/
def type : Parameter → String
  | .context => "android.content.Context"
  | .attributes => "android.util.AttributeSet"
  | .style => "int"

/-- What a factory passes: its context, no attributes, no style. -/
def argument : Parameter → String
  | .context => "ctx"
  | .attributes => "null"
  | .style => "0"

end Parameter

/-- The constructors that a factory can call, the preferred one first. -/
def callableConstructors : List (List Parameter) :=
  [[.context], [.context, .attributes], [.context, .attributes, .style]]

/-- The constructor of the class that a factory calls, if there is one. -/
def WidgetClass.callable? (c : WidgetClass) : Option (List Parameter) :=
  callableConstructors.find? fun parameters => c.constructors.contains (parameters.map (·.type))

/-- The arguments that a factory passes to the constructor that it calls. -/
def WidgetClass.arguments? (c : WidgetClass) : Option String :=
  c.callable?.map fun parameters => Text.commaSeparated (parameters.map (·.argument))

end WidgetBuilders
