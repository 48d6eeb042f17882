import WidgetBuilders.Source
import WidgetBuilders.Text.Joined

/-!
# Helper constructors

A helper constructor is asked for by a list of properties. The function that is generated for it
takes the values of these properties as its parameters and sets them on the new widget. The type of
a property need not be qualified: it is compared with the end of a setter's parameter type.
-/

namespace WidgetBuilders

/-- A property to be set, with its type or the end of its type. -/
structure Property where
  name : String
  type : String
  deriving DecidableEq

/-- The property as it is declared: `text: CharSequence`. -/
def Property.declaration (property : Property) : String :=
  property.name ++ ": " ++ property.type

/-- The properties of one helper constructor, in the order of its parameters. -/
structure HelperSpec where
  properties : List Property
  /-- The line that declares it; none if no file does. -/
  span : Option Span
  deriving DecidableEq

/-- The properties as they are declared, separated by commas. -/
def HelperSpec.parameterList (spec : HelperSpec) : String :=
  Text.commaSeparated (spec.properties.map Property.declaration)

/-- A helper constructor for the widget of a qualified name. -/
structure Declaration where
  widget : String
  spec : HelperSpec
  deriving DecidableEq

/-- The declaration as it is written in a file: `a.B(text: CharSequence)`. -/
def Declaration.line (declaration : Declaration) : String :=
  declaration.widget ++ "(" ++ declaration.spec.parameterList ++ ")"

end WidgetBuilders
