import WidgetBuilders.Helper.Spec
import WidgetBuilders.Kotlin.Layout
import WidgetBuilders.Kotlin.Type
import WidgetBuilders.Widget

/-!
# Helper functions

A helper constructor is generated as two functions on `ViewManager`. Both take a theme and the
values of the properties, construct the widget and set the properties in the order in which they are
declared; the second one takes an init block as well and runs it before that.
-/

namespace WidgetBuilders

/-- A property with the method that sets it. -/
structure Assignment where
  property : String
  setter : Method
  deriving DecidableEq

namespace Assignment

/-- The type of the values: that of the setter's parameter. -/
def type (assignment : Assignment) : String :=
  Kotlin.typeOf (assignment.setter.parameters.headD "")

/-- The parameter that takes the value: `text: CharSequence?`. -/
def parameter (assignment : Assignment) : String :=
  assignment.property ++ ": " ++ assignment.type

/-- The call that sets the property: `setText(text)`. -/
def call (assignment : Assignment) : String :=
  assignment.setter.name ++ "(" ++ assignment.property ++ ")"

end Assignment

/-- The two functions of one helper constructor. -/
structure HelperFunctions where
  functionName : String
  /-- The type that the functions return; it is the receiver of the init block, too. -/
  type : String
  /-- The expression that refers to the widget's factory. -/
  factory : String
  assignments : List Assignment
  deriving DecidableEq

namespace HelperFunctions

/-- The functions that set the properties of `spec` with the given setters. -/
def ofSetters (functionName type factory : String) (spec : HelperSpec) (setters : List Method) :
    HelperFunctions :=
  { functionName, type, factory
    assignments := List.zipWith (fun property setter => ⟨property.name, setter⟩)
      spec.properties setters }

/-- The parameters that take the values of the properties. -/
def parameters (functions : HelperFunctions) : String :=
  Text.commaSeparated (functions.assignments.map Assignment.parameter)

/-- The beginning of both functions, up to the values of the properties. -/
def head (functions : HelperFunctions) : String :=
  "inline fun ViewManager." ++ functions.functionName ++ "(theme: Int = 0, "
    ++ functions.parameters

/-- The call that constructs the widget, up to the brace of its block. -/
def construction (functions : HelperFunctions) : String :=
  "return ankoView(" ++ functions.factory ++ ", theme) \x7b"

/-- The lines of the first function, without indentation. -/
def plainLines (functions : HelperFunctions) : List String :=
  [functions.head ++ "): " ++ functions.type ++ " \x7b", functions.construction]
    ++ functions.assignments.map Assignment.call
    ++ ["\x7d", "\x7d"]

/-- The lines of the second function, without indentation. -/
def initLines (functions : HelperFunctions) : List String :=
  [ functions.head ++ ", init: " ++ functions.type ++ ".() -> Unit): " ++ functions.type
      ++ " \x7b",
    functions.construction, "init()" ]
    ++ functions.assignments.map Assignment.call
    ++ ["\x7d", "\x7d"]

/-- The lines of both functions. -/
def lines (functions : HelperFunctions) : List String :=
  functions.plainLines ++ functions.initLines

/-- Both functions, laid out from a given level on, and an empty line. -/
def text (indent : String) (level : Nat) (functions : HelperFunctions) : String :=
  Kotlin.layout indent level functions.lines ++ "\n"

end HelperFunctions

end WidgetBuilders
