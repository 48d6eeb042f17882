import WidgetBuilders.Text.Joined

/-!
# Widgets

A library lists the widgets of a platform: plain views, and groups that hold other views. A widget
is a class with a qualified name such as `android.widget.TextView`; its constructors are lists of
parameter types, in the order in which the class declares them, and so are its methods.
-/

namespace WidgetBuilders

/-- A method with the types of its parameters. -/
structure Method where
  name : String
  parameters : List String
  deriving DecidableEq

/-- The method as it is quoted in messages: `setText(java.lang.CharSequence)`. -/
def Method.signature (method : Method) : String :=
  method.name ++ "(" ++ Text.commaSeparated method.parameters ++ ")"

/-- A class that may be a widget. -/
structure WidgetClass where
  qualifiedName : String
  simpleName : String
  isAbstract : Bool
  constructors : List (List String)
  methods : List Method
  deriving DecidableEq

/-- What stands after the last dot; all of the name if it has none. -/
def lastSegment (name : String) : String :=
  String.ofList (name.toList.reverse.takeWhile (· ≠ '.')).reverse

/-- A concrete class with no members. Its simple name is the last segment of its qualified name. -/
def WidgetClass.named (qualifiedName : String) : WidgetClass where
  qualifiedName
  simpleName := lastSegment qualifiedName
  isAbstract := false
  constructors := []
  methods := []

/-- A widget: its class, and whether it holds other views. -/
structure Widget extends WidgetClass where
  isContainer : Bool
  deriving DecidableEq

/-- The widgets of a platform, in the order in which they are generated. -/
structure Library where
  views : List Widget
  viewGroups : List Widget
  deriving DecidableEq

namespace Library

/-- A library without widgets. -/
def empty : Library := ⟨[], []⟩

/-- The widgets of the second library after those of the first, each kind by itself. -/
def append (first second : Library) : Library :=
  ⟨first.views ++ second.views, first.viewGroups ++ second.viewGroups⟩

end Library

end WidgetBuilders
