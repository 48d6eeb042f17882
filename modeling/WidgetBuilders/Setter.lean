import WidgetBuilders.Fault
import WidgetBuilders.Text.LetterCase

/-!
# Setters of properties

A property `text` is set by a method `setText` with one parameter whose type ends with the type of
the property. A helper constructor can be generated if each of its properties has exactly one such
method; otherwise each property that has none, or several, is a fault.
-/

namespace WidgetBuilders

/-- The name of the methods that set a property. -/
def Property.methodName (property : Property) : String :=
  "set" ++ Text.capitalize property.name

/-- The method sets the property. -/
def Property.isSetBy (property : Property) (method : Method) : Bool :=
  method.name = property.methodName
    && match method.parameters with
      | [type] => property.type.toList.isSuffixOf type.toList
      | _ => false

namespace Setter

/-- The methods of a widget that set a property, in the order in which they are declared. -/
def candidates (widget : Widget) (property : Property) : List Method :=
  widget.methods.filter property.isSetBy

/-- The only method of a widget that sets a property of a helper constructor. -/
def find (widget : Widget) (spec : HelperSpec) (property : Property) : Except Fault Method :=
  match candidates widget property with
  | [] => .error (.noSetter widget.qualifiedName property.name property.methodName spec)
  | [method] => .ok method
  | methods => .error (.severalSetters widget.qualifiedName property.methodName spec methods)

/-- The setters of some properties of a helper constructor, in order, or all faults. -/
def findAll (widget : Widget) (spec : HelperSpec) :
    List Property → Except (List Fault) (List Method)
  | [] => .ok []
  | property :: rest =>
    match find widget spec property, findAll widget spec rest with
    | .ok method, .ok methods => .ok (method :: methods)
    | .ok _, .error faults => .error faults
    | .error fault, .ok _ => .error [fault]
    | .error fault, .error faults => .error (fault :: faults)

/-- The setters of all properties of a helper constructor, in order, or all faults. -/
def ofSpec (widget : Widget) (spec : HelperSpec) : Except (List Fault) (List Method) :=
  findAll widget spec spec.properties

end Setter

end WidgetBuilders
