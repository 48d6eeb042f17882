import WidgetBuilders.Options
import WidgetBuilders.Text.LetterCase
import WidgetBuilders.Text.Parts

/-!
# Names of the generated functions

The functions of a widget are named after its simple name with a small first letter. Those of a
tinted widget are named `tinted` and the simple name of its base, and they stand in for the base:
its qualified name, not that of the tinted widget, is their type.
-/

namespace WidgetBuilders

/-- The simple name of the base of a tinted widget; none if the widget is not tinted. -/
def Tint.baseName? (tint : Tint) (widget : Widget) : Option String :=
  match Text.dropLead tint.lead.toList widget.qualifiedName.toList with
  | some (c :: rest) => if tint.lead = "" then none else some (String.ofList (c :: rest))
  | _ => none

/-- The qualified name of a base widget. -/
def Tint.qualify (tint : Tint) (base : String) : String :=
  tint.basePackage ++ "." ++ base

/-- The qualified name of the base of a tinted widget. -/
def Tint.baseOf? (tint : Tint) (widget : Widget) : Option String :=
  (tint.baseName? widget).map tint.qualify

/-- The name of the builder functions of a widget, and of its helper constructors. -/
def Tint.functionName (tint : Tint) (widget : Widget) : String :=
  match tint.baseName? widget with
  | some base => "tinted" ++ base
  | none => Text.decapitalize widget.simpleName

/-- The qualified name by which generated functions refer to a widget: that of its base, if it is
tinted. -/
def Tint.typeOf (tint : Tint) (widget : Widget) : String :=
  (tint.baseOf? widget).getD widget.qualifiedName

end WidgetBuilders
