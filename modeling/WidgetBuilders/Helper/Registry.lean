import WidgetBuilders.Helper.Spec

/-!
# The registry of helper constructors

The registry keeps declarations in the order in which they came. Only the order of the declarations
of one widget can ever be seen: a lookup gives them, and a widget without declarations is unknown.

A declaration from a file is not added when its widget already has a helper constructor with the
same properties. One that is inserted directly always is.
-/

namespace WidgetBuilders

/-- The declared helper constructors, the earliest first. -/
structure Registry where
  declarations : List Declaration
  deriving DecidableEq

namespace Registry

/-- A registry without declarations. -/
def empty : Registry := ⟨[]⟩

/-- Adds a helper constructor after all others. -/
def insert (registry : Registry) (widget : String) (spec : HelperSpec) : Registry :=
  ⟨registry.declarations ++ [⟨widget, spec⟩]⟩

/-- The helper constructors of a widget, the earliest first. -/
def specsOf (registry : Registry) (widget : String) : List HelperSpec :=
  (registry.declarations.filter (·.widget = widget)).map (·.spec)

/-- The helper constructors of a widget that has some. -/
def lookup (registry : Registry) (widget : String) : Option (List HelperSpec) :=
  match registry.specsOf widget with
  | [] => none
  | specs => some specs

/-- The widget has helper constructors. -/
def contains (registry : Registry) (widget : String) : Bool :=
  registry.declarations.any (·.widget = widget)

/-- The number of helper constructors of all widgets. -/
def size (registry : Registry) : Nat :=
  registry.declarations.length

/-- Nothing is declared. -/
def isEmpty (registry : Registry) : Bool :=
  registry.declarations.isEmpty

/-- The widget already has a helper constructor with the properties of this one. -/
def holds (registry : Registry) (declaration : Declaration) : Bool :=
  (registry.specsOf declaration.widget).any (·.properties = declaration.spec.properties)

/-- What became of a declaration from a file. -/
inductive Entry
  | added (declaration : Declaration)
  | repeated (declaration : Declaration)
  deriving DecidableEq

/-- Adds the declarations of a file in order, leaving out those that the registry holds by then. -/
def addAll (registry : Registry) : List Declaration → Registry × List Entry
  | [] => (registry, [])
  | declaration :: rest =>
    if registry.holds declaration then
      let final := registry.addAll rest
      (final.1, .repeated declaration :: final.2)
    else
      let final := (registry.insert declaration.widget declaration.spec).addAll rest
      (final.1, .added declaration :: final.2)

/-- The helper constructors of a widget are those that are declared under its name. -/
theorem mem_specsOf {registry : Registry} {widget : String} {spec : HelperSpec} :
    spec ∈ registry.specsOf widget ↔ ⟨widget, spec⟩ ∈ registry.declarations := by
  simp only [specsOf, List.mem_map, List.mem_filter, decide_eq_true_eq]
  constructor
  · rintro ⟨declaration, ⟨member, rfl⟩, rfl⟩
    exact member
  · intro member
    exact ⟨_, ⟨member, rfl⟩, rfl⟩

/-- What a lookup finds is all that is declared under the name. -/
theorem eq_specsOf_of_lookup {registry : Registry} {widget : String} {specs : List HelperSpec}
    (found : registry.lookup widget = some specs) : specs = registry.specsOf widget := by
  unfold lookup at found
  split at found
  · cases found
  · exact (Option.some.inj found).symm

/-- An insertion adds to the helper constructors of its own widget, at their end, and to no
other's. -/
theorem specsOf_insert (registry : Registry) (widget name : String) (spec : HelperSpec) :
    (registry.insert widget spec).specsOf name =
      registry.specsOf name ++ if widget = name then [spec] else [] := by
  by_cases same : widget = name <;> simp [specsOf, insert, same]

/-- A lookup finds something exactly for the widgets that have helper constructors. -/
theorem contains_eq_isSome_lookup (registry : Registry) (widget : String) :
    registry.contains widget = (registry.lookup widget).isSome := by
  simp only [contains, lookup, specsOf]
  induction registry.declarations with
  | nil => rfl
  | cons declaration rest ih =>
    by_cases same : declaration.widget = widget <;> simp [same, ih]

end Registry

end WidgetBuilders
