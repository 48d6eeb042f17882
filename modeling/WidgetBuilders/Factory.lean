import WidgetBuilders.Fault
import WidgetBuilders.Options
import WidgetBuilders.Text.Words

/-!
# Factory objects

A factory object has one property for each widget: a function that constructs the widget from a
context. The property is named after the widget's functions, in constant case, so two widgets may
want the same property. They share it if they are constructed by the same expression; otherwise the
one that came later is rejected.

Properties are declared in the order in which they were bound, and they are found by their keys: the
object keeps an index of the places where its entries stand.
-/

namespace WidgetBuilders

/-- A property of a factory object: `val KEY = …`. -/
structure FactoryEntry where
  key : String
  /-- The expression that constructs the widget from `ctx`. -/
  expression : String
  deriving DecidableEq

/-- The keys of entries with the places where the entries stand, counted from zero. -/
def FactoryEntry.places (entries : List FactoryEntry) : List (String × Nat) :=
  entries.zipIdx.map fun (entry, place) => (entry.key, place)

/-- A new last entry gets the place after all others, which keep theirs. -/
theorem FactoryEntry.places_append_singleton (entries : List FactoryEntry) (entry : FactoryEntry) :
    places (entries ++ [entry]) = places entries ++ [(entry.key, entries.length)] := by
  simp [places, List.zipIdx_append]

/-- A factory object and its properties, in the order in which they were bound. -/
structure Factory where
  name : String
  entries : List FactoryEntry
  /-- The place of each key among the entries. -/
  index : List (String × Nat) := FactoryEntry.places entries
  indexed : index = FactoryEntry.places entries := by rfl
  deriving DecidableEq

/-- The name of the factory property for functions of a given name: `textView` has `TEXT_VIEW`. -/
def Factory.keyOf (functionName : String) : String :=
  Text.constantCase (Text.capitalize functionName)

namespace Factory

/-- The name of the factory object of a family in an artifact. -/
def objectName (artifact : String) (family : Family) : String :=
  "`$$Anko$$Factories$$" ++ Text.pascalCase artifact ++ family.suffix ++ "`"

/-- A factory object without properties. -/
def empty (name : String) : Factory := { name, entries := [] }

/-- The object with one more entry, and its key in the index. -/
def push (factory : Factory) (entry : FactoryEntry) : Factory where
  name := factory.name
  entries := factory.entries ++ [entry]
  index := factory.index ++ [(entry.key, factory.entries.length)]
  indexed := by rw [factory.indexed, FactoryEntry.places_append_singleton]

/-- The expression to which a property is bound. -/
def expression? (factory : Factory) (key : String) : Option String := do
  let place ← factory.index.lookup key
  let entry ← factory.entries[place]?
  return entry.expression

/-- The expression that refers to a property. -/
def reference (object key : String) : String :=
  object ++ "." ++ key

/-- Binds the property for functions of the given name, unless it is bound to another expression.
With the object comes a reference to the property. -/
def bind (factory : Factory) (functionName expression : String) :
    Except Fault (Factory × String) :=
  let key := keyOf functionName
  match factory.expression? key with
  | none =>
    .ok (factory.push ⟨key, expression⟩, reference factory.name key)
  | some existing =>
    if existing = expression then
      .ok (factory, reference factory.name key)
    else
      .error (.keyTaken factory.name key existing expression)

/-- The declaration of the object, and an empty line. An object without properties is not
declared. -/
def declaration (factory : Factory) (indent : String) : String :=
  match factory.entries with
  | [] => ""
  | entries =>
    "object " ++ factory.name ++ " \x7b\n"
      ++ Text.concat (entries.map fun entry =>
          indent ++ "val " ++ entry.key ++ " = \x7b ctx: Context -> " ++ entry.expression
            ++ " \x7d\n")
      ++ "\x7d\n\n"

end Factory

end WidgetBuilders
