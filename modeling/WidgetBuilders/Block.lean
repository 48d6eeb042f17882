import WidgetBuilders.Builder
import WidgetBuilders.Helper.Functions

/-!
# Blocks of functions

Functions are generated in blocks: the builder functions of a widget on one receiver, or the two
functions of one helper constructor. A block keeps what its text was made from, so that its names
and types can be told without reading the text.
-/

namespace WidgetBuilders

/-- Functions that are generated together. -/
inductive Functions
  | builders (builder : Builder)
  | helpers (functions : HelperFunctions)
  deriving DecidableEq

namespace Functions

/-- The expression that refers to the factory of the widget that the functions construct. -/
def factory : Functions → String
  | .builders builder => builder.factory
  | .helpers functions => functions.factory

/-- The type that the functions return. -/
def returnType : Functions → String
  | .builders builder => builder.returnType
  | .helpers functions => functions.type

/-- The receiver of the init block. -/
def initReceiver : Functions → String
  | .builders builder => builder.initReceiver
  | .helpers functions => functions.type

end Functions

/-- Functions and their text. -/
structure Block where
  functions : Functions
  text : String
  deriving DecidableEq

namespace Block

/-- The blocks of builders, up to the first that cannot be filled in. -/
def ofBuilders (templates : Templates) : List Builder → Except Fault (List Block)
  | [] => .ok []
  | builder :: rest => do
    let text ← builder.render templates
    let blocks ← ofBuilders templates rest
    return ⟨.builders builder, text⟩ :: blocks

/-- The block of a helper constructor, indented from `level` on. -/
def ofHelpers (indent : String) (level : Nat) (functions : HelperFunctions) : Block :=
  ⟨.helpers functions, functions.text indent level⟩

end Block

end WidgetBuilders
