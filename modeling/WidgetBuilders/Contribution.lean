import WidgetBuilders.Construction
import WidgetBuilders.Setter

/-!
# What one widget contributes

Once a widget has its factory property, its functions are made from the widget itself, the reference
to the property, what the generation reads, and the level at which the text before them ends. The
builder functions come first, one block for each receiver, and then one block for each helper
constructor. A helper constructor whose setters cannot be found leaves its faults in place of the
block.

Helper functions are laid out line by line, each line from the level that the one before it leaves.
Builder functions come laid out from their template; they leave the level alone.
-/

namespace WidgetBuilders

/-- Blocks of functions, the level that they leave, and what was found on the way to them. -/
structure Contribution where
  blocks : List Block
  /-- The level of what comes after the blocks. -/
  level : Nat
  faults : List Fault
  log : List LogRecord
  deriving DecidableEq

namespace Contribution

/-- A contribution of nothing, at the level that was reached before. -/
def empty (level : Nat) : Contribution := ⟨[], level, [], []⟩

/-- A contribution and the one after it. -/
def append (first second : Contribution) : Contribution :=
  { blocks := first.blocks ++ second.blocks
    level := second.level
    faults := first.faults ++ second.faults
    log := first.log ++ second.log }

end Contribution

namespace Construction

/-- The builder functions. A template that cannot be filled is one fault, however many receivers
there are. -/
def builderContribution (context : Context) (construction : Construction) (factory : String)
    (level : Nat) : Contribution :=
  match Block.ofBuilders context.templates
      (construction.builders context.options.flags factory) with
  | .ok blocks => ⟨blocks, level, [], []⟩
  | .error fault => ⟨[], level, [fault], []⟩

/-- The functions of one helper constructor. -/
def helperFunctions (construction : Construction) (factory : String) (spec : HelperSpec)
    (setters : List Method) : HelperFunctions :=
  .ofSetters construction.functionName (construction.tint.typeOf construction.widget) factory
    spec setters

/-- One helper constructor, in a text indented from `level` on. -/
def specContribution (indent : String) (construction : Construction) (factory : String)
    (level : Nat) (spec : HelperSpec) : Contribution :=
  match Setter.ofSpec construction.widget spec with
  | .error faults => ⟨[], level, faults, []⟩
  | .ok setters =>
    let functions := construction.helperFunctions factory spec setters
    { blocks := [.ofHelpers indent level functions]
      level := Kotlin.levelAfter level functions.lines
      faults := []
      log := [.debug ("helper constructor " ++ construction.functionName ++ "("
        ++ spec.parameterList ++ ")")] }

/-- Helper constructors one after another, each from the level that the one before it leaves. -/
def specContributions (indent : String) (construction : Construction) (factory : String) :
    Nat → List HelperSpec → Contribution
  | level, [] => .empty level
  | level, spec :: rest =>
    let first := construction.specContribution indent factory level spec
    first.append (construction.specContributions indent factory first.level rest)

/-- The helper constructors that are found under a key. -/
def helperContribution (context : Context) (construction : Construction) (factory key : String)
    (level : Nat) : Contribution :=
  match context.registry.lookup key with
  | none => ⟨[], level, [.noSpecs construction.widget.qualifiedName key], []⟩
  | some specs =>
    construction.specContributions context.templates.indent factory level specs

/-- All that the widget contributes, from `level` on, when its factory property is referred to by
`factory`. -/
def contribution (context : Context) (construction : Construction) (factory : String)
    (level : Nat) : Contribution :=
  let builders := construction.builderContribution context factory level
  match construction.helpersUnder? with
  | none => builders
  | some key =>
    builders.append (construction.helperContribution context factory key builders.level)

end Construction

end WidgetBuilders
