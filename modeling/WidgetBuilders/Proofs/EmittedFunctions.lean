import WidgetBuilders.Block
import WidgetBuilders.Proofs.Indentation
import WidgetBuilders.Proofs.TemplateFilling

/-!
# The functions that a block declares

A block is kept with what its text was made from, and its text is made in two ways: a template is
filled, or lines are laid out by their braces. This module says once what both come to. A block
declares functions in paragraphs; each paragraph is a function with an init block, and without one,
and ends with an empty line. Some functions construct the widget themselves, by a call of `ankoView`
with the widget's factory. The others, which have only a builder function's parameters, call the
function beside them with an init block that does nothing.

Builder functions are described only as the built-in template writes them. Another template may
declare anything.
-/

namespace WidgetBuilders

open Template

/-- What a function does. -/
inductive FunctionBody
  /-- It calls the function of the same name that takes an init block as well. -/
  | delegates (arguments : String)
  /-- It constructs the widget and runs the init block. -/
  | initializes (factory theme : String)
  /-- It constructs the widget and runs these statements. -/
  | constructs (factory : String) (statements : List String)
  deriving DecidableEq

/-- One function as it is declared. -/
structure EmittedFunction where
  receiver : String
  name : String
  parameters : String
  returnType : String
  body : FunctionBody
  deriving DecidableEq

namespace EmittedFunction

/-- What the function passes to `ankoView` as its first argument, if it calls it. -/
def factory? (function : EmittedFunction) : Option String :=
  match function.body with
  | .delegates _ => none
  | .initializes factory _ => some factory
  | .constructs factory _ => some factory

/-- The function up to its body. -/
def header (function : EmittedFunction) : String :=
  "inline fun " ++ function.receiver ++ "." ++ function.name ++ "(" ++ function.parameters ++ "): "
    ++ function.returnType

/-- The text of the function at a level of indentation. -/
def written (indent : String) (level : Nat) (function : EmittedFunction) : String :=
  let margin (deeper : Nat) : String := Text.repeated (level + deeper) indent
  margin 0 ++ function.header
    ++ match function.body with
      | .delegates arguments => " = " ++ function.name ++ "(" ++ arguments ++ ") \x7b\x7d\n"
      | .initializes factory theme =>
        " \x7b\n" ++ margin 1 ++ "return ankoView(" ++ factory ++ ", " ++ theme
          ++ ") \x7b init() \x7d\n" ++ margin 0 ++ "\x7d\n"
      | .constructs factory statements =>
        " \x7b\n" ++ margin 1 ++ "return ankoView(" ++ factory ++ ", theme) \x7b\n"
          ++ Text.concat (statements.map fun statement => margin 2 ++ statement ++ "\n")
          ++ margin 1 ++ "\x7d\n" ++ margin 0 ++ "\x7d\n"

/-- The characters of a header, part by part. -/
theorem toList_header (function : EmittedFunction) :
    function.header.toList = "inline fun ".toList ++ function.receiver.toList ++ ".".toList
      ++ function.name.toList ++ "(".toList ++ function.parameters.toList ++ "): ".toList
      ++ function.returnType.toList := by
  unfold header
  simp only [String.toList_append]

end EmittedFunction

/-- The builder functions on one receiver, first without a theme and then with one. -/
def Builder.paragraphs (builder : Builder) : List (List EmittedFunction) :=
  let init : String := "init: " ++ builder.initReceiver ++ ".() -> Unit"
  [ [ ⟨builder.receiver, builder.functionName, "", builder.returnType, .delegates ""⟩,
      ⟨builder.receiver, builder.functionName, init, builder.returnType,
        .initializes builder.factory "theme = 0"⟩ ],
    [ ⟨builder.receiver, builder.themedFunctionName, "theme: Int = 0", builder.returnType,
        .delegates "theme"⟩,
      ⟨builder.receiver, builder.themedFunctionName, "theme: Int = 0, " ++ init,
        builder.returnType, .initializes builder.factory "theme"⟩ ] ]

/-- One of the two functions of a helper constructor, with more parameters after the values. -/
def HelperFunctions.function (functions : HelperFunctions) (more : String)
    (statements : List String) : EmittedFunction where
  receiver := "ViewManager"
  name := functions.functionName
  parameters := "theme: Int = 0, " ++ functions.parameters ++ more
  returnType := functions.type
  body := .constructs functions.factory statements

/-- The two functions of a helper constructor. -/
def HelperFunctions.paragraphs (functions : HelperFunctions) : List (List EmittedFunction) :=
  let calls : List String := functions.assignments.map Assignment.call
  [ [ functions.function "" calls,
      functions.function (", init: " ++ functions.type ++ ".() -> Unit") ("init()" :: calls) ] ]

namespace Functions

/-- The functions, paragraph by paragraph. An empty line comes after each paragraph. -/
def paragraphs : Functions → List (List EmittedFunction)
  | .builders builder => builder.paragraphs
  | .helpers functions => functions.paragraphs

/-- All functions of a block. -/
def emitted (functions : Functions) : List EmittedFunction :=
  functions.paragraphs.flatten

/-- The paragraphs of a block, with an empty line after each. -/
def written (indent : String) (level : Nat) (functions : Functions) : String :=
  Text.concat (functions.paragraphs.map fun paragraph =>
    Text.concat (paragraph.map (EmittedFunction.written indent level)) ++ "\n")

/-- A function passes a factory to `ankoView`: by itself, or through another function of the block
that has the same name and the same receiver. -/
def Passes (functions : Functions) (function : EmittedFunction) (factory : String) : Prop :=
  ∃ target ∈ functions.emitted, target.factory? = some factory ∧
    (target = function ∨
      (∃ arguments, function.body = .delegates arguments) ∧ target.name = function.name ∧
        target.receiver = function.receiver)

end Functions

/-! ## Builder functions -/

/-- The built-in template, filled for a builder. -/
def Builder.texts (indent : String) (builder : Builder) : List String :=
  [ "inline fun ", builder.receiver, ".", builder.functionName, "(): ", builder.returnType,
    " = ", builder.functionName, "() \x7b\x7d\ninline fun ", builder.receiver, ".",
    builder.functionName, "(init: ", builder.initReceiver, ".() -> Unit): ",
    builder.returnType, " \x7b\n", indent, "return ankoView(", builder.factory,
    ", theme = 0) \x7b init() \x7d\n\x7d\n\ninline fun ", builder.receiver, ".",
    builder.themedFunctionName, "(theme: Int = 0): ", builder.returnType, " = ",
    builder.themedFunctionName, "(theme) \x7b\x7d\ninline fun ", builder.receiver, ".",
    builder.themedFunctionName, "(theme: Int = 0, init: ", builder.initReceiver,
    ".() -> Unit): ", builder.returnType, " \x7b\n", indent, "return ankoView(",
    builder.factory, ", theme) \x7b init() \x7d\n\x7d\n\n" ]

/-- What a template makes of a builder is the text of its four functions. -/
theorem Builder.concat_texts (indent : String) (builder : Builder) :
    Text.concat (builder.texts indent) = (Functions.builders builder).written indent 0 := by
  -- The template cuts its text at the placeholders, the functions cut it elsewhere.
  apply String.toList_injective
  simp [texts, Functions.written, Functions.paragraphs, paragraphs, EmittedFunction.written,
    EmittedFunction.toList_header, Text.concat, Text.repeated, List.replicate]

/-- The built-in template can be filled for every builder. -/
theorem Builder.render_of_builtin {templates : Templates}
    (builtin : templates.text? "view" = some (Template.written viewPieces)) (builder : Builder) :
    builder.render templates = .ok ((Functions.builders builder).written templates.indent 0) := by
  rw [← builder.concat_texts, Builder.render, Templates.render, builtin]
  dsimp only
  rw [fill_written viewPieces_plain]
  apply fillPieces_eq_ok
  rfl

/-! ## Helper functions -/

open Kotlin

namespace HelperFunctions

/-- The header of a function is the head that all functions of the helper constructor share, and
what differs. -/
theorem function_header (functions : HelperFunctions) (more : String) (statements : List String) :
    (functions.function more statements).header =
      functions.head ++ (more ++ "): " ++ functions.type) := by
  apply String.toList_injective
  unfold head
  simp [EmittedFunction.toList_header, function]

/-- A function that runs plain statements is laid out by its braces. -/
theorem function_written (functions : HelperFunctions) (more : String) {statements : List String}
    (plain : ∀ line ∈ statements, closes line = false ∧ opens line = false)
    (indent : String) (level : Nat) :
    (functions.function more statements).written indent level = layout indent level
      ([functions.head ++ (more ++ "): " ++ functions.type) ++ " \x7b", functions.construction]
        ++ statements ++ ["\x7d", "\x7d"]) := by
  obtain ⟨headUnclosed, headOpened⟩ := functions.head_line (more ++ "): " ++ functions.type)
  obtain ⟨unclosed, opened⟩ := functions.construction_line
  rw [layout_nested headUnclosed headOpened unclosed opened plain, EmittedFunction.written,
    function_header]
  apply String.toList_injective
  unfold construction
  simp [function]

/-- Both functions are laid out as they are described. -/
theorem text_eq_written {functions : HelperFunctions} (named : functions.SettersNamed)
    (indent : String) (level : Nat) :
    functions.text indent level = (Functions.helpers functions).written indent level := by
  have balanced : levelAfter level functions.plainLines = level := plainLines_balanced named level
  have initCalls := calls_plain named
  have plainCalls : ∀ line ∈ functions.assignments.map Assignment.call,
      closes line = false ∧ opens line = false :=
    fun line member => initCalls line (List.mem_cons_of_mem _ member)
  rw [text, lines, layout_append, balanced, plainLines_eq, initLines_eq]
  simp only [Functions.written, Functions.paragraphs, paragraphs, List.map_cons, List.map_nil,
    Text.concat, function_written functions _ plainCalls, function_written functions _ initCalls,
    String.append_empty]

end HelperFunctions

end WidgetBuilders
