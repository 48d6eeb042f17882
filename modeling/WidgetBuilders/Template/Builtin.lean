import WidgetBuilders.Template.Piece

/-!
# The built-in templates

One template makes the builder functions of a widget for one receiver, the other one makes the file
around all functions. Both are Kotlin text.
-/

namespace WidgetBuilders.Template

/-- Four functions: with and without a theme, and each of these with and without an init block. -/
def viewPieces : List Piece :=
  [ .literal "inline fun ", .placeholder " receiver ", .literal ".",
    .placeholder " functionName ", .literal "(): ", .placeholder " returnType ",
    .literal " = ", .placeholder " functionName ", .literal "() \x7b\x7d\ninline fun ",
    .placeholder " receiver ", .literal ".", .placeholder " functionName ",
    .literal "(init: ", .placeholder " lambdaArgType ", .literal ".() -> Unit): ",
    .placeholder " returnType ", .literal " \x7b\n", .placeholder " indent ",
    .literal "return ankoView(", .placeholder " factory ",
    .literal ", theme = 0) \x7b init() \x7d\n\x7d\n\ninline fun ",
    .placeholder " receiver ", .literal ".", .placeholder " themedFunctionName ",
    .literal "(theme: Int = 0): ", .placeholder " returnType ", .literal " = ",
    .placeholder " themedFunctionName ", .literal "(theme) \x7b\x7d\ninline fun ",
    .placeholder " receiver ", .literal ".", .placeholder " themedFunctionName ",
    .literal "(theme: Int = 0, init: ", .placeholder " lambdaArgType ",
    .literal ".() -> Unit): ", .placeholder " returnType ", .literal " \x7b\n",
    .placeholder " indent ", .literal "return ankoView(", .placeholder " factory ",
    .literal ", theme) \x7b init() \x7d\n\x7d\n\n" ]

/-- The package, the imports that the functions need, and the functions. -/
def filePieces : List Piece :=
  [ .literal "@file:JvmName(\"ViewsKt\")\npackage ", .placeholder " package ",
    .literal "\n\nimport android.app.Activity\nimport android.content.Context\n",
    .literal "import android.os.Build\nimport android.view.ViewManager\n",
    .literal "import org.jetbrains.anko.custom.ankoView\n\n",
    .placeholder " body ", .literal "\n" ]

/-- The names of the built-in templates, in the order in which overrides are loaded. -/
def builtinNames : List String := ["view", "file"]

/-- The built-in templates with their texts. -/
def builtins : List (String × String) :=
  [("view", written viewPieces), ("file", written filePieces)]

end WidgetBuilders.Template
