import WidgetBuilders.Sheet

/-!
# Generating a file

The families of a library are generated one after the other, in a fixed order. If any widget of
either family is at fault, the faults of both are reported and there is no file. Otherwise the
`file` template is filled with the texts of both.
-/

namespace WidgetBuilders

/-- The factory object and the functions of the widgets of one family. -/
def renderFamily (context : Context) (family : Family) (widgets : List Widget) :
    Except Report String :=
  (Sheet.ofWidgets context family widgets).result context.templates.indent

/-- What is logged while one family is rendered. -/
def renderFamilyLog (context : Context) (family : Family) (widgets : List Widget) :
    List LogRecord :=
  (Sheet.ofWidgets context family widgets).fullLog

/-- The sheets of all families. -/
def sheets (context : Context) (library : Library) : List Sheet :=
  Family.all.map fun family => .ofWidgets context family (family.widgets library)

/-- The file around the texts of the families. -/
def renderFile (context : Context) (bodies : List String) : Except Fault String :=
  context.templates.render "file"
    [("package", context.options.package), ("body", Text.concat bodies)]

/-- The file for all widgets of a library, or all faults. -/
def generate (context : Context) (library : Library) : Except Report String :=
  let sheets := sheets context library
  match sheets.flatMap (·.faults) with
  | [] => (renderFile context (sheets.map (·.text context.templates.indent))).mapError .ofFault
  | faults => .error ⟨faults⟩

/-- What is logged while a library is generated. -/
def generateLog (context : Context) (library : Library) : List LogRecord :=
  (sheets context library).flatMap Sheet.fullLog

end WidgetBuilders
