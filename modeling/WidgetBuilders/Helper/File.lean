import WidgetBuilders.Diagnostic
import WidgetBuilders.Helper.Grammar
import WidgetBuilders.Helper.Registry
import WidgetBuilders.Log

/-!
# Files of helper constructors

Each line declares one helper constructor, is blank, or is a comment that begins with `#`. A file is
taken as a whole: if any of its lines is malformed or names a property twice, every such line is
reported and the registry stays as it was. Otherwise its declarations are added in order, and each
one that was there before is reported as a warning and left out.
-/

namespace WidgetBuilders

/-- Why a line does not declare a helper constructor. -/
inductive LineFault
  | malformed (fault : SyntaxFault)
  | repeatedProperty (name : String)
  deriving DecidableEq

/-- What is wrong with a line, in words. -/
def LineFault.message : LineFault → String
  | .malformed fault => fault.message
  | .repeatedProperty name => "property `" ++ name ++ "` is specified for multiple times"

/-- A fault and the line it is on. -/
structure LineError where
  fault : LineFault
  span : Span
  deriving DecidableEq

/-- A line at fault is shown as an error at its place. -/
def LineError.diagnostic (error : LineError) : Diagnostic :=
  .error error.fault.message (some error.span)

/-- The first name that stood before, going from left to right. -/
def firstRepeated (seen : List String) : List String → Option String
  | [] => none
  | name :: rest =>
    if seen.contains name then some name else firstRepeated (name :: seen) rest

/-- What a line says. -/
inductive LineReading
  | nothing
  | declares (declaration : Declaration)
  | faulty (error : LineError)
  deriving DecidableEq

namespace LineReading

/-- What the line declares, if it is a faultless declaration. -/
def declaration? : LineReading → Option Declaration
  | .declares declaration => some declaration
  | _ => none

/-- What is wrong with the line, if anything is. -/
def error? : LineReading → Option LineError
  | .faulty error => some error
  | _ => none

end LineReading

/-- Reads one line of a file. -/
def SourceLine.read (file : SourceFile) (line : SourceLine) : LineReading :=
  let content := line.content
  if content.isEmpty || content.head? = some '#' then
    .nothing
  else
    let span := line.span file
    match Grammar.readDeclaration content with
    | .error fault => .faulty { fault := .malformed fault, span }
    | .ok (widget, properties) =>
      match firstRepeated [] (properties.map (·.name)) with
      | some name => .faulty { fault := .repeatedProperty name, span }
      | none => .declares { widget, spec := { properties, span := some span } }

/-- What the lines of a file say, in order. -/
def SourceFile.readings (file : SourceFile) : List LineReading :=
  file.lines.map (SourceLine.read file)

/-- The helper constructors that a file declares. -/
def SourceFile.declarations (file : SourceFile) : List Declaration :=
  file.readings.filterMap LineReading.declaration?

/-- The faults of a file, line by line. -/
def SourceFile.lineErrors (file : SourceFile) : List LineError :=
  file.readings.filterMap LineReading.error?

namespace Registry

/-- The warning about a declaration that was left out. -/
def Entry.warning? : Entry → Option Diagnostic
  | .added _ => none
  | .repeated declaration =>
    some (.warning
      ("helper constructor `" ++ declaration.line ++ "` is declared for multiple times")
      declaration.spec.span)

/-- The record of a declaration that was added. -/
def Entry.record? : Entry → Option LogRecord
  | .added declaration => some (.trace ("helper constructor " ++ declaration.line))
  | .repeated _ => none

/-- Adds the declarations of a file, or gives its faults. -/
def readFile (registry : Registry) (file : SourceFile) :
    Except (List LineError) (Registry × List Entry) :=
  match file.lineErrors with
  | [] => .ok (registry.addAll file.declarations)
  | errors => .error errors

end Registry

end WidgetBuilders
