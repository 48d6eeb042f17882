import WidgetBuilders.FileTree.Survey
import WidgetBuilders.Job.Run

/-!
# The command line

The program takes the name of an artifact, a widget library in binary form, a file of helper
constructors and the file to write. It answers with an exit status and with what it shows on the
standard error stream; on the standard output it shows nothing.

What it has to ask for before it can do so, and what of its work is left to be written after that,
is known from the arguments.
-/

namespace WidgetBuilders.CommandLine

/-- What the program leaves behind. -/
structure Exit where
  /-- The exit status. -/
  code : Nat
  /-- What is shown on the standard output. -/
  output : String
  /-- What is shown on the standard error stream. -/
  errors : String
  files : FileTree

/-- What is shown if the number of arguments is another one. -/
def usage : String := "Usage: viewdslgen ARTIFACT WIDGETS.bin HELPERS.txt OUTPUT.kt\n"

/-- The job of a command line whose widgets have been read. -/
def job (artifact widgetsPath : String) (widgets : List UInt8) (helpersPath outputPath : String) :
    Job :=
  .ofSettings
    [ .artifact artifact, .link widgetsPath widgets, .helperFile helpersPath,
      .outputFile outputPath ]

/-- Runs the program with some arguments among some files. -/
def run (arguments : List String) (files : FileTree) : Exit :=
  match arguments with
  | [artifact, widgetsPath, helpersPath, outputPath] =>
    match files.read widgetsPath with
    | .error fault =>
      { code := 1, output := ""
        errors := "Could not read the widget metadata '" ++ widgetsPath ++ "': " ++ fault.message
          ++ "\n"
        files }
    | .ok widgets =>
      let outcome := (job artifact widgetsPath widgets helpersPath outputPath).run files .empty
      { code := if outcome.succeeded then 0 else 1
        output := ""
        errors := outcome.report
        files := outcome.files }
  | _ => { code := 1, output := "", errors := usage, files }

/-- The files that the program reads. -/
def inputs : List String → List String
  | [_, widgetsPath, helpersPath, _] => [widgetsPath, helpersPath]
  | _ => []

/-- The file that the program writes. -/
def output? : List String → Option String
  | [_, _, _, outputPath] => some outputPath
  | _ => none

/-- The paths that the program goes through on the way to its files. -/
def ways (arguments : List String) : List String :=
  (inputs arguments ++ (output? arguments).toList).flatMap FileTree.ways

/-- The output file of a program that has succeeded, with all its bytes. -/
def written? (arguments : List String) (exit : Exit) : Option (String × List UInt8) :=
  match exit.code, output? arguments with
  | 0, some path => (exit.files.read path).toOption.map fun bytes => (path, bytes)
  | _, _ => none

/-- What is shown when the output file could not be written. -/
def writeErrors (path : String) (fault : WriteFault) : String :=
  Diagnostic.groupText [.error (Job.writeMessage path fault) none]

end WidgetBuilders.CommandLine
