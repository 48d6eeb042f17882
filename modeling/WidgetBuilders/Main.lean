import WidgetBuilders.CommandLine

/-!
# The program

The program asks for the paths that its arguments name, decides everything on the answers, and then
writes the output file, if there is one to write.
-/

namespace WidgetBuilders.Program

/-- Why the operating system refuses something. -/
def faultOf (error : IO.Error) : FileFault :=
  let refused (reason : String) (code : UInt32) : FileFault :=
    match code with
    | 2 => .notFound
    | 20 => .notDirectory
    | 21 => .isDirectory
    | 28 => .noSpace
    | 36 => .nameTooLong
    | _ => .refused reason code.toNat
  match error with
  | .noFileOrDirectory _ code reason | .noSuchThing _ code reason
  | .inappropriateType _ code reason | .resourceExhausted _ code reason
  | .invalidArgument _ code reason | .permissionDenied _ code reason
  | .resourceBusy code reason | .otherError code reason => refused reason code
  | _ => .refused (toString error) 0

/-- What comes of reading a file. -/
def read (path : String) : IO (Except FileFault (List UInt8)) := do
  match ← (do (← IO.FS.Handle.mk path .read).readBinToEnd).toBaseIO with
  | .ok bytes => return .ok bytes.data.toList
  | .error error => return .error (faultOf error)

/-- What comes of writing a file. -/
def write (path : String) (bytes : List UInt8) : IO (Except WriteFault Unit) := do
  match ← (IO.FS.Handle.mk path .write).toBaseIO with
  | .error error => return .error (.opening (faultOf error))
  | .ok handle =>
    match ← (do handle.write ⟨bytes.toArray⟩; handle.flush).toBaseIO with
    | .error error => return .error (.writing (faultOf error))
    | .ok () => return .ok ()

/-- What the program has to know of the files that its arguments name. -/
def survey (arguments : List String) : IO FileTree := do
  let working ← IO.currentDir
  let mut files := FileTree.empty (FileTree.Path.ofText working.toString).names
  for path in CommandLine.inputs arguments do
    files := files.noteFile path (← read path)
  for path in CommandLine.ways arguments do
    files := files.notePassage path (← read (FileTree.passage path))
  return files

/-- Shows what the program has to say, writes what it has made, and answers with the exit status. -/
def finish (arguments : List String) (exit : CommandLine.Exit) : IO UInt32 := do
  IO.print exit.output
  IO.eprint exit.errors
  match CommandLine.written? arguments exit with
  | none => return exit.code.toUInt32
  | some (path, bytes) =>
    match ← write path bytes with
    | .ok () => return 0
    | .error fault =>
      IO.eprint (CommandLine.writeErrors path fault)
      return 1

end WidgetBuilders.Program

/-- Runs the program. -/
def main (arguments : List String) : IO UInt32 := do
  let files ← WidgetBuilders.Program.survey arguments
  WidgetBuilders.Program.finish arguments (WidgetBuilders.CommandLine.run arguments files)
