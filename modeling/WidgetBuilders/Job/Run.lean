import WidgetBuilders.Diagnostic.Layout
import WidgetBuilders.FileTree
import WidgetBuilders.Generation
import WidgetBuilders.Helper.File
import WidgetBuilders.Job.Step
import WidgetBuilders.Template.Override
import WidgetBuilders.Widget.Binary

/-!
# Running a job

A run first reads everything: the linked libraries, the files of helper constructors, the templates.
A linked library that cannot be read ends the run, and so does a faulty template; the files of
helper constructors are all read, so that the faults of all of them are reported, before a fault in
any of them ends the run. Then it generates the file as a whole, and only when that has succeeded it
writes, once. So a run that fails has changed nothing, unless the output file was open by then.

A run fails exactly when it reports an error.
-/

namespace WidgetBuilders

/-- A stream that takes the generated file at its end: the bytes that it holds, which need not be
text. -/
structure OutputStream where
  bytes : List UInt8
  deriving DecidableEq

namespace OutputStream

/-- A stream that holds nothing. -/
def empty : OutputStream := ⟨[]⟩

/-- A stream that holds a text. -/
def ofText (text : String) : OutputStream := ⟨Text.Utf8.encode text⟩

/-- Adds a text at the end. -/
def add (stream : OutputStream) (text : String) : OutputStream :=
  ⟨stream.bytes ++ Text.Utf8.encode text⟩

/-- What a stream holds, as a text for its reader. -/
def shown (stream : OutputStream) : String := Text.Utf8.decodeLossy stream.bytes

/-- A caller who has only text gives the text, and its bytes are what the stream holds. -/
instance : Coe String OutputStream := ⟨ofText⟩

/-- Where a stream is to be read, it is read as text. -/
instance : Coe OutputStream String := ⟨shown⟩

/-- A stream that holds a text is shown as it. -/
theorem shown_ofText (text : String) : (ofText text).shown = text := by
  simp [shown, ofText, Text.Utf8.decodeLossy, Text.Utf8.decode_encode]

end OutputStream

/-- What a run leaves behind. -/
structure Outcome where
  succeeded : Bool
  /-- The output stream. -/
  stream : OutputStream
  files : FileTree
  /-- What was reported, group by group. -/
  diagnostics : List Diagnostic.Group
  log : List LogRecord

namespace Job

/-- The linked libraries, added one after another to a library. -/
def linkAll (library : Library) : List (String × List UInt8) → Step Library
  | [] => .done library
  | (name, bytes) :: rest =>
    match Library.ofBytes bytes with
    | .error fault =>
      .stop ("Failed to import the widget metadata of '" ++ name ++ "': " ++ fault.message)
    | .ok linked =>
      .logging [.debug ("linked '" ++ name ++ "': " ++ toString linked.views.length ++ " views, "
          ++ toString linked.viewGroups.length ++ " view groups")]
        (linkAll (library.append linked) rest)

/-- A registry to which files were added, with what was reported and logged on the way. -/
structure HelperReading where
  registry : Registry
  diagnostics : List Diagnostic.Group
  log : List LogRecord

/-- Adds one file of helper constructors. Each line error and each warning is a group. -/
def readHelperFile (files : FileTree) (registry : Registry) (path : String) : HelperReading :=
  match files.readText path with
  | .error fault =>
    let message := "Could not load the input file '" ++ path ++ "': " ++ fault.message
    ⟨registry, [[.error message none]], []⟩
  | .ok text =>
    match registry.readFile { name := path, text } with
    | .error errors => ⟨registry, errors.map fun error => [error.diagnostic], []⟩
    | .ok (registry, entries) =>
      ⟨registry, (entries.filterMap (·.warning?)).map ([·]), entries.filterMap (·.record?)⟩

/-- Adds files of helper constructors one after another, whether or not one is faulty. -/
def readHelperFiles (files : FileTree) (registry : Registry) : List String → HelperReading
  | [] => ⟨registry, [], []⟩
  | path :: rest =>
    let first := readHelperFile files registry path
    let final := readHelperFiles files first.registry rest
    ⟨final.registry, first.diagnostics ++ final.diagnostics, first.log ++ final.log⟩

/-- The registry with the helper constructors of all files, if none is faulty. -/
def loadRegistry (job : Job) (files : FileTree) : Step Registry :=
  let reading := readHelperFiles files job.registry job.helperFiles
  if Diagnostic.anyError reading.diagnostics then
    ⟨reading.diagnostics, reading.log, .error []⟩
  else
    ⟨reading.diagnostics,
      reading.log
        ++ [.debug (toString reading.registry.size ++ " helper constructor(s) loaded")],
      .ok reading.registry⟩

/-- The built-in templates with the overrides of the template directory. -/
def loadTemplates (job : Job) (files : FileTree) : Step Templates :=
  let builtin := Templates.builtin job.indent
  match job.templateDirectory? with
  | none => .done builtin
  | some directory =>
    let overriding := builtin.overrideFrom files directory
    match overriding.fault? with
    | none => ⟨[], overriding.log, .ok overriding.templates⟩
    | some fault =>
      .logging overriding.log
        (.stop ("Could not load templates from '" ++ directory ++ "': " ++ fault.message))

/-- The complete file. The faults of a generation are one group. -/
def generate (job : Job) (files : FileTree) : Step String :=
  (linkAll job.library job.links).andThen fun library =>
  (job.loadRegistry files).andThen fun registry =>
  (job.loadTemplates files).andThen fun templates =>
    let context := { options := job.options, registry, templates : Context }
    ⟨[], generateLog context library,
      (WidgetBuilders.generate context library).mapError fun report => [report.diagnostics]⟩

/-- Why a file could not be written, as a message. -/
def writeMessage (path : String) : WriteFault → String
  | .opening fault => "Could not open the output file '" ++ path ++ "': " ++ fault.message
  | .writing fault =>
    "I/O error while writing the output file '" ++ path ++ "': " ++ fault.message

/-- What is left after the file was brought to where the job wants it. -/
structure Delivery where
  files : FileTree
  /-- The output stream. -/
  stream : OutputStream
  /-- Why the file did not get there, or not as a whole. -/
  failure? : Option String

/-- Brings the file to where the job wants it. -/
def deliver (job : Job) (files : FileTree) (stream : OutputStream) (code : String) : Delivery :=
  if job.toStream then
    ⟨files, stream.add code, none⟩
  else
    match job.outputFile? with
    | none => ⟨files, stream, some "No output file is specified"⟩
    | some path =>
      let (left, fault?) := files.write path (Text.Utf8.encode code)
      ⟨left, stream, fault?.map (writeMessage path)⟩

/-- Runs a job among some files, with an output stream that may already hold something. -/
def run (job : Job) (files : FileTree) (stream : OutputStream) : Outcome :=
  let step := job.generate files
  match step.result with
  | .error groups => ⟨false, stream, files, step.diagnostics ++ groups, step.log⟩
  | .ok code =>
    let delivery := job.deliver files stream code
    { succeeded := delivery.failure?.isNone
      stream := delivery.stream
      files := delivery.files
      diagnostics := step.diagnostics
        ++ delivery.failure?.toList.map fun message => [.error message none]
      log := step.log }

end Job

namespace Outcome

/-- What a run has reported, as text. -/
def report (outcome : Outcome) : String :=
  Diagnostic.groupsText outcome.diagnostics

/-- The report that the job keeps for its caller; empty if it shows it instead. -/
def kept (outcome : Outcome) (job : Job) : String :=
  if job.keepsDiagnostics then outcome.report else ""

end Outcome

end WidgetBuilders
