import WidgetBuilders.Helper.Registry
import WidgetBuilders.Options

/-!
# Jobs

A job says what a run reads, what it makes of it, and where the result goes. It is put together by
settings, one after another. Widget libraries and files of helper constructors add up, each kind in
the order in which it was given; of all other settings, the last one of a kind counts.
-/

namespace WidgetBuilders

/-- One decision about a run. -/
inductive Setting
  /-- Widgets in binary form, under a name for messages. They come after all loaded widgets. -/
  | link (name : String) (bytes : List UInt8)
  /-- Widgets that are loaded already. -/
  | widgets (library : Library)
  /-- The registry to which the helper constructors of files are added. -/
  | registry (registry : Registry)
  /-- A file of helper constructors. -/
  | helperFile (path : String)
  /-- A directory of templates that take the place of built-in ones. -/
  | templateDirectory (path : String)
  | outputFile (path : String)
  /-- The result is added to a stream instead of being written to a file. -/
  | outputStream
  /-- Diagnostics are kept for the caller instead of being shown. -/
  | keepDiagnostics
  | artifact (name : String)
  | package (name : String)
  | indent (text : String)
  | flags (flags : Flags)
  | tint (tint : Tint)
  deriving DecidableEq

/-- What to generate a file from, where to put it, and how. Whatever adds up is in the order in
which it was given. -/
structure Job where
  library : Library
  /-- Linked libraries: names and binary forms. -/
  links : List (String × List UInt8)
  registry : Registry
  helperFiles : List String
  templateDirectory? : Option String
  outputFile? : Option String
  toStream : Bool
  keepsDiagnostics : Bool
  options : Options
  /-- One level of indentation, if it is not the usual one. -/
  indent? : Option String
  deriving DecidableEq

namespace Job

/-- A job with nothing to read and nowhere to write. -/
def blank : Job where
  library := .empty
  links := []
  registry := .empty
  helperFiles := []
  templateDirectory? := none
  outputFile? := none
  toStream := false
  keepsDiagnostics := false
  options := .standard
  indent? := none

/-- The job after one more setting. -/
def set (job : Job) : Setting → Job
  | .link name bytes => { job with links := job.links ++ [(name, bytes)] }
  | .widgets library => { job with library := job.library.append library }
  | .registry registry => { job with registry }
  | .helperFile path => { job with helperFiles := job.helperFiles ++ [path] }
  | .templateDirectory path => { job with templateDirectory? := some path }
  | .outputFile path => { job with outputFile? := some path }
  | .outputStream => { job with toStream := true }
  | .keepDiagnostics => { job with keepsDiagnostics := true }
  | .artifact artifact => { job with options := { job.options with artifact } }
  | .package package => { job with options := { job.options with package } }
  | .indent text => { job with indent? := some text }
  | .flags flags => { job with options := { job.options with flags } }
  | .tint tint => { job with options := { job.options with tint } }

/-- The job that a sequence of settings describes. -/
def ofSettings (settings : List Setting) : Job :=
  settings.foldl set blank

/-- One level of indentation; four spaces unless set. -/
def indent (job : Job) : String :=
  job.indent?.getD "    "

end Job

end WidgetBuilders
