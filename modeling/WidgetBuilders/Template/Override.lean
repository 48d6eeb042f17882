import WidgetBuilders.FileTree
import WidgetBuilders.Log
import WidgetBuilders.Template

/-!
# Templates from a directory

A directory may hold a file `NAME.kt.tmpl` for each built-in template; it takes the place of the
template. The files are loaded in the order of the built-in templates, and the first that cannot be
read ends the loading; templates that were replaced by then stay replaced.
-/

namespace WidgetBuilders.Templates

/-- The file that overrides a template. -/
def overridePath (directory name : String) : String :=
  FileTree.join directory (name ++ ".kt.tmpl")

/-- Templates after some overrides, and the fault that ended the loading. -/
structure Overriding where
  templates : Templates
  log : List LogRecord
  fault? : Option FileFault

/-- Loads overrides of the given templates. -/
def loadEach (templates : Templates) (files : FileTree) (directory : String) :
    List String → Overriding
  | [] => ⟨templates, [], none⟩
  | name :: rest =>
    let path := overridePath directory name
    if files.isFile path then
      let record := .debug ("overriding template `" ++ name ++ "` with " ++ path)
      match files.readText path with
      | .error fault => ⟨templates, [record], some fault⟩
      | .ok text =>
        let final := (templates.insert name text).loadEach files directory rest
        { final with log := record :: final.log }
    else
      templates.loadEach files directory rest

/-- Loads all overrides that a directory holds. -/
def overrideFrom (templates : Templates) (files : FileTree) (directory : String) : Overriding :=
  templates.loadEach files directory Template.builtinNames

end WidgetBuilders.Templates
