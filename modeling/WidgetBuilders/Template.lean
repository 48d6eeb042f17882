import WidgetBuilders.Fault
import WidgetBuilders.Template.Builtin

/-!
# Templates

The generator keeps its templates by name, and beside them the text of one level of indentation.
Filling a template puts values into it in one pass: values are inserted as they are and never
scanned for placeholders. The key `indent` always has the level of indentation as its value; any
other key has the value of its first binding.
-/

namespace WidgetBuilders

/-- Templates by name, and the text of one level of indentation. -/
structure Templates where
  indent : String
  /-- Names with texts; of two entries with one name, the first one counts. -/
  texts : List (String × String)
  deriving DecidableEq

namespace Templates

/-- The built-in templates with a level of indentation. -/
def builtin (indent : String) : Templates :=
  { indent, texts := Template.builtins }

/-- Adds a template, or replaces the one of that name. -/
def insert (templates : Templates) (name text : String) : Templates :=
  { templates with texts := (name, text) :: templates.texts }

/-- The text of a template, if there is one of that name. -/
def text? (templates : Templates) (name : String) : Option String :=
  templates.texts.lookup name

/-- The value of a key. -/
def value? (templates : Templates) (bindings : List (String × String)) (key : String) :
    Option String :=
  if key = "indent" then some templates.indent else bindings.lookup key

/-- Puts values into the segments of the template `name`, up to the first one that has none. -/
def fill (name : String) (value? : String → Option String) :
    List Template.Segment → Except Fault String
  | [] => .ok ""
  | .literal text :: rest => do return text ++ (← fill name value? rest)
  | .value key :: rest =>
    match value? key with
    | none => .error (.noValue name key)
    | some value => do return value ++ (← fill name value? rest)
  | .unclosed offset :: _ => .error (.unclosedPlaceholder name offset)

/-- The template `name` with its placeholders filled. -/
def render (templates : Templates) (name : String) (bindings : List (String × String)) :
    Except Fault String :=
  match templates.text? name with
  | none => .error (.noTemplate name)
  | some text => fill name (templates.value? bindings) (Template.segments text)

end Templates

end WidgetBuilders
