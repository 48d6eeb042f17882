import WidgetBuilders.Helper.Spec
import WidgetBuilders.Text.Alphabetic
import WidgetBuilders.Text.Numeric

/-!
# The grammar of a declaration

A declaration is a qualified name and, in round brackets, one or more properties separated by
commas; a property is a name, a colon and a type. Blank characters may stand around every name and
sign.

    android.widget.TextView(text: CharSequence, textColor: int)

A name begins with a letter, an underscore or a dollar sign and goes on with these and with numeric
characters. A qualified name is made of names with dots between them; types are qualified names. The
bracket that opens the list is the first one on the line, and the one that closes it is the last
one.
-/

namespace WidgetBuilders

/-- Why a line is not a declaration. A line is looked at from the outside in: brackets, what follows
them, the widget's name, and then the properties from left to right. The first fault counts. -/
inductive SyntaxFault
  | noOpeningBracket
  | noClosingBracket
  | trailingText
  | badWidgetName (name : String)
  | noProperty
  | noColon (property : String)
  | badPropertyName (name : String)
  | badTypeName (name : String)
  deriving DecidableEq

/-- What does not fit the grammar, in words. -/
def SyntaxFault.message : SyntaxFault → String
  | .noOpeningBracket => "expected `(` after the widget name"
  | .noClosingBracket => "expected `)` at the end of the property list"
  | .trailingText => "unexpected text after `)`"
  | .badWidgetName name => "`" ++ name ++ "` is not a valid qualified class name"
  | .noProperty => "a helper constructor must have at least one property"
  | .noColon property => "expected `name: Type`, found `" ++ property ++ "`"
  | .badPropertyName name => "`" ++ name ++ "` is not a valid property name"
  | .badTypeName name => "`" ++ name ++ "` is not a valid type name"

namespace Grammar

open Text

/-- The character may begin a name. -/
def beginsName (c : Char) : Bool :=
  isAlphabetic c || c = '_' || c = '$'

/-- The character may stand in a name after the first. -/
def continuesName (c : Char) : Bool :=
  isAlphabetic c || isNumeric c || c = '_' || c = '$'

/-- The text is a name: a character that a name begins with, and any that continue it. -/
def isName : List Char → Bool
  | [] => false
  | c :: rest => beginsName c && rest.all continuesName

/-- The text is made of names with dots between them. -/
def isQualifiedName (text : List Char) : Bool :=
  (partsAt '.' text).all isName

/-- Reads one property. -/
def readProperty (text : List Char) : Except SyntaxFault Property :=
  match cutFirst ':' text with
  | none => .error (.noColon (String.ofList (trimmed text)))
  | some (before, after) =>
    let name := trimmed before
    let type := trimmed after
    if !isName name then .error (.badPropertyName (String.ofList name))
    else if !isQualifiedName type then .error (.badTypeName (String.ofList type))
    else .ok { name := String.ofList name, type := String.ofList type }

/-- Reads properties up to the first that is faulty. -/
def readProperties : List (List Char) → Except SyntaxFault (List Property)
  | [] => .ok []
  | text :: rest => do
    let property ← readProperty text
    let properties ← readProperties rest
    return property :: properties

/-- Reads a declaration: the widget's name and its properties. -/
def readDeclaration (text : List Char) : Except SyntaxFault (String × List Property) :=
  match cutFirst '(' text with
  | none => .error .noOpeningBracket
  | some (before, inner) =>
    match cutLast ')' inner with
    | none => .error .noClosingBracket
    | some (list, after) =>
      let widget := trimmed before
      let list := trimmed list
      if !(trimmed after).isEmpty then .error .trailingText
      else if !isQualifiedName widget then .error (.badWidgetName (String.ofList widget))
      else if list.isEmpty then .error .noProperty
      else (readProperties (partsAt ',' list)).map (String.ofList widget, ·)

end Grammar

end WidgetBuilders
