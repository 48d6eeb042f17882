import WidgetBuilders.Text.Parts

/-!
# Types of the platform as Kotlin writes them

The platform names a type by an element type and a pair of square brackets for each dimension of an
array. Kotlin has names of its own for the eight primitive types and for arrays of them, writes
other arrays with angle brackets, leaves out the package `java.lang`, separates nested classes by
dots, and marks every type that is not primitive as nullable, because the platform may always pass
null.
-/

namespace WidgetBuilders.Kotlin

/-- A type of the platform: an element type and a number of array dimensions. -/
structure PlatformType where
  element : String
  rank : Nat
  deriving DecidableEq

/-- Takes pairs of square brackets off the end of a name that is given last character first. -/
def stripBrackets (rank : Nat) : List Char → PlatformType
  | ']' :: '[' :: rest => stripBrackets (rank + 1) rest
  | reversed => ⟨String.ofList reversed.reverse, rank⟩

/-- The type of a given name. -/
def PlatformType.ofName (name : String) : PlatformType :=
  stripBrackets 0 name.toList.reverse

/-- The Kotlin name of a primitive type. -/
def primitive? (name : String) : Option String :=
  [("boolean", "Boolean"), ("byte", "Byte"), ("char", "Char"), ("short", "Short"), ("int", "Int"),
    ("long", "Long"), ("float", "Float"), ("double", "Double")].lookup name

/-- The name of a class without its package, if that is `java.lang` itself. -/
def withoutLang (name : List Char) : List Char :=
  match Text.dropLead "java.lang.".toList name with
  | some simple => if simple.contains '.' then name else simple
  | none => name

/-- A nullable reference to a class. -/
def reference (name : String) : String :=
  String.ofList ((withoutLang name.toList).map fun c => if c = '$' then '.' else c) ++ "?"

/-- An element type with a number of array dimensions, as Kotlin writes it. -/
def arrayType (element : String) : Nat → String
  | 0 => (primitive? element).getD (reference element)
  | 1 =>
    match primitive? element with
    | some name => name ++ "Array?"
    | none => "Array<" ++ reference element ++ ">?"
  | rank + 2 => "Array<" ++ arrayType element (rank + 1) ++ ">?"

/-- The type as Kotlin writes it. -/
def PlatformType.written (type : PlatformType) : String :=
  arrayType type.element type.rank

/-- The Kotlin form of the type of a given name: `int[]` is `IntArray?`. -/
def typeOf (name : String) : String :=
  (PlatformType.ofName name).written

end WidgetBuilders.Kotlin
