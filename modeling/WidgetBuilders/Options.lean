import WidgetBuilders.Widget

/-!
# What to generate

The options say which functions are wanted, how the factory objects and the package are named, and
which widgets are tinted: a tinted widget is a drop-in variant of a base widget for newer platforms.
Its qualified name is a fixed beginning followed by the simple name of its base.
-/

namespace WidgetBuilders

/-- Which functions are generated. -/
structure Flags where
  /-- Builder functions of widgets. -/
  views : Bool
  /-- Helper constructors. -/
  helpers : Bool
  /-- Builder functions of containers for contexts and activities. -/
  topLevel : Bool
  deriving DecidableEq

/-- Everything is generated. -/
def Flags.all : Flags := ⟨true, true, true⟩

/-- Which widgets are tinted, and what their bases are. -/
structure Tint where
  /-- How the qualified name of every tinted widget begins. If empty, no widget is tinted. -/
  lead : String
  /-- The package of the base widgets. -/
  basePackage : String
  /-- The platform version from which the tinted widget takes the place of its base. -/
  minSdk : Nat
  deriving DecidableEq

/-- The support library in which tinted widgets are found, unless another one is given. -/
def Tint.standard : Tint where
  lead := "android.support.v7.widget.AppCompat"
  basePackage := "android.widget"
  minSdk := 21

/-- How the file is generated, apart from its input. -/
structure Options where
  flags : Flags
  /-- The name of the artifact, after which the factory objects are named. -/
  artifact : String
  /-- The package of the generated file. -/
  package : String
  tint : Tint
  deriving DecidableEq

/-- The options that hold where none are given. -/
def Options.standard : Options where
  flags := .all
  artifact := "sdk15"
  package := "org.jetbrains.anko"
  tint := .standard

/-- A family of widgets. Each family has its own factory object. -/
inductive Family
  /-- Views, which are constructed and referred to by their qualified names. -/
  | view
  /-- Groups, which are constructed through subclasses with an underscore before their name. -/
  | viewGroup
  deriving DecidableEq

namespace Family

/-- The families in the order in which they are generated. -/
def all : List Family := [.view, .viewGroup]

/-- How the name of the family's factory object ends. -/
def suffix : Family → String
  | .view => "View"
  | .viewGroup => "ViewGroup"

/-- The class by which a widget is constructed. -/
def className : Family → (qualifiedName simpleName : String) → String
  | .view, qualifiedName, _ => qualifiedName
  | .viewGroup, _, simpleName => "_" ++ simpleName

/-- The widgets of the family. -/
def widgets : Family → Library → List Widget
  | .view, library => library.views
  | .viewGroup, library => library.viewGroups

end Family

end WidgetBuilders
