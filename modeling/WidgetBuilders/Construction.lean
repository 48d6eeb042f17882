import WidgetBuilders.Block
import WidgetBuilders.Constructor
import WidgetBuilders.Factory
import WidgetBuilders.Helper.Registry
import WidgetBuilders.Log
import WidgetBuilders.Naming

/-!
# What is generated for a widget

Before any text is made, it is decided for each widget whether functions are generated for it, and
how it is constructed. A widget has helper constructors if some are declared for it or, if it is
tinted, for its base; they are always looked up for the base of a tinted widget. Then:

* an abstract widget gets nothing;
* a widget that no factory can construct gets nothing, and it is a fault if it has helper
  constructors;
* a widget for which no functions are wanted gets nothing, not even a factory property;
* any other widget is constructed, and the choice here settles its factory expression.
-/

namespace WidgetBuilders

/-- What a generation reads beside the widgets. -/
structure Context where
  options : Options
  registry : Registry
  templates : Templates

/-- Helper constructors are declared for the widget, or for the base of a tinted one. -/
def hasHelpers (tint : Tint) (registry : Registry) (widget : Widget) : Bool :=
  registry.contains widget.qualifiedName
    || ((tint.baseOf? widget).map registry.contains).getD false

/-- Where helper constructors of a widget are declared: the first line for the name under which they
are looked up or, failing that, for its own name. -/
def helperSpan? (tint : Tint) (registry : Registry) (widget : Widget) : Option Span := do
  let specs ← (registry.lookup (tint.typeOf widget)).or (registry.lookup widget.qualifiedName)
  (← specs.head?).span

/-- How a widget is constructed. -/
structure Construction where
  family : Family
  tint : Tint
  widget : Widget
  /-- What the factory passes to the constructor. -/
  arguments : String
  /-- Where to look up the helper constructors; none if there are none to generate. -/
  helpersUnder? : Option String
  deriving DecidableEq

namespace Construction

/-- The name of the plain builder function. -/
def functionName (construction : Construction) : String :=
  construction.tint.functionName construction.widget

/-- The class by which the widget is constructed. -/
def className (construction : Construction) : String :=
  construction.family.className construction.widget.qualifiedName construction.widget.simpleName

/-- The class by which the base of a tinted widget is constructed. -/
def baseClassName? (construction : Construction) : Option String :=
  (construction.tint.baseName? construction.widget).map fun base =>
    construction.family.className (construction.tint.qualify base) base

/-- A call of the chosen constructor of a class. -/
def call (construction : Construction) (className : String) : String :=
  className ++ "(" ++ construction.arguments ++ ")"

/-- The expression that constructs the widget. On an old platform, a tinted widget is replaced by
its base. -/
def expression (construction : Construction) : String :=
  match construction.baseClassName? with
  | none => construction.call construction.className
  | some base =>
    "if (Build.VERSION.SDK_INT < " ++ toString construction.tint.minSdk ++ ") "
      ++ construction.call base ++ " else " ++ construction.call construction.className

/-- The builder functions of the widget. Only containers have them on more than one receiver. -/
def builders (construction : Construction) (flags : Flags) (factory : String) : List Builder :=
  let receivers :=
    if construction.widget.isContainer && flags.topLevel then
      ["ViewManager", "Context", "Activity"]
    else
      ["ViewManager"]
  if flags.views then
    receivers.map fun receiver =>
      { receiver
        functionName := construction.functionName
        className := construction.className
        initReceiver := construction.baseClassName?.getD construction.className
        returnType := construction.tint.typeOf construction.widget
        factory }
  else
    []

end Construction

/-- What is decided for a widget. -/
inductive Plan
  /-- Nothing is generated. -/
  | omit
  /-- Nothing is generated, because no factory can construct the widget. -/
  | unusable
  | fault (fault : Fault)
  | construct (construction : Construction)
  deriving DecidableEq

/-- Decides what is generated for a widget. -/
def plan (context : Context) (family : Family) (widget : Widget) : Plan :=
  let flags := context.options.flags
  let tint := context.options.tint
  let helpersUnder? :=
    if flags.helpers && hasHelpers tint context.registry widget then
      some (tint.typeOf widget)
    else
      none
  if widget.isAbstract then
    .omit
  else
    match widget.arguments?, helpersUnder? with
    | none, none => .unusable
    | none, some key =>
      .fault (.unconstructible widget.qualifiedName key
        (helperSpan? tint context.registry widget))
    | some arguments, helpersUnder? =>
      if flags.views || helpersUnder?.isSome then
        .construct ⟨family, tint, widget, arguments, helpersUnder?⟩
      else
        .omit

end WidgetBuilders
