import WidgetBuilders.Contribution

/-!
# The sheet of a family

The widgets of a family are taken in order. A widget that is constructed binds its factory property
and contributes its functions; a widget whose property is bound to another expression contributes
only that fault. If there are any faults at the end, the family has no text; otherwise its text is
the factory object followed by all functions.
-/

namespace WidgetBuilders

/-- What the widgets of a family have added up to. -/
structure Sheet where
  factory : Factory
  blocks : List Block
  /-- The level at which the blocks end. -/
  level : Nat
  faults : List Fault
  log : List LogRecord
  deriving DecidableEq

namespace Sheet

/-- A sheet before the first widget. -/
def blank (context : Context) (family : Family) : Sheet :=
  ⟨.empty (Factory.objectName context.options.artifact family), [], 0, [], []⟩

/-- Adds what a widget contributes. -/
def add (sheet : Sheet) (contribution : Contribution) : Sheet :=
  { sheet with
    blocks := sheet.blocks ++ contribution.blocks
    level := contribution.level
    faults := sheet.faults ++ contribution.faults
    log := sheet.log ++ contribution.log }

/-- The record of a property that is about to be bound for the first time. -/
def bindingLog (factory : Factory) (construction : Construction) : List LogRecord :=
  let key := Factory.keyOf construction.functionName
  match factory.expression? key with
  | none =>
    [.trace (Factory.reference factory.name key ++ " = " ++ construction.expression)]
  | some _ => []

/-- Binds the property of a construction and adds its functions, or the fault that it meets. -/
def construct (context : Context) (sheet : Sheet) (construction : Construction) : Sheet :=
  let tinted := (construction.tint.baseName? construction.widget).isSome
  let log :=
    .trace (construction.widget.qualifiedName ++ " → " ++ construction.functionName
      ++ " (tinted: " ++ toString tinted ++ ")")
      :: bindingLog sheet.factory construction
  match sheet.factory.bind construction.functionName construction.expression with
  | .error fault => sheet.add ⟨[], sheet.level, [fault], log⟩
  | .ok (factory, reference) =>
    let bound := { sheet with factory }.add ⟨[], sheet.level, [], log⟩
    bound.add (construction.contribution context reference bound.level)

/-- Takes one more widget. -/
def take (context : Context) (family : Family) (sheet : Sheet) (widget : Widget) : Sheet :=
  match plan context family widget with
  | .omit => sheet
  | .unusable =>
    sheet.add ⟨[], sheet.level, [], [.warn ("`" ++ widget.qualifiedName
      ++ "` has no usable constructor; no functions will be generated for it")]⟩
  | .fault fault => sheet.add ⟨[], sheet.level, [fault], []⟩
  | .construct construction => sheet.construct context construction

/-- The sheet of the widgets of a family. -/
def ofWidgets (context : Context) (family : Family) (widgets : List Widget) : Sheet :=
  widgets.foldl (take context family) (blank context family)

/-- The factory object and all functions. -/
def text (indent : String) (sheet : Sheet) : String :=
  sheet.factory.declaration indent ++ Text.concat (sheet.blocks.map (·.text))

/-- The text of the family, or all faults. -/
def result (indent : String) (sheet : Sheet) : Except Report String :=
  Report.check ⟨sheet.faults⟩ (sheet.text indent)

/-- What was logged, with a summary at the end. -/
def fullLog (sheet : Sheet) : List LogRecord :=
  sheet.log ++ [.debug (sheet.factory.name ++ ": " ++ toString sheet.factory.entries.length
    ++ " factory entries, " ++ toString sheet.faults.length ++ " error(s)")]

end Sheet

end WidgetBuilders
