import Mathlib.Data.List.Induction
import WidgetBuilders.Generation
import WidgetBuilders.Proofs.FactoryBinding
import WidgetBuilders.Proofs.Indentation

/-!
# What one more widget adds to a sheet

A sheet grows widget by widget, and each step reads the sheet so far in two ways: it looks whether
the widget's key is bound, and it goes on writing at the level where the blocks end. The name of the
factory object is the same in every sheet of a family, and the level is always zero, because every
contribution leaves the level at which it starts. So the first way is the only one that can make a
difference: a widget adds to any sheet what it adds to a blank one, unless its key clashes, and then
it adds the fault of the clash and nothing else.

A widget that clashes or is otherwise at fault is no reason to stop. The sheet after all widgets
holds the first request for each key, among these the requests of widgets that failed later.
-/

namespace WidgetBuilders

/-- The property by which the factory object constructs the widget. -/
def Construction.entry (construction : Construction) : FactoryEntry :=
  ⟨Factory.keyOf construction.functionName, construction.expression⟩

namespace Sheet

variable (context : Context) (family : Family)

/-- The factory property that a widget asks for; none if the widget is not constructed. -/
def request? (widget : Widget) : Option FactoryEntry :=
  match plan context family widget with
  | .construct construction => some construction.entry
  | _ => none

/-- The fault of a widget whose property is bound to another expression. -/
def clashIn? (factory : Factory) (widget : Widget) : Option Fault :=
  (request? context family widget).bind factory.clash?

/-- A sheet of the family between two widgets: its object has the family's name, and its blocks end
at level zero. -/
structure Steady (sheet : Sheet) : Prop where
  name : sheet.factory.name = Factory.objectName context.options.artifact family
  level : sheet.level = 0

/-- A blank sheet has no blocks. -/
@[simp] theorem blank_blocks : (blank context family).blocks = [] := rfl

/-- A blank sheet has no faults. -/
@[simp] theorem blank_faults : (blank context family).faults = [] := rfl

/-! ## One construction -/

section Construct

variable {sheet : Sheet} {construction : Construction}

/-- A clash adds its fault, and nothing else that can be seen in the result. -/
theorem construct_of_clash {fault : Fault}
    (clash : sheet.factory.clash? construction.entry = some fault) :
    let after := construct context sheet construction
    after.factory = sheet.factory ∧ after.blocks = sheet.blocks ∧ after.level = sheet.level ∧
      after.faults = sheet.faults ++ [fault] := by
  have refused : sheet.factory.bind construction.functionName construction.expression =
      .error fault := by
    rw [Factory.bind_eq]
    exact clash ▸ rfl
  simp [construct, refused, add]

/-- A construction whose key is free, or bound to the same expression, contributes its functions. -/
theorem construct_of_free (free : sheet.factory.clash? construction.entry = none) :
    let after := construct context sheet construction
    let contribution := construction.contribution context
      (Factory.reference sheet.factory.name construction.entry.key) sheet.level
    after.factory = sheet.factory.accept construction.entry ∧
      after.blocks = sheet.blocks ++ contribution.blocks ∧ after.level = sheet.level ∧
      after.faults = sheet.faults ++ contribution.faults := by
  have bound : sheet.factory.bind construction.functionName construction.expression =
      .ok (sheet.factory.accept construction.entry,
        Factory.reference sheet.factory.name construction.entry.key) := by
    rw [Factory.bind_eq]
    exact free ▸ rfl
  simp [construct, bound, add, construction.contribution_level]

end Construct

/-! ## One widget -/

/-- A blank sheet is steady. -/
theorem steady_blank : Steady context family (blank context family) := ⟨rfl, rfl⟩

/-- One more widget, in terms of what the widget adds to a blank sheet. -/
structure Adds (before : Sheet) (widget : Widget) (after : Sheet) : Prop where
  factory : after.factory =
    ((request? context family widget).map before.factory.accept).getD before.factory
  blocks : after.blocks = before.blocks ++
    if (clashIn? context family before.factory widget).isSome then []
    else (take context family (blank context family) widget).blocks
  level : after.level = before.level
  faults : after.faults = before.faults ++
    match clashIn? context family before.factory widget with
    | some fault => [fault]
    | none => (take context family (blank context family) widget).faults

variable {context family}

/-- The step in full: every exit of the plan, and both outcomes of a binding. -/
theorem take_adds {sheet : Sheet} (steady : Steady context family sheet) (widget : Widget) :
    Adds context family sheet widget (take context family sheet widget) := by
  cases decided : plan context family widget with
  | «omit» => constructor <;> simp [take, clashIn?, request?, decided]
  | unusable => constructor <;> simp [take, clashIn?, request?, decided, add]
  | fault fault => constructor <;> simp [take, clashIn?, request?, decided, add]
  | construct construction =>
    have request : request? context family widget = some construction.entry := by
      simp [request?, decided]
    have clash : clashIn? context family sheet.factory widget =
        sheet.factory.clash? construction.entry := by
      simp [clashIn?, request]
    have step (before : Sheet) : take context family before widget =
        construct context before construction := by
      simp [take, decided]
    cases outcome : sheet.factory.clash? construction.entry with
    | some fault =>
      obtain ⟨factory, blocks, level, faults⟩ :=
        construct_of_clash context outcome
      have same := Factory.accept_of_clash outcome
      constructor <;> simp [step, request, clash, outcome, factory, blocks, level, faults, same]
    | none =>
      obtain ⟨factory, blocks, level, faults⟩ := construct_of_free context outcome
      -- The blank sheet has the same object name and the same level, hence the same functions.
      have blankFree : (blank context family).factory.clash? construction.entry = none := rfl
      obtain ⟨_, blankBlocks, _, blankFaults⟩ := construct_of_free context blankFree
      have sameName : sheet.factory.name = (blank context family).factory.name := steady.name
      have sameLevel : sheet.level = (blank context family).level := steady.level
      rw [sameName, sameLevel] at blocks faults
      constructor <;> simp [step, request, clash, outcome, factory, blocks, level, faults,
        blankBlocks, blankFaults]

/-- A sheet of the family stays one. -/
theorem take_steady {sheet : Sheet} (steady : Steady context family sheet) (widget : Widget) :
    Steady context family (take context family sheet widget) := by
  have adds := take_adds steady widget
  refine ⟨?_, adds.level.trans steady.level⟩
  rw [adds.factory]
  cases request? context family widget with
  | none => exact steady.name
  | some entry => exact (sheet.factory.accept_name entry).trans steady.name

/-! ## All widgets -/

variable (context family)

/-- A sheet is made widget by widget. -/
theorem ofWidgets_append_singleton (widgets : List Widget) (widget : Widget) :
    ofWidgets context family (widgets ++ [widget]) =
      take context family (ofWidgets context family widgets) widget := by
  simp [ofWidgets]

/-- Between two widgets, a sheet is steady. -/
theorem ofWidgets_steady (widgets : List Widget) :
    Steady context family (ofWidgets context family widgets) := by
  induction widgets using List.reverseRecOn with
  | nil => exact steady_blank context family
  | append_singleton widgets widget ih =>
    rw [ofWidgets_append_singleton]
    exact take_steady ih widget

/-- The last of some widgets adds to the sheet of the others. -/
theorem ofWidgets_adds (widgets : List Widget) (widget : Widget) :
    Adds context family (ofWidgets context family widgets) widget
      (ofWidgets context family (widgets ++ [widget])) := by
  rw [ofWidgets_append_singleton]
  exact take_adds (ofWidgets_steady context family widgets) widget

/-- The factory object holds the first request for each key, in the order of the widgets. -/
theorem ofWidgets_entries (widgets : List Widget) :
    (ofWidgets context family widgets).factory.entries =
      Factory.firstOfEachKey (widgets.filterMap (request? context family)) := by
  induction widgets using List.reverseRecOn with
  | nil => rfl
  | append_singleton widgets widget ih =>
    rw [(ofWidgets_adds context family widgets widget).factory]
    cases asked : request? context family widget with
    | none => simpa [asked] using ih
    | some entry =>
      simp only [Option.map_some, Option.getD_some, Factory.accept_entries,
        List.filterMap_append,
        List.filterMap_cons, asked, List.filterMap_nil, ih, Factory.mem_keys_firstOfEachKey,
        Factory.firstOfEachKey_append_singleton]

end Sheet

end WidgetBuilders
