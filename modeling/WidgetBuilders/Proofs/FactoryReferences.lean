import WidgetBuilders.Proofs.WidgetFunctions

/-!
# References to factory properties

The text of a family is a factory object and functions that refer to it. The object and the
functions are made at different times: a property is bound before any function of its widget is
written, two widgets may share a property, and a widget may be left out after all. Still the two
parts fit. No function refers to a property that is not declared, or that constructs something other
than the function's own widget; and no property is declared that no function refers to.

The first half holds because a binding is never changed or taken back. The second half holds because
a widget that is constructed has functions, or else a fault, and then the family has no text.
-/

namespace WidgetBuilders

open Template

/-- The expression that constructs a widget with some arguments. On an old platform, a tinted widget
is replaced by its base. -/
def Family.construction (family : Family) (tint : Tint) (widget : Widget) (arguments : String) :
    String :=
  let call (className : String) : String := className ++ "(" ++ arguments ++ ")"
  let own : String := call (family.className widget.qualifiedName widget.simpleName)
  match tint.baseName? widget with
  | none => own
  | some base =>
    "if (Build.VERSION.SDK_INT < " ++ toString tint.minSdk ++ ") "
      ++ call (family.className (tint.qualify base) base) ++ " else " ++ own

/-- A property is bound to the construction of its own widget. -/
theorem Construction.Decided.expression {context : Context} {family : Family} {widget : Widget}
    {construction : Construction} (decided : construction.Decided context family widget) :
    construction.entry.expression =
      family.construction context.options.tint widget construction.arguments := by
  obtain ⟨rfl, sameTint, rfl, _, _, _⟩ := decided
  rw [← sameTint]
  unfold entry Construction.expression baseClassName? Family.construction
  cases construction.tint.baseName? construction.widget <;> rfl

namespace Sheet

variable {context : Context} {family : Family}

/-- The object binds nothing that no widget has asked for. -/
theorem request_of_mem_entries {widgets : List Widget} {entry : FactoryEntry}
    (member : entry ∈ (ofWidgets context family widgets).factory.entries) :
    ∃ widget ∈ widgets, request? context family widget = some entry := by
  rw [ofWidgets_entries] at member
  exact List.mem_filterMap.mp (Factory.mem_of_mem_firstOfEachKey member)

/-- A widget that asks for a property is constructed. -/
theorem construct_of_request {widget : Widget} {entry : FactoryEntry}
    (asked : request? context family widget = some entry) :
    ∃ construction, plan context family widget = .construct construction ∧
      construction.entry = entry := by
  unfold request? at asked
  split at asked
  · next construction decided => exact ⟨construction, decided, Option.some.inj asked⟩
  · cases asked

/-- A widget with functions is constructed. -/
theorem construct_of_functionsOf {widget : Widget} {functions : Functions}
    (member : functions ∈ functionsOf context family widget) :
    ∃ construction, plan context family widget = .construct construction ∧
      functions ∈ construction.functions (Factory.reference
        (Factory.objectName context.options.artifact family) construction.entry.key) context := by
  unfold functionsOf at member
  split at member
  · next construction decided => exact ⟨construction, decided, member⟩
  · cases member

end Sheet

/-- The text of a family without faults is its object and, for each widget, its functions. -/
theorem Sheet.text_of_faultless {context : Context} {family : Family} {widgets : List Widget}
    (builtin : context.templates.text? "view" = some (Template.written viewPieces))
    (faultless : (ofWidgets context family widgets).faults = []) :
    (ofWidgets context family widgets).text context.templates.indent =
      (ofWidgets context family widgets).factory.declaration context.templates.indent
        ++ Text.concat ((widgets.flatMap (functionsOf context family)).map
            (Functions.written context.templates.indent 0)) := by
  have blocks := blocks_of_faultless faultless
  simp only [alone_blocks builtin] at blocks
  rw [text, blocks, ← List.map_flatMap, List.map_map]
  rfl

/-- Helper constructors without builder functions, declared for one button. -/
def helpersOfButton : Context where
  options := { Options.standard with flags := ⟨false, true, true⟩ }
  registry := Registry.empty.insert "android.widget.Button" ⟨[⟨"text", "CharSequence"⟩], none⟩
  templates := .builtin "    "

/-- A class of widgets with one constructor and one setter. -/
def textWidget (qualifiedName simpleName : String) : Widget where
  qualifiedName
  simpleName
  isAbstract := false
  constructors := [["android.content.Context"]]
  methods := [⟨"setText", ["java.lang.CharSequence"]⟩]
  isContainer := false

end WidgetBuilders
