import Mathlib.Data.List.Forall2
import WidgetBuilders.Proofs.FactoryReferences
import WidgetBuilders.Proofs.ReportedFaults
import WidgetBuilders.Proofs.SetterResolution

/-!
# The order in which a class declares its members

A class declares constructors and methods in some order, and nothing that is generated depends on
it. Of the constructors, a factory calls the first of three that the class declares anywhere; that
one of them is declared twice makes no difference. Of the methods, a helper constructor takes the
only one that sets a property. Here the number of entries matters, and so a method that is declared
twice is not the same as one that is declared once.

There is a single place where the order of methods can be seen: where several methods set one
property, the fault lists them as the class declares them. Everything else about the faults, their
number and their order included, is the same, and so is a generated file.
-/

namespace WidgetBuilders

/-- The same widget with its constructors declared in another order, and any number of times, and
with its methods declared in another order. -/
inductive Widget.Reordered (widget : Widget) : Widget → Prop
  | intro {constructors : List (List String)} {methods : List Method}
      (sameConstructors : ∀ types, types ∈ constructors ↔ types ∈ widget.constructors)
      (sameMethods : widget.methods.Perm methods) :
      Reordered widget { widget with constructors, methods }

/-- The same widgets in the same order, with the members of each in any order. -/
structure Library.Reordered (library other : Library) : Prop where
  views : List.Forall₂ Widget.Reordered library.views other.views
  viewGroups : List.Forall₂ Widget.Reordered library.viewGroups other.viewGroups

/-- The same fault, but for the order of the methods that it lists. -/
inductive Fault.Alike : Fault → Fault → Prop
  | same (fault : Fault) : Alike fault fault
  | candidates (widget setter : String) (spec : HelperSpec) {methods others : List Method}
      (reordered : methods.Perm others) :
      Alike (.severalSetters widget setter spec methods) (.severalSetters widget setter spec others)

/-- The same faults in the same order, but for the order of the methods that one of them lists. -/
def Report.Alike (report other : Report) : Prop :=
  List.Forall₂ Fault.Alike report.faults other.faults

/-- Two outcomes with the same value, or with related errors. -/
inductive SameUpTo {ε α : Type} (alike : ε → ε → Prop) : Except ε α → Except ε α → Prop
  | ok (value : α) : SameUpTo alike (.ok value) (.ok value)
  | error {fault other : ε} (related : alike fault other) :
      SameUpTo alike (.error fault) (.error other)

/-- Faults are like themselves. -/
theorem Fault.forall₂_alike_refl (faults : List Fault) : List.Forall₂ Alike faults faults :=
  List.forall₂_same.mpr fun fault _ => .same fault

/-! ## Constructors -/

/-- What a factory passes to the constructor of a class. The first of three lists of parameters that
the class declares decides; there is one argument for each parameter. -/
inductive WidgetClass.Passes (c : WidgetClass) : (arguments : String) → Prop
  | context (declared : ["android.content.Context"] ∈ c.constructors) : Passes c "ctx"
  | attributes (context : ["android.content.Context"] ∉ c.constructors)
      (declared : ["android.content.Context", "android.util.AttributeSet"] ∈ c.constructors) :
      Passes c "ctx, null"
  | style (context : ["android.content.Context"] ∉ c.constructors)
      (attributes : ["android.content.Context", "android.util.AttributeSet"] ∉ c.constructors)
      (declared : ["android.content.Context", "android.util.AttributeSet", "int"] ∈
        c.constructors) :
      Passes c "ctx, null, 0"

/-- The arguments are those of the shortest of three constructors that the class declares. -/
theorem WidgetClass.arguments?_eq (c : WidgetClass) :
    c.arguments? =
      if ["android.content.Context"] ∈ c.constructors then some "ctx"
      else if ["android.content.Context", "android.util.AttributeSet"] ∈ c.constructors then
        some "ctx, null"
      else if ["android.content.Context", "android.util.AttributeSet", "int"] ∈ c.constructors then
        some "ctx, null, 0"
      else none := by
  simp only [arguments?, callable?, callableConstructors, List.find?_cons, List.find?_nil,
    List.map_cons, List.map_nil, Parameter.type, List.contains_eq_mem]
  split_ifs <;> simp_all [Text.commaSeparated, Parameter.argument]

/-- Which arguments are passed is a matter of which constructors are declared, in any order. -/
theorem WidgetClass.arguments?_eq_some_iff {c : WidgetClass} {arguments : String} :
    c.arguments? = some arguments ↔ c.Passes arguments := by
  rw [arguments?_eq]
  constructor
  · intro told
    split_ifs at told with context attributes style
    · cases told
      exact .context context
    · cases told
      exact .attributes context attributes
    · cases told
      exact .style context attributes style
  · rintro (declared | ⟨context, declared⟩ | ⟨context, attributes, declared⟩)
    · rw [if_pos declared]
    · rw [if_neg context, if_pos declared]
    · rw [if_neg context, if_neg attributes, if_pos declared]

/-! ## One widget -/

section Widget

variable {widget other : Widget}

/-- The order of the constructors makes no difference to the arguments. -/
theorem Widget.Reordered.arguments? (reordered : widget.Reordered other) :
    other.arguments? = widget.arguments? := by
  cases reordered with
  | intro sameConstructors _ =>
    rw [WidgetClass.arguments?_eq, WidgetClass.arguments?_eq]
    simp only [sameConstructors]

/-- The same plan for another widget. -/
def Plan.withWidget (other : Widget) : Plan → Plan
  | .construct construction => .construct { construction with widget := other }
  | plan => plan

/-- What is decided for a widget depends on its constructors only through the arguments, and on its
methods not at all. -/
theorem plan_of_reordered (context : Context) (family : Family)
    (reordered : widget.Reordered other) :
    plan context family other = (plan context family widget).withWidget other := by
  have arguments := reordered.arguments?
  rw [plan_eq, plan_eq, arguments]
  cases reordered with
  | @intro constructors methods =>
    have helpers : context.helpersUnder? { widget with constructors, methods } =
        context.helpersUnder? widget := rfl
    rw [helpers]
    cases widget.isAbstract with
    | true => rfl
    | false =>
      cases widget.arguments? <;> cases context.helpersUnder? widget <;>
        cases context.options.flags.views <;> rfl

/-- Wherever the setter of a property stands, it is found; if it is not the only one, the same
setters are listed in another order. -/
theorem Setter.find_of_reordered (reordered : widget.Reordered other) (spec : HelperSpec)
    (property : Property) :
    SameUpTo Fault.Alike (find widget spec property) (find other spec property) := by
  cases reordered with
  | @intro constructors methods _ sameMethods =>
    cases found : find widget spec property with
    | ok method =>
      have only := candidates_eq_singleton_iff.mpr (find_eq_ok_iff.mp found)
      have same : candidates { widget with constructors, methods } property = [method] :=
        List.perm_singleton.mp (only ▸ (sameMethods.filter property.isSetBy).symm)
      rw [find_eq_ok_iff.mpr (candidates_eq_singleton_iff.mp same)]
      exact .ok method
    | error fault =>
      cases find_eq_error_iff.mp found with
      | missing unset =>
        have alsoUnset : Lacks { widget with constructors, methods } spec property _ :=
          .missing fun method member => unset method (sameMethods.mem_iff.mpr member)
        rw [find_eq_error_iff.mpr alsoUnset]
        exact .error (.same _)
      | ambiguous listed several =>
        have reordered := sameMethods.filter (property.SetBy ·)
        rw [← listed] at reordered
        have alsoSeveral : Lacks { widget with constructors, methods } spec property _ :=
          .ambiguous rfl (reordered.length_eq ▸ several)
        rw [find_eq_error_iff.mpr alsoSeveral]
        exact .error (.candidates _ _ spec reordered)

/-- Each property is looked up by itself, so the faults of several are listed in the same order. -/
theorem Setter.findAll_of_reordered (reordered : widget.Reordered other) (spec : HelperSpec)
    (properties : List Property) :
    SameUpTo (List.Forall₂ Fault.Alike) (findAll widget spec properties)
      (findAll other spec properties) := by
  induction properties with
  | nil => exact .ok []
  | cons property rest ih =>
    have first := find_of_reordered reordered spec property
    unfold findAll
    generalize find widget spec property = found, find other spec property = foundOther at first
    generalize findAll widget spec rest = later, findAll other spec rest = laterOther at ih
    cases first with
    | ok method =>
      cases ih with
      | ok methods => exact .ok (method :: methods)
      | error alike => exact .error alike
    | error alike =>
      cases ih with
      | ok methods => exact .error (.cons alike .nil)
      | error others => exact .error (.cons alike others)

end Widget

/-! ## Contributions -/

/-- The same blocks, the same level and the same records, with faults that are alike. -/
inductive Contribution.Alike (contribution : Contribution) : Contribution → Prop
  | intro {faults : List Fault} (alike : List.Forall₂ Fault.Alike contribution.faults faults) :
      Alike contribution { contribution with faults }

namespace Contribution.Alike

variable {first second third fourth : Contribution}

/-- A contribution is like itself. -/
theorem refl (contribution : Contribution) : contribution.Alike contribution :=
  .intro (Fault.forall₂_alike_refl _)

/-- Contributions that are alike, part by part, are alike together. -/
theorem append (front : first.Alike second) (back : third.Alike fourth) :
    (first.append third).Alike (second.append fourth) := by
  cases front with
  | intro alike =>
    cases back with
    | intro others => exact .intro (List.rel_append alike others)

end Contribution.Alike

namespace Construction

/-- The construction of another widget. -/
def withWidget (construction : Construction) (other : Widget) : Construction :=
  { construction with widget := other }

variable {construction : Construction} {other : Widget}
  (reordered : construction.widget.Reordered other)
include reordered

/-- The names and types of the functions do not depend on the members of the class. -/
theorem helperFunctions_of_reordered (factory : String) (spec : HelperSpec)
    (setters : List Method) :
    (construction.withWidget other).helperFunctions factory spec setters =
      construction.helperFunctions factory spec setters := by
  cases reordered
  rfl

/-- The order of the members makes no difference to the name of the functions. -/
theorem functionName_of_reordered :
    (construction.withWidget other).functionName = construction.functionName := by
  cases reordered
  rfl

/-- The order of the members makes no difference to the expression that constructs the widget. -/
theorem expression_of_reordered :
    (construction.withWidget other).expression = construction.expression := by
  cases reordered
  rfl

/-- The order of the members makes no difference to the builder functions. -/
theorem builderContribution_of_reordered (context : Context) (factory : String) (level : Nat) :
    (construction.withWidget other).builderContribution context factory level =
      construction.builderContribution context factory level := by
  cases reordered
  rfl

/-- A helper constructor gives the same functions, or faults that are alike. -/
theorem specContribution_of_reordered (indent factory : String) (level : Nat) (spec : HelperSpec) :
    (construction.specContribution indent factory level spec).Alike
      ((construction.withWidget other).specContribution indent factory level spec) := by
  have found := Setter.findAll_of_reordered reordered spec spec.properties
  have functions := helperFunctions_of_reordered reordered factory spec
  have name := functionName_of_reordered reordered
  unfold specContribution Setter.ofSpec
  rw [withWidget] at functions name ⊢
  generalize Setter.findAll construction.widget spec spec.properties = first,
    Setter.findAll other spec spec.properties = second at found
  cases found with
  | ok setters =>
    simp only [functions, name]
    exact .refl _
  | error alike => exact .intro alike

/-- Several helper constructors in a row give the same functions, or faults that are alike. -/
theorem specContributions_of_reordered (indent factory : String) (level : Nat)
    (specs : List HelperSpec) :
    (construction.specContributions indent factory level specs).Alike
      ((construction.withWidget other).specContributions indent factory level specs) := by
  induction specs generalizing level with
  | nil => exact .refl _
  | cons spec rest ih =>
    have first := specContribution_of_reordered reordered indent factory level spec
    rw [specContributions, specContributions, specContribution_level, specContribution_level]
    exact first.append (ih level)

/-- The helper constructors of a widget give the same functions, or faults that are alike. -/
theorem helperContribution_of_reordered (context : Context) (factory key : String) (level : Nat) :
    (construction.helperContribution context factory key level).Alike
      ((construction.withWidget other).helperContribution context factory key level) := by
  unfold helperContribution
  cases context.registry.lookup key with
  | none =>
    cases reordered
    exact .refl _
  | some specs =>
    exact specContributions_of_reordered reordered context.templates.indent factory level specs

/-- Whatever the order of the members, the same blocks are contributed, with faults that are alike.
-/
theorem contribution_of_reordered (context : Context) (factory : String) (level : Nat) :
    (construction.contribution context factory level).Alike
      ((construction.withWidget other).contribution context factory level) := by
  have builders := builderContribution_of_reordered reordered context factory level
  have under : (construction.withWidget other).helpersUnder? = construction.helpersUnder? := rfl
  unfold contribution
  rw [builders, under]
  cases construction.helpersUnder? with
  | none => exact .refl _
  | some key =>
    exact .append (.refl _)
      (helperContribution_of_reordered reordered context factory key _)

end Construction

/-! ## Sheets -/

namespace Sheet

/-- The same object, the same blocks and the same records, with faults that are alike. -/
inductive Alike (sheet : Sheet) : Sheet → Prop
  | intro {faults : List Fault} (alike : List.Forall₂ Fault.Alike sheet.faults faults) :
      Alike sheet { sheet with faults }

variable {sheet others : Sheet} {first second : Contribution}

/-- A sheet is like itself. -/
theorem Alike.refl (sheet : Sheet) : sheet.Alike sheet :=
  .intro (Fault.forall₂_alike_refl _)

/-- Sheets that are alike stay so when contributions that are alike are added. -/
theorem Alike.add (sheets : sheet.Alike others) (contributions : first.Alike second) :
    (sheet.add first).Alike (others.add second) := by
  cases sheets with
  | intro alike =>
    cases contributions with
    | intro more => exact .intro (List.rel_append alike more)

variable {context : Context} {family : Family}

/-- A construction binds the same property, or meets the same clash. -/
theorem Alike.construct {construction : Construction} {other : Widget}
    (sheets : sheet.Alike others) (reordered : construction.widget.Reordered other) :
    (sheet.construct context construction).Alike
      (others.construct context (construction.withWidget other)) := by
  have name := Construction.functionName_of_reordered reordered
  have expression := Construction.expression_of_reordered reordered
  have widget : (construction.withWidget other).widget.qualifiedName =
      construction.widget.qualifiedName := by
    cases reordered
    rfl
  have tinted :
      (construction.withWidget other).tint.baseName? (construction.withWidget other).widget =
        construction.tint.baseName? construction.widget := by
    cases reordered
    rfl
  have contributed := Construction.contribution_of_reordered reordered context
  cases sheets with
  | @intro faults alike =>
    unfold Sheet.construct bindingLog
    rw [name, expression, widget, tinted]
    dsimp only
    cases sheet.factory.bind construction.functionName construction.expression with
    | error fault => exact .add (.intro alike) (.refl _)
    | ok bound =>
      have before : { sheet with factory := bound.1 }.Alike
          { sheet with factory := bound.1, faults } := .intro alike
      exact (before.add (.refl _)).add (contributed bound.2 _)

/-- One more widget is taken in the same way, whatever the order of its members. -/
theorem Alike.take {widget other : Widget} (sheets : sheet.Alike others)
    (reordered : widget.Reordered other) :
    (sheet.take context family widget).Alike (others.take context family other) := by
  have decided := plan_of_reordered context family reordered
  unfold Sheet.take
  rw [decided]
  cases planned : plan context family widget with
  | «omit» => exact sheets
  | unusable =>
    cases reordered
    cases sheets with
    | intro alike => exact .add (.intro alike) (.refl _)
  | fault fault =>
    cases sheets with
    | intro alike => exact .add (.intro alike) (.refl _)
  | construct construction =>
    have same := (decided_of_plan planned).sameWidget
    exact sheets.construct (same ▸ reordered)

variable (context family) in
/-- Widgets that differ in the order of their members make sheets that are alike. -/
theorem ofWidgets_of_reordered {widgets reordered : List Widget}
    (alike : List.Forall₂ Widget.Reordered widgets reordered) :
    (ofWidgets context family widgets).Alike (ofWidgets context family reordered) :=
  List.rel_foldl (fun _ _ sheets _ _ widget => sheets.take widget) (.refl _) alike

end Sheet

/-! ## The library -/

/-- A family is rendered to the same text, or to reports that are alike. -/
theorem renderFamily_of_reordered (context : Context) (family : Family)
    {widgets reordered : List Widget} (alike : List.Forall₂ Widget.Reordered widgets reordered) :
    SameUpTo Report.Alike (renderFamily context family widgets)
      (renderFamily context family reordered) := by
  have sheets := Sheet.ofWidgets_of_reordered context family alike
  unfold renderFamily
  generalize Sheet.ofWidgets context family widgets = sheet,
    Sheet.ofWidgets context family reordered = other at sheets
  cases sheets with
  | @intro faults related =>
    have sameText : { sheet with faults }.text context.templates.indent =
        sheet.text context.templates.indent := rfl
    rw [Sheet.result, Sheet.result, Report.check, Report.check, sameText]
    dsimp only
    cases told : sheet.faults with
    | nil =>
      rw [told, List.forall₂_nil_left_iff] at related
      rw [related]
      exact .ok _
    | cons fault rest =>
      rw [told] at related
      cases related with
      | cons first others => exact .error (.cons first others)

/-- The order in which classes declare their members never matters.

Where constructors are declared in another order or repeated, and methods in another order, the same
file is generated, or the same faults are reported in the same order, except that a fault may list
the methods that it is about in another order. In particular, a widget that is constructed gets the
arguments for the first of three lists of parameters that its class declares at any place; on an old
platform, the base of a tinted widget gets the same ones. -/
theorem generate_of_reordered (context : Context) (library other : Library)
    (reordered : library.Reordered other) :
    SameUpTo Report.Alike (generate context library) (generate context other) ∧
      ∀ family widget construction, plan context family widget = .construct construction →
        ∃ arguments, widget.Passes arguments ∧
          construction.expression =
            family.construction context.options.tint widget arguments := by
  constructor
  · have views := renderFamily_of_reordered context .view reordered.views
    have groups := renderFamily_of_reordered context .viewGroup reordered.viewGroups
    rw [generate_eq, generate_eq]
    generalize renderFamily context .view library.views = view,
      renderFamily context .view other.views = otherView at views
    generalize renderFamily context .viewGroup library.viewGroups = group,
      renderFamily context .viewGroup other.viewGroups = otherGroup at groups
    cases views with
    | ok viewText =>
      cases groups with
      | ok groupText =>
        dsimp only
        cases (renderFile context [viewText, groupText]).mapError Report.ofFault with
        | ok text => exact .ok text
        | error report => exact .error (Fault.forall₂_alike_refl _)
      | error fromGroups => exact .error fromGroups
    | error fromViews =>
      cases groups with
      | ok groupText => exact .error (List.rel_append fromViews .nil)
      | error fromGroups => exact .error (List.rel_append fromViews fromGroups)
  · intro family widget construction planned
    have decided := decided_of_plan planned
    exact ⟨construction.arguments, WidgetClass.arguments?_eq_some_iff.mp decided.callable,
      decided.expression⟩

/-- A tinted button that declares two constructors, and two setters for any text. -/
def ambiguousButton : Widget :=
  { textWidget "android.support.v7.widget.AppCompatButton" "AppCompatButton" with
    constructors := [["android.content.Context", "android.util.AttributeSet"],
      ["android.content.Context"]]
    methods := [⟨"setText", ["java.lang.CharSequence"]⟩, ⟨"setText", ["a.CharSequence"]⟩] }

/-- The button with its members in another order, and with one constructor declared twice. -/
def reorderedButton : Widget :=
  { ambiguousButton with
    constructors := [["android.content.Context"],
      ["android.content.Context", "android.util.AttributeSet"], ["android.content.Context"]]
    methods := [⟨"setText", ["a.CharSequence"]⟩, ⟨"setText", ["java.lang.CharSequence"]⟩] }

/-- Both buttons are constructed from the context alone, and are reported for the same reason. The
two reports are not equal: each lists the setters as its class declares them. -/
theorem generate_of_reordered_of_button :
    let library : Library := ⟨[ambiguousButton], []⟩
    let other : Library := ⟨[reorderedButton], []⟩
    library.Reordered other ∧
      SameUpTo Report.Alike (generate helpersOfButton library) (generate helpersOfButton other) ∧
      generate helpersOfButton library ≠ generate helpersOfButton other ∧
      ∃ construction, plan helpersOfButton .view ambiguousButton = .construct construction ∧
        ∃ arguments, ambiguousButton.Passes arguments ∧
          construction.expression =
            Family.view.construction .standard ambiguousButton arguments := by
  intro library other
  have reordered : library.Reordered other := by
    refine ⟨.cons ?_ .nil, .nil⟩
    refine .intro (fun types => ?_) (.swap _ _ [])
    simp [ambiguousButton, or_comm]
  obtain ⟨alike, arguments⟩ := generate_of_reordered helpersOfButton library other reordered
  have planned : plan helpersOfButton .view ambiguousButton =
      .construct ⟨.view, .standard, ambiguousButton, "ctx", some "android.widget.Button"⟩ := by
    decide +kernel
  have differ : generate helpersOfButton library ≠ generate helpersOfButton other := by
    decide +kernel
  exact ⟨reordered, alike, differ, _, planned, arguments .view ambiguousButton _ planned⟩

end WidgetBuilders
