import WidgetBuilders.Proofs.EmittedFunctions
import WidgetBuilders.Proofs.FamilyComposition

/-!
# The functions of a widget

What is generated for a widget can be listed without making any text: builder functions, if they are
wanted, for each receiver, and then two functions for each helper constructor whose setters are
found. With the built-in template for builder functions, the blocks of a contribution are exactly
these functions as they are written, so nothing else gets into the text of a family.

A widget that is constructed without a fault has at least one function. Here it matters that a
lookup never finds an empty list of helper constructors.
-/

namespace WidgetBuilders

open Template

/-- Functions as a block, at the level where the blocks of a family begin. -/
def Functions.block (indent : String) (functions : Functions) : Block :=
  ⟨functions, functions.written indent 0⟩

/-- With the built-in template, each builder makes a block of its functions. -/
theorem Block.ofBuilders_of_builtin {templates : Templates}
    (builtin : templates.text? "view" = some (Template.written viewPieces))
    (builders : List Builder) :
    ofBuilders templates builders =
      .ok (builders.map fun builder => (Functions.builders builder).block templates.indent) := by
  induction builders with
  | nil => rfl
  | cons builder rest ih =>
    rw [ofBuilders, builder.render_of_builtin builtin, ih]
    rfl

/-- Without declarations, no widget has helper constructors. -/
theorem hasHelpers_empty (tint : Tint) (widget : Widget) :
    hasHelpers tint .empty widget = false := by
  cases base : tint.baseOf? widget <;> simp [hasHelpers, Registry.contains, Registry.empty, base]

/-! ## Plans -/

section Plan

variable {context : Context} {family : Family} {widget : Widget}

/-- Where the helper constructors of a widget are looked up, if any are to be generated. -/
def Context.helpersUnder? (context : Context) (widget : Widget) : Option String :=
  if context.options.flags.helpers && hasHelpers context.options.tint context.registry widget then
    some (context.options.tint.typeOf widget)
  else none

/-- Helper constructors are looked up only if they are wanted, and under the name of the widget's
type. -/
theorem Context.eq_typeOf_of_helpersUnder? {key : String}
    (under : context.helpersUnder? widget = some key) :
    context.options.flags.helpers = true ∧ key = context.options.tint.typeOf widget := by
  unfold helpersUnder? at under
  split at under
  · next wanted =>
    rw [Bool.and_eq_true] at wanted
    exact ⟨wanted.1, (Option.some.inj under).symm⟩
  · cases under

/-- The plan of a widget, as one decision over its constructors and its helper constructors. -/
theorem plan_eq : plan context family widget =
    if widget.isAbstract then .omit
    else match widget.arguments?, context.helpersUnder? widget with
      | none, none => .unusable
      | none, some key => .fault (.unconstructible widget.qualifiedName key
          (helperSpan? context.options.tint context.registry widget))
      | some arguments, helpersUnder? =>
        if context.options.flags.views || helpersUnder?.isSome then
          .construct ⟨family, context.options.tint, widget, arguments, helpersUnder?⟩
        else .omit :=
  rfl

/-- How a widget is constructed, whenever it is. -/
structure Construction.Decided (context : Context) (family : Family) (widget : Widget)
    (construction : Construction) : Prop where
  sameFamily : construction.family = family
  sameTint : construction.tint = context.options.tint
  sameWidget : construction.widget = widget
  callable : widget.arguments? = some construction.arguments
  helpers : construction.helpersUnder? =
    if context.options.flags.helpers && hasHelpers context.options.tint context.registry widget then
      some (context.options.tint.typeOf widget)
    else none
  wanted : context.options.flags.views = true ∨ construction.helpersUnder?.isSome = true

/-- A widget is constructed exactly if it is concrete, can be constructed, and is wanted. -/
theorem plan_eq_construct_iff {construction : Construction} :
    plan context family widget = .construct construction ↔
      widget.isAbstract = false ∧ construction.Decided context family widget := by
  rw [plan_eq]
  cases concrete : widget.isAbstract with
  | true => simp
  | false =>
    constructor
    · intro planned
      refine ⟨rfl, ?_⟩
      rw [if_neg (by simp)] at planned
      cases callable : widget.arguments? with
      | none => cases helpers : context.helpersUnder? widget <;> simp [callable, helpers] at planned
      | some arguments =>
        simp only [callable] at planned
        split at planned
        · next wanted =>
          cases planned
          exact ⟨rfl, rfl, rfl, callable, rfl, by simpa using wanted⟩
        · cases planned
    · rintro ⟨_, decided⟩
      cases construction
      obtain ⟨rfl, rfl, rfl, callable, helpers, wanted⟩ := decided
      dsimp only at callable helpers wanted
      rw [Context.helpersUnder?, ← helpers, if_neg (by simp), callable]
      exact if_pos (by simpa using wanted)

/-- What is constructed by the plan of a widget is decided by the widget and the context. -/
theorem decided_of_plan {construction : Construction}
    (decided : plan context family widget = .construct construction) :
    construction.Decided context family widget :=
  (plan_eq_construct_iff.mp decided).2

/-- A plan is a fault exactly if helper constructors are to be generated for a widget that no
factory can construct. -/
theorem plan_eq_fault_iff {fault : Fault} :
    plan context family widget = .fault fault ↔
      widget.isAbstract = false ∧ widget.arguments? = none ∧
        ∃ key, context.helpersUnder? widget = some key ∧
          fault = .unconstructible widget.qualifiedName key
            (helperSpan? context.options.tint context.registry widget) := by
  rw [plan_eq]
  cases widget.isAbstract with
  | true => simp
  | false =>
    cases widget.arguments? with
    | none => cases context.helpersUnder? widget <;> simp [eq_comm]
    | some arguments =>
      by_cases wanted : context.options.flags.views || (context.helpersUnder? widget).isSome <;>
        simp [wanted]

/-- A plan has no fault but that no factory can construct the widget. -/
theorem fault_of_plan {fault : Fault} (decided : plan context family widget = .fault fault) :
    ∃ key span, fault = .unconstructible widget.qualifiedName key span := by
  obtain ⟨_, _, key, _, told⟩ := plan_eq_fault_iff.mp decided
  exact ⟨key, _, told⟩

end Plan

/-! ## The functions of a construction -/

namespace Construction

variable (construction : Construction) (factory : String)

/-- The functions of some helper constructors; those without setters have none. -/
def helpersOf (specs : List HelperSpec) : List Functions :=
  specs.filterMap fun spec =>
    match Setter.ofSpec construction.widget spec with
    | .error _ => none
    | .ok setters => some (.helpers (construction.helperFunctions factory spec setters))

/-- All functions of a widget, block by block. -/
def functions (context : Context) : List Functions :=
  (construction.builders context.options.flags factory).map .builders
    ++ match construction.helpersUnder?.bind context.registry.lookup with
      | none => []
      | some specs => construction.helpersOf factory specs

variable {construction} {factory}

/-- There are builders exactly if builder functions are wanted. -/
theorem builders_ne_nil_iff {flags : Flags} :
    construction.builders flags factory ≠ [] ↔ flags.views = true := by
  unfold builders
  dsimp only
  by_cases views : flags.views = true
  · rw [if_pos views]
    split <;> simp [views]
  · simp [views]

/-- The builders of a widget differ in their receivers only. -/
theorem eq_of_mem_builders {flags : Flags} {builder : Builder}
    (member : builder ∈ construction.builders flags factory) :
    builder.receiver ∈ ["ViewManager", "Context", "Activity"] ∧
      builder =
        { receiver := builder.receiver
          functionName := construction.functionName
          className := construction.className
          initReceiver := construction.baseClassName?.getD construction.className
          returnType := construction.tint.typeOf construction.widget
          factory } := by
  unfold builders at member
  dsimp only at member
  split at member
  · obtain ⟨receiver, among, rfl⟩ := List.mem_map.mp member
    refine ⟨?_, rfl⟩
    split at among
    · exact among
    · simp [List.mem_singleton.mp among]
  · cases member

/-- How functions of a widget come about. -/
inductive Makes (construction : Construction) (factory : String) (context : Context) :
    Functions → Prop
  | builders {builder : Builder}
      (built : builder ∈ construction.builders context.options.flags factory) :
      Makes construction factory context (.builders builder)
  | helpers {key : String} {spec : HelperSpec} {setters : List Method}
      (under : construction.helpersUnder? = some key)
      (declared : spec ∈ context.registry.specsOf key)
      (chosen : Setter.ofSpec construction.widget spec = .ok setters) :
      Makes construction factory context
        (.helpers (construction.helperFunctions factory spec setters))

/-- Each function of a widget comes about in one of the two ways. -/
theorem makes_of_mem_functions {context : Context} {functions : Functions}
    (member : functions ∈ construction.functions factory context) :
    construction.Makes factory context functions := by
  rcases List.mem_append.mp member with ofBuilders | ofHelpers
  · obtain ⟨builder, built, rfl⟩ := List.mem_map.mp ofBuilders
    exact .builders built
  · split at ofHelpers
    · cases ofHelpers
    · next specs found =>
      obtain ⟨key, under, looked⟩ := Option.bind_eq_some_iff.mp found
      obtain ⟨spec, declared, made⟩ := List.mem_filterMap.mp ofHelpers
      rw [Registry.eq_specsOf_of_lookup looked] at declared
      split at made
      · cases made
      · next setters chosen =>
        cases made
        exact .helpers under declared chosen

/-- Helper constructors give the blocks of those that have their setters, all of them written at one
level. -/
theorem specContributions_blocks (indent : String) (level : Nat) (specs : List HelperSpec) :
    (construction.specContributions indent factory level specs).blocks =
      (construction.helpersOf factory specs).map fun functions =>
        ⟨functions, functions.written indent level⟩ := by
  induction specs with
  | nil => rfl
  | cons spec rest ih =>
    have kept := construction.specContribution_level indent factory level spec
    rw [specContributions]
    dsimp only [Contribution.append]
    rw [kept, ih]
    cases found : Setter.ofSpec construction.widget spec with
    | error faults => simp [specContribution, helpersOf, found]
    | ok setters =>
      have named := construction.helperFunctions_named found factory
      have text := HelperFunctions.text_eq_written named indent level
      simp [specContribution, helpersOf, found, Block.ofHelpers, text]

/-- Helper constructors give the faults of all their properties. -/
theorem specContributions_faults (indent : String) (level : Nat) (specs : List HelperSpec) :
    (construction.specContributions indent factory level specs).faults =
      specs.flatMap fun spec => Setter.reported construction.widget spec spec.properties := by
  induction specs generalizing level with
  | nil => rfl
  | cons spec rest ih =>
    rw [specContributions]
    dsimp only [Contribution.append]
    rw [ih, List.flatMap_cons]
    congr 1
    rw [specContribution, Setter.ofSpec, Setter.findAll_eq]
    by_cases none : Setter.reported construction.widget spec spec.properties = [] <;> simp [none]

/-- The built-in template writes the builder functions, and leaves the level as it is. -/
theorem builderContribution_of_builtin {context : Context}
    (builtin : context.templates.text? "view" = some (Template.written viewPieces)) (level : Nat) :
    construction.builderContribution context factory level =
      ⟨((construction.builders context.options.flags factory).map .builders).map
        (Functions.block context.templates.indent), level, [], []⟩ := by
  rw [builderContribution, Block.ofBuilders_of_builtin builtin, List.map_map]
  rfl

/-- A contribution consists of the functions of the widget and of nothing else. -/
theorem contribution_blocks {context : Context}
    (builtin : context.templates.text? "view" = some (Template.written viewPieces)) :
    (construction.contribution context factory 0).blocks =
      (construction.functions factory context).map (Functions.block context.templates.indent) := by
  rw [contribution, builderContribution_of_builtin builtin, functions, List.map_append]
  cases construction.helpersUnder? with
  | none => simp
  | some key =>
    dsimp only [Contribution.append, Option.bind_some]
    rw [helperContribution]
    cases context.registry.lookup key with
    | none => rfl
    | some specs =>
      rw [specContributions_blocks]
      rfl

end Construction

namespace Sheet

variable (context : Context) (family : Family)

/-- The functions that a widget has in a family. -/
def functionsOf (widget : Widget) : List Functions :=
  match plan context family widget with
  | .construct construction =>
    construction.functions (Factory.reference
      (Factory.objectName context.options.artifact family) construction.entry.key) context
  | _ => []

variable {context family}

/-- A widget that is constructed adds its contribution to a blank sheet. -/
theorem alone_of_construct {widget : Widget} {construction : Construction}
    (decided : plan context family widget = .construct construction) :
    let contribution := construction.contribution context (Factory.reference
      (Factory.objectName context.options.artifact family) construction.entry.key) 0
    (ofWidgets context family [widget]).blocks = contribution.blocks ∧
      (ofWidgets context family [widget]).faults = contribution.faults := by
  have free : (blank context family).factory.clash? construction.entry = none := rfl
  obtain ⟨_, blocks, _, faults⟩ := construct_of_free context free
  have step : ofWidgets context family [widget] =
      construct context (blank context family) construction := by
    simp [ofWidgets, take, decided]
  rw [blank_blocks, List.nil_append] at blocks
  rw [blank_faults, List.nil_append] at faults
  rw [step]
  exact ⟨blocks, faults⟩

/-- By itself, a widget has its functions and no others. -/
theorem alone_blocks
    (builtin : context.templates.text? "view" = some (Template.written viewPieces))
    (widget : Widget) :
    (ofWidgets context family [widget]).blocks =
      (functionsOf context family widget).map (Functions.block context.templates.indent) := by
  cases decided : plan context family widget with
  | «omit» => simp [functionsOf, decided, ofWidgets, take]
  | unusable => simp [functionsOf, decided, ofWidgets, take, add]
  | fault fault => simp [functionsOf, decided, ofWidgets, take, add]
  | construct construction =>
    rw [(alone_of_construct decided).1, Construction.contribution_blocks builtin, functionsOf,
      decided]

/-- With the built-in template, only helper constructors have faults of their own. -/
theorem alone_faults_of_undeclared
    (builtin : context.templates.text? "view" = some (Template.written viewPieces))
    {widget : Widget}
    (undeclared : hasHelpers context.options.tint context.registry widget = false) :
    (ofWidgets context family [widget]).faults = [] := by
  cases decided : plan context family widget with
  | «omit» => simp [ofWidgets, take, decided]
  | unusable => simp [ofWidgets, take, decided, add]
  | fault fault =>
    obtain ⟨_, _, key, declared, _⟩ := plan_eq_fault_iff.mp decided
    simp [Context.helpersUnder?, undeclared] at declared
  | construct construction =>
    have none : construction.helpersUnder? = none := by
      simp [(decided_of_plan decided).helpers, undeclared]
    rw [(alone_of_construct decided).2, Construction.contribution, none,
      Construction.builderContribution_of_builtin builtin]

end Sheet

end WidgetBuilders
