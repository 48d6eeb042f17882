import WidgetBuilders.Proofs.ReorderedClasses
import WidgetBuilders.Proofs.TemplateFaults

/-!
# Which widgets have helper functions

Whether a widget has helper functions is settled by its own name, the name of its base if it is
tinted, its constructors and two of the flags. Helper constructors may be declared under either
name, but they are taken from one only: from that of the base if the widget is tinted, even if all
of them are declared under its own. So there are two ways to go wrong before any setter is looked
for. A widget for which helper constructors are declared may be one that no factory can construct;
then nothing else is reported. Or it is tinted, and they are declared under its own name only.

All of this is told here by the names and constructors alone. It holds for any templates; a template
that cannot be filled adds its own fault to what a widget reports, except where nothing is generated
at all.
-/

namespace WidgetBuilders

/-- The widget is tinted: its name is the lead and then `rest`, neither of which is empty. -/
structure Tint.Covers (tint : Tint) (widget : Widget) (rest : String) : Prop where
  led : tint.lead ≠ ""
  nonempty : rest ≠ ""
  named : widget.qualifiedName = tint.lead ++ rest

/-- The class declares one of the constructors that a factory can call. -/
def WidgetClass.Constructible (c : WidgetClass) : Prop :=
  ["android.content.Context"] ∈ c.constructors ∨
    ["android.content.Context", "android.util.AttributeSet"] ∈ c.constructors ∨
      ["android.content.Context", "android.util.AttributeSet", "int"] ∈ c.constructors

/-! ## Names and constructors -/

/-- A base is found exactly for a tinted widget, and it is the rest of its name. -/
theorem Tint.baseName?_eq_some_iff {tint : Tint} {widget : Widget} {rest : String} :
    tint.baseName? widget = some rest ↔ tint.Covers widget rest := by
  constructor
  · intro tinted
    have named : widget.qualifiedName = tint.lead ++ rest :=
      String.toList_inj.mp (by rw [qualifiedName_of_baseName? tinted, String.toList_append])
    unfold baseName? at tinted
    split at tinted
    · split at tinted
      · cases tinted
      · next led =>
        cases tinted
        exact ⟨led, by simp, named⟩
    · cases tinted
  · rintro ⟨led, nonempty, named⟩
    rw [baseName?, named, String.toList_append, Text.dropLead_eq_some_iff.mpr rfl]
    match shape : rest.toList with
    | [] => exact absurd (String.toList_eq_nil_iff.mp shape) nonempty
    | c :: others =>
      dsimp only
      rw [if_neg led, ← shape, String.ofList_toList]

/-- A widget has one base at most. -/
theorem Tint.Covers.unique {tint : Tint} {widget : Widget} {rest other : String}
    (covers : tint.Covers widget rest) (also : tint.Covers widget other) : rest = other :=
  Option.some.inj <|
    (baseName?_eq_some_iff.mpr covers).symm.trans (baseName?_eq_some_iff.mpr also)

/-- There are arguments exactly for a class that can be constructed. -/
theorem WidgetClass.arguments?_isSome_iff {c : WidgetClass} :
    c.arguments?.isSome = true ↔ c.Constructible := by
  rw [arguments?_eq, Constructible]
  split_ifs with context attributes style <;> simp [*]

/-- Nothing is declared under a name exactly if the registry does not contain it. -/
theorem Registry.specsOf_eq_nil_iff {registry : Registry} {name : String} :
    registry.specsOf name = [] ↔ registry.contains name = false := by
  rw [contains_eq_isSome_lookup, lookup]
  cases registry.specsOf name <;> simp

/-! ## The functions of a sheet -/

/-- The helper functions of a block, if these are its functions. -/
def Block.helperFunctions? (block : Block) : Option HelperFunctions :=
  match block.functions with
  | .helpers functions => some functions
  | .builders _ => none

/-- The helper functions of a sheet, in order. -/
def Sheet.helperFunctions (sheet : Sheet) : List HelperFunctions :=
  sheet.blocks.filterMap Block.helperFunctions?

/-- Blocks of builder functions hold no helper constructors. -/
theorem Block.helperFunctions?_of_ofBuilders {templates : Templates} {builders : List Builder}
    {blocks : List Block} (filled : ofBuilders templates builders = .ok blocks) :
    blocks.filterMap Block.helperFunctions? = [] := by
  induction builders generalizing blocks with
  | nil =>
    cases filled
    rfl
  | cons builder rest ih =>
    rw [ofBuilders] at filled
    obtain ⟨text, _, later⟩ := bind_eq_ok_iff.mp filled
    obtain ⟨others, made, done⟩ := bind_eq_ok_iff.mp later
    cases done
    rw [List.filterMap_cons]
    exact ih made

namespace Construction

variable {context : Context} {construction : Construction} {factory : String} {level : Nat}

/-- Builder functions come without helper functions. -/
theorem helperFunctions?_of_contribution (construction : Construction) (factory : String)
    (level : Nat) :
    (construction.contribution context factory level).blocks.filterMap Block.helperFunctions? =
      (construction.helpersPart context factory level).blocks.filterMap
        Block.helperFunctions? := by
  have none : (construction.builderContribution context factory level).blocks.filterMap
      Block.helperFunctions? = [] := by
    unfold builderContribution
    split
    · next blocks filled => exact Block.helperFunctions?_of_ofBuilders filled
    · rfl
  rw [contribution_eq_append, Contribution.append, List.filterMap_append, none, List.nil_append]

/-- Of each helper constructor that resolves there is a block, in the order of their declarations.
-/
theorem helperContribution_blocks (construction : Construction) (factory key : String)
    (level : Nat) :
    (construction.helperContribution context factory key level).blocks =
      (construction.helpersOf factory (context.registry.specsOf key)).map fun functions =>
        ⟨functions, functions.written context.templates.indent level⟩ := by
  unfold helperContribution
  cases found : context.registry.lookup key with
  | none =>
    have undeclared : context.registry.specsOf key = [] := by
      rw [Registry.specsOf_eq_nil_iff, Registry.contains_eq_isSome_lookup, found]
      rfl
    rw [undeclared]
    rfl
  | some specs =>
    rw [← Registry.eq_specsOf_of_lookup found]
    exact specContributions_blocks _ level specs

/-- Of each helper constructor that does not resolve there are its faults. Without any helper
constructor under the key, that is the fault. -/
theorem helperContribution_faults (construction : Construction) (factory key : String)
    (level : Nat) :
    (construction.helperContribution context factory key level).faults =
      if context.registry.contains key then
        (context.registry.specsOf key).flatMap fun spec =>
          Setter.reported construction.widget spec spec.properties
      else [.noSpecs construction.widget.qualifiedName key] := by
  rw [helperContribution, Registry.contains_eq_isSome_lookup]
  cases found : context.registry.lookup key with
  | none => rfl
  | some specs =>
    rw [← Registry.eq_specsOf_of_lookup found]
    exact specContributions_faults _ level specs

/-- The helper functions are those of the helper constructors that are looked up. -/
theorem helperFunctions?_of_helpersPart {key : String}
    (under : construction.helpersUnder? = some key) :
    (construction.helpersPart context factory level).blocks.filterMap Block.helperFunctions? =
      (context.registry.specsOf key).filterMap fun spec =>
        (Setter.ofSpec construction.widget spec).toOption.map
          (construction.helperFunctions factory spec) := by
  rw [helpersPart, under]
  dsimp only
  rw [helperContribution_blocks, helpersOf, List.filterMap_map, List.filterMap_filterMap]
  refine List.filterMap_congr fun spec _ => ?_
  cases Setter.ofSpec construction.widget spec <;> rfl

end Construction

/-! ## One widget by itself -/

/-- The functions that a helper constructor of the widget has in a family. -/
def Widget.helperFunctions (context : Context) (family : Family) (widget : Widget)
    (spec : HelperSpec) (setters : List Method) : HelperFunctions :=
  let functionName := context.options.tint.functionName widget
  .ofSetters functionName (context.options.tint.typeOf widget)
    (Factory.reference (Factory.objectName context.options.artifact family)
      (Factory.keyOf functionName)) spec setters

section Alone

variable {context : Context} {family : Family} {widget : Widget}

/-- A widget that is left out has no text and no fault. -/
theorem renderFamily_of_left_out
    (leftOut : plan context family widget = .omit ∨ plan context family widget = .unusable) :
    renderFamily context family [widget] = .ok "" := by
  rw [renderFamily_eq_ok_iff_faultless]
  rcases leftOut with decided | decided <;>
    simp [Sheet.ofWidgets, Sheet.take, decided, Sheet.add, Sheet.blank, Sheet.text,
      Factory.empty, Factory.declaration, Text.concat]

/-- If a widget is refused by its plan, the fault is all that is reported of it. -/
theorem renderFamily_of_fault {fault : Fault}
    (decided : plan context family widget = .fault fault) :
    renderFamily context family [widget] = .error ⟨[fault]⟩ := by
  simp [renderFamily, Sheet.result, Report.check, Sheet.ofWidgets, Sheet.take, decided, Sheet.add]

/-- A widget that can be constructed is, unless there are no functions to generate for it. -/
theorem plan_of_constructible (concrete : widget.isAbstract = false)
    (constructible : widget.Constructible) :
    ∃ arguments, plan context family widget =
      if context.options.flags.views || (context.helpersUnder? widget).isSome then
        .construct ⟨family, context.options.tint, widget, arguments, context.helpersUnder? widget⟩
      else .omit := by
  obtain ⟨arguments, callable⟩ :=
    Option.isSome_iff_exists.mp (WidgetClass.arguments?_isSome_iff.mpr constructible)
  refine ⟨arguments, ?_⟩
  rw [plan_eq, concrete, callable]
  rfl

/-- What a widget reports about helper constructors, if a factory can construct it. -/
def Context.helperFaults (context : Context) (widget : Widget) : List Fault :=
  match context.helpersUnder? widget with
  | none => []
  | some key =>
    if context.registry.contains key then
      (context.registry.specsOf key).flatMap fun spec =>
        Setter.reported widget spec spec.properties
    else [.noSpecs widget.qualifiedName key]

/-- A widget that can be constructed reports what is wrong with the template, and then what is wrong
with its helper constructors. -/
theorem Sheet.alone_of_constructible (concrete : widget.isAbstract = false)
    (constructible : widget.Constructible) :
    (ofWidgets context family [widget]).faults =
        (if context.options.flags.views then context.templates.viewFault?.toList else [])
          ++ context.helperFaults widget ∧
      (ofWidgets context family [widget]).helperFunctions =
        ((context.helpersUnder? widget).elim [] context.registry.specsOf).filterMap fun spec =>
          (Setter.ofSpec widget spec).toOption.map
            (widget.helperFunctions context family spec) := by
  obtain ⟨arguments, planned⟩ := @plan_of_constructible context family _ concrete constructible
  by_cases wanted : context.options.flags.views || (context.helpersUnder? widget).isSome
  · rw [if_pos wanted] at planned
    obtain ⟨blocks, faults⟩ := alone_of_construct planned
    rw [helperFunctions, blocks, faults, Construction.helperFunctions?_of_contribution,
      Construction.contribution_eq_append, Contribution.append,
      Construction.builderContribution_faults]
    cases under : context.helpersUnder? widget with
    | none =>
      refine ⟨?_, rfl⟩
      simp [Construction.helpersPart, Context.helperFaults, under, Contribution.empty]
    | some key =>
      constructor
      · simp [Construction.helpersPart, Construction.helperContribution_faults,
          Context.helperFaults, under]
      · rw [Construction.helperFunctions?_of_helpersPart rfl]
        rfl
  · rw [if_neg wanted] at planned
    have unwanted : context.options.flags.views = false ∧ context.helpersUnder? widget = none := by
      simpa using wanted
    simp [ofWidgets, take, planned, helperFunctions, Context.helperFaults, unwanted]

/-- A widget that no factory can construct is left out, or has a fault and no other. -/
theorem renderFamily_of_not_constructible (concrete : widget.isAbstract = false)
    (unusable : ¬ widget.Constructible) :
    renderFamily context family [widget] =
      match context.helpersUnder? widget with
      | none => .ok ""
      | some key => .error ⟨[.unconstructible widget.qualifiedName key
          (helperSpan? context.options.tint context.registry widget)]⟩ := by
  have uncallable : widget.arguments? = none := by
    rwa [← WidgetClass.arguments?_isSome_iff, Bool.not_eq_true, Option.isSome_eq_false_iff,
      Option.isNone_iff_eq_none] at unusable
  cases under : context.helpersUnder? widget with
  | none =>
    have decided : plan context family widget = .unusable := by
      rw [plan_eq, concrete, uncallable, under]
      rfl
    exact renderFamily_of_left_out (.inr decided)
  | some key =>
    exact renderFamily_of_fault (plan_eq_fault_iff.mpr ⟨concrete, uncallable, key, under, rfl⟩)

/-- What can be at fault about the helper constructors of a widget. -/
theorem Context.mem_helperFaults {fault : Fault} :
    fault ∈ context.helperFaults widget ↔
      ∃ key, context.helpersUnder? widget = some key ∧
        if context.registry.contains key then
          ∃ spec ∈ context.registry.specsOf key,
            fault ∈ Setter.reported widget spec spec.properties
        else fault = .noSpecs widget.qualifiedName key := by
  rw [helperFaults]
  cases context.helpersUnder? widget with
  | none => simp
  | some key => by_cases declared : context.registry.contains key <;> simp [declared]

/-- A widget that cannot be constructed has no functions. -/
theorem Sheet.alone_blocks_of_unusable
    (unusable : ¬ (widget.isAbstract = false ∧ widget.Constructible)) :
    (ofWidgets context family [widget]).blocks = [] := by
  cases decided : plan context family widget with
  | construct construction =>
    obtain ⟨concrete, facts⟩ := plan_eq_construct_iff.mp decided
    have constructible := WidgetClass.arguments?_isSome_iff.mp
      (Option.isSome_iff_exists.mpr ⟨_, facts.callable⟩)
    exact absurd ⟨concrete, constructible⟩ unusable
  | «omit» => simp [ofWidgets, take, decided]
  | unusable => simp [ofWidgets, take, decided, add]
  | fault fault => simp [ofWidgets, take, decided, add]

end Alone

end WidgetBuilders
