import WidgetBuilders.Proofs.FactoryReferences

/-!
# Only the names of its own widgets are looked up

A generation asks the registry about a widget in three places: whether helper constructors are
declared for it, what they are, and, for a widget that no factory can construct, on which line they
begin. It asks under two names, the widget's own and that of its base, and under no others. About an
abstract widget it does not ask, and without helper constructors it asks about none.

So two registries with the same answers to these questions cannot be told apart by what is
generated, be it a file or a report of faults. What they hold under other names is free. An answer
is the declarations of one name in their order, so it does not matter either which declarations of
other names came in between.
-/

namespace WidgetBuilders

/-- A name under which the helper constructors of some widget can be declared: that of a concrete
widget or, if the widget is tinted, that of its base. -/
inductive Library.Reads (tint : Tint) (library : Library) : String → Prop
  | own {family : Family} {widget : Widget} (member : widget ∈ family.widgets library)
      (concrete : widget.isAbstract = false) : Reads tint library widget.qualifiedName
  | base {family : Family} {widget : Widget} {name : String}
      (member : widget ∈ family.widgets library) (concrete : widget.isAbstract = false)
      (tinted : tint.baseOf? widget = some name) : Reads tint library name

/-- The context with another registry. -/
def Context.withRegistry (context : Context) (registry : Registry) : Context :=
  { context with registry }

namespace Registry

/-! ## What is asked about one widget -/

/-- Two registries give the same answers about a widget. -/
structure Agree (registry other : Registry) (tint : Tint) (widget : Widget) : Prop where
  own : registry.lookup widget.qualifiedName = other.lookup widget.qualifiedName
  base : ∀ name, tint.baseOf? widget = some name → registry.lookup name = other.lookup name

variable {registry other : Registry} {tint : Tint} {widget : Widget}

/-- The name that is looked up is one of the two that the registries agree on. -/
theorem Agree.typeOf (agree : registry.Agree other tint widget) :
    registry.lookup (tint.typeOf widget) = other.lookup (tint.typeOf widget) := by
  unfold Tint.typeOf
  cases base : tint.baseOf? widget with
  | none => exact agree.own
  | some name => exact agree.base name base

/-- Registries that agree on both names agree on whether there are helper constructors at all. -/
theorem Agree.hasHelpers (agree : registry.Agree other tint widget) :
    hasHelpers tint registry widget = hasHelpers tint other widget := by
  unfold WidgetBuilders.hasHelpers
  cases base : tint.baseOf? widget with
  | none => simp [contains_eq_isSome_lookup, agree.own]
  | some name => simp [contains_eq_isSome_lookup, agree.own, agree.base name base]

/-- Registries that agree on both names agree on the declaration that is pointed at. -/
theorem Agree.helperSpan? (agree : registry.Agree other tint widget) :
    helperSpan? tint registry widget = helperSpan? tint other widget := by
  unfold WidgetBuilders.helperSpan?
  rw [agree.typeOf, agree.own]

end Registry

/-! ## One widget -/

section Widget

variable {context : Context} {registry other : Registry} {family : Family} {widget : Widget}

/-- The registries give the same answers about the widget, if anyone asks. -/
def Context.CannotTell (context : Context) (registry other : Registry) (widget : Widget) : Prop :=
  context.options.flags.helpers = true → widget.isAbstract = false →
    registry.Agree other context.options.tint widget

/-- Helper constructors are looked up under the same name, or under none. -/
theorem helpersUnder?_withRegistry (alike : context.CannotTell registry other widget)
    (concrete : widget.isAbstract = false) :
    (context.withRegistry registry).helpersUnder? widget =
      (context.withRegistry other).helpersUnder? widget := by
  by_cases wanted : context.options.flags.helpers = true
  · simp [Context.helpersUnder?, Context.withRegistry, (alike wanted concrete).hasHelpers]
  · simp [Context.helpersUnder?, Context.withRegistry, wanted]

/-- Every exit of a plan is the same; the line of the declaration is told only where there is one.
-/
theorem plan_withRegistry (alike : context.CannotTell registry other widget) :
    plan (context.withRegistry registry) family widget =
      plan (context.withRegistry other) family widget := by
  rw [plan_eq, plan_eq]
  cases concrete : widget.isAbstract with
  | true => rfl
  | false =>
    rw [helpersUnder?_withRegistry alike concrete]
    cases under : (context.withRegistry other).helpersUnder? widget with
    | none => cases widget.arguments? <;> rfl
    | some key =>
      -- Only a widget that is looked up can be refused, and then the registries agree on its names.
      have wanted := (Context.eq_typeOf_of_helpersUnder? under).1
      have span : helperSpan? (context.withRegistry registry).options.tint
          (context.withRegistry registry).registry widget =
          helperSpan? (context.withRegistry other).options.tint
            (context.withRegistry other).registry widget := (alike wanted concrete).helperSpan?
      rw [span]
      rfl

/-- A construction asks under one name only, if helper constructors are to be made. -/
theorem Construction.contribution_withRegistry {construction : Construction}
    (same : ∀ key, construction.helpersUnder? = some key → registry.lookup key = other.lookup key)
    (factory : String) (level : Nat) :
    construction.contribution (context.withRegistry registry) factory level =
      construction.contribution (context.withRegistry other) factory level := by
  unfold contribution
  cases under : construction.helpersUnder? with
  | none => rfl
  | some key =>
    have found (before : Nat) :
        construction.helperContribution (context.withRegistry registry) factory key before =
          construction.helperContribution (context.withRegistry other) factory key before := by
      simp only [helperContribution, Context.withRegistry, same key under]
    dsimp only
    rw [found]
    rfl

namespace Sheet

/-- A widget does the same to a sheet, whichever of the two registries is asked. -/
theorem take_withRegistry (alike : context.CannotTell registry other widget) (sheet : Sheet) :
    take (context.withRegistry registry) family sheet widget =
      take (context.withRegistry other) family sheet widget := by
  unfold take
  rw [plan_withRegistry alike]
  cases planned : plan (context.withRegistry other) family widget with
  | construct construction =>
    obtain ⟨concrete, decided⟩ := plan_eq_construct_iff.mp planned
    have same : ∀ key, construction.helpersUnder? = some key →
        registry.lookup key = other.lookup key := by
      intro key under
      obtain ⟨wanted, rfl⟩ :=
        Context.eq_typeOf_of_helpersUnder? (decided.helpers.symm.trans under)
      exact (alike wanted concrete).typeOf
    simp only [construct, Construction.contribution_withRegistry same]
  | «omit» => rfl
  | unusable => rfl
  | fault fault => rfl

/-- The sheet of a family is the same, widget by widget. -/
theorem ofWidgets_withRegistry {widgets : List Widget}
    (alike : ∀ widget ∈ widgets, context.CannotTell registry other widget) :
    ofWidgets (context.withRegistry registry) family widgets =
      ofWidgets (context.withRegistry other) family widgets := by
  unfold ofWidgets
  exact List.foldl_ext _ _ (blank context family)
    fun sheet widget member => take_withRegistry (alike widget member) sheet

end Sheet

end Widget

/-! ## The library -/

/-- The two registries lead to the same file, or to the same faults. -/
theorem generate_withRegistry {context : Context} {registry other : Registry} {library : Library}
    (alike : ∀ family : Family, ∀ widget ∈ family.widgets library,
      context.CannotTell registry other widget) :
    generate (context.withRegistry registry) library =
      generate (context.withRegistry other) library := by
  have same : sheets (context.withRegistry registry) library =
      sheets (context.withRegistry other) library :=
    List.map_congr_left fun family _ => Sheet.ofWidgets_withRegistry (alike family)
  unfold generate
  rw [same]
  rfl

namespace Registry

/-- The registry with some declarations inserted, one after another. -/
def insertAll (registry : Registry) (declarations : List Declaration) : Registry :=
  declarations.foldl (fun before declaration => before.insert declaration.widget declaration.spec)
    registry

/-- An insertion can be seen under its own name only, after those before it. -/
theorem specsOf_insertAll (registry : Registry) (declarations : List Declaration) (name : String) :
    (registry.insertAll declarations).specsOf name =
      registry.specsOf name ++ (declarations.filter (·.widget = name)).map (·.spec) := by
  induction declarations generalizing registry with
  | nil => simp [insertAll]
  | cons declaration rest ih =>
    have first : registry.insertAll (declaration :: rest) =
        (registry.insert declaration.widget declaration.spec).insertAll rest := rfl
    rw [first, ih, specsOf_insert]
    by_cases same : declaration.widget = name <;> simp [same]

/-- A lookup is the list of what is declared under the name, and depends on nothing else. -/
theorem lookup_eq_of_specsOf {registry other : Registry} {name : String}
    (same : registry.specsOf name = other.specsOf name) :
    registry.lookup name = other.lookup name := by
  rw [lookup, lookup, same]

end Registry

/-- Only the names of a library's own widgets matter.

Registries that answer alike under every name of a concrete widget, and of the base of a tinted one,
lead to the same result: the same file, or the same faults in the same order. So the result does not
depend on insertions under other names, or on the order of insertions under different names. If no
helper constructors are wanted, it does not depend on the registry at all. -/
theorem generate_reads_own_names (context : Context) (library : Library) :
    (∀ registry other : Registry,
      (∀ name, library.Reads context.options.tint name →
        registry.lookup name = other.lookup name) →
      generate (context.withRegistry registry) library =
        generate (context.withRegistry other) library) ∧
    (∀ (registry : Registry) (insertions others : List Declaration),
      (∀ name, library.Reads context.options.tint name →
        insertions.filter (·.widget = name) = others.filter (·.widget = name)) →
      generate (context.withRegistry (registry.insertAll insertions)) library =
        generate (context.withRegistry (registry.insertAll others)) library) ∧
    (context.options.flags.helpers = false → ∀ registry other : Registry,
      generate (context.withRegistry registry) library =
        generate (context.withRegistry other) library) := by
  have answers (registry other : Registry)
      (same : ∀ name, library.Reads context.options.tint name →
        registry.lookup name = other.lookup name) :
      generate (context.withRegistry registry) library =
        generate (context.withRegistry other) library := by
    apply generate_withRegistry
    intro family widget member _ concrete
    exact ⟨same _ (.own member concrete), fun name tinted => same _ (.base member concrete tinted)⟩
  refine ⟨answers, ?_, ?_⟩
  · intro registry insertions others same
    apply answers
    intro name read
    apply Registry.lookup_eq_of_specsOf
    rw [Registry.specsOf_insertAll, Registry.specsOf_insertAll, same name read]
  · intro unwanted registry other
    apply generate_withRegistry
    intro family widget _ wanted
    rw [unwanted] at wanted
    cases wanted

/-- A library with one button, which is tinted. -/
def oneButton : Library where
  views := [textWidget "android.support.v7.widget.AppCompatButton" "AppCompatButton"]
  viewGroups := []

/-- The button is looked up under two names. -/
theorem Library.Reads.of_oneButton {name : String} (read : oneButton.Reads .standard name) :
    name = "android.support.v7.widget.AppCompatButton" ∨ name = "android.widget.Button" := by
  have only : ∀ {family : Family} {widget : Widget}, widget ∈ family.widgets oneButton →
      widget = textWidget "android.support.v7.widget.AppCompatButton" "AppCompatButton" := by
    intro family widget member
    cases family with
    | view => exact List.mem_singleton.mp member
    | viewGroup => cases member
  cases read with
  | own member concrete =>
    rw [only member]
    exact Or.inl rfl
  | base member concrete tinted =>
    have base : Tint.standard.baseOf?
        (textWidget "android.support.v7.widget.AppCompatButton" "AppCompatButton") =
          some "android.widget.Button" := by decide +kernel
    rw [only member, base] at tinted
    exact Or.inr (Option.some.inj tinted).symm

/-- A helper constructor of the button is declared between those of a class that the library does
not have. The others may be missing, or stand in another order; without helper constructors, the
first one may be missing, too. -/
theorem generate_reads_own_names_of_oneButton :
    let ofText : HelperSpec := ⟨[⟨"text", "CharSequence"⟩], none⟩
    let button : Declaration := ⟨"android.widget.Button", ofText⟩
    let stranger : Declaration := ⟨"a.B", ofText⟩
    let generated (context : Context) (declarations : List Declaration) : Except Report String :=
      generate (context.withRegistry (Registry.empty.insertAll declarations)) oneButton
    let buildersOnly : Context :=
      { helpersOfButton with options := { Options.standard with flags := ⟨true, false, true⟩ } }
    (∀ name, oneButton.Reads helpersOfButton.options.tint name →
      (Registry.empty.insertAll [stranger, button, stranger]).lookup name =
          (Registry.empty.insertAll [button]).lookup name ∧
        [stranger, button].filter (·.widget = name) =
          [button, stranger].filter (·.widget = name)) ∧
      generated helpersOfButton [stranger, button, stranger] = generated helpersOfButton [button] ∧
      generated helpersOfButton [stranger, button] = generated helpersOfButton [button, stranger] ∧
      buildersOnly.options.flags.helpers = false ∧
      generated buildersOnly [button] = generated buildersOnly [] := by
  intro ofText button stranger generated buildersOnly
  have same : ∀ name, oneButton.Reads helpersOfButton.options.tint name →
      (Registry.empty.insertAll [stranger, button, stranger]).lookup name =
          (Registry.empty.insertAll [button]).lookup name ∧
        [stranger, button].filter (·.widget = name) =
          [button, stranger].filter (·.widget = name) := by
    intro name read
    rcases Library.Reads.of_oneButton read with rfl | rfl <;> decide +kernel
  obtain ⟨answers, insertions, _⟩ := generate_reads_own_names helpersOfButton oneButton
  obtain ⟨_, _, unwanted⟩ := generate_reads_own_names buildersOnly oneButton
  exact ⟨same, answers _ _ fun name read => (same name read).1,
    insertions .empty _ _ fun name read => (same name read).2, rfl, unwanted rfl _ _⟩

end WidgetBuilders
