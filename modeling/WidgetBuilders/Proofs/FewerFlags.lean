import Mathlib.Data.List.Flatten
import WidgetBuilders.Proofs.FactoryReferences
import WidgetBuilders.Proofs.ReportedFaults
import WidgetBuilders.Proofs.Sequencing
import WidgetBuilders.Proofs.TemplateKeys

/-!
# Fewer flags break nothing

Flags only ever add functions. A widget that is constructed with some flags is constructed by the
same expression with more of them, so with fewer flags fewer properties are asked for, and no two of
them can clash that did not clash before. A property that is left out takes no reference with it:
each function refers to the property of its own widget.

The other faults point the same way. That a widget cannot be constructed is a fault only if its
helper constructors are wanted, and a template that can be filled for several receivers can be
filled for one. The file can be made around any families or around none, since a placeholder asks
for a key and not for a text.

So the functions that are generated with fewer flags are some of those that are generated with all
of them, in the same order and with the same texts. The order of properties is another matter: one
that two widgets share may move to the place of the second, if the first widget does not ask for it
any more.
-/

namespace WidgetBuilders

/-- Whatever is wanted with the first flags is wanted with the second, too. -/
structure Flags.Within (fewer flags : Flags) : Prop where
  views : fewer.views = true → flags.views = true
  helpers : fewer.helpers = true → flags.helpers = true
  topLevel : fewer.topLevel = true → flags.topLevel = true

/-- The context with other flags. -/
def Context.withFlags (context : Context) (flags : Flags) : Context :=
  { context with options := { context.options with flags } }

/-! ## Plans -/

section Within

variable {context : Context} {family : Family} {widget : Widget} {fewer flags : Flags}

/-- With fewer flags, helper constructors are looked up as before or not at all. -/
theorem helpersUnder?_of_fewer (within : fewer.Within flags) :
    (context.withFlags fewer).helpersUnder? widget = none ∨
      (context.withFlags fewer).helpersUnder? widget =
        (context.withFlags flags).helpersUnder? widget := by
  by_cases chosen : fewer.helpers = true
  · right
    simp [Context.helpersUnder?, Context.withFlags, chosen, within.helpers chosen]
  · left
    simp [Context.helpersUnder?, Context.withFlags, chosen]

/-- A widget that is constructed with fewer flags is constructed in the same way with all of them,
except that helper constructors may come in addition. -/
theorem plan_of_fewer (within : fewer.Within flags) {construction : Construction}
    (planned : plan (context.withFlags fewer) family widget = .construct construction) :
    ∃ helpersUnder?,
      plan (context.withFlags flags) family widget =
        .construct { construction with helpersUnder? } ∧
        (construction.helpersUnder? = none ∨ construction.helpersUnder? = helpersUnder?) := by
  obtain ⟨concrete, sameFamily, sameTint, sameWidget, callable, helpers, wanted⟩ :=
    plan_eq_construct_iff.mp planned
  have kept : construction.helpersUnder? = none ∨
      construction.helpersUnder? = (context.withFlags flags).helpersUnder? widget :=
    helpers ▸ helpersUnder?_of_fewer within
  refine ⟨(context.withFlags flags).helpersUnder? widget, plan_eq_construct_iff.mpr ⟨concrete,
    sameFamily, sameTint, sameWidget, callable, rfl, ?_⟩, kept⟩
  rcases wanted with views | some
  · exact Or.inl (within.views views)
  · right
    rcases kept with none | same
    · simp [none] at some
    · exact same ▸ some

/-- A widget that is at fault with fewer flags is so with all of them. -/
theorem plan_fault_of_fewer (within : fewer.Within flags) {fault : Fault}
    (planned : plan (context.withFlags fewer) family widget = .fault fault) :
    plan (context.withFlags flags) family widget = .fault fault := by
  obtain ⟨concrete, uncallable, key, helpers, told⟩ := plan_eq_fault_iff.mp planned
  refine plan_eq_fault_iff.mpr ⟨concrete, uncallable, key, ?_, told⟩
  rcases helpersUnder?_of_fewer within with none | same
  · rw [none] at helpers
    cases helpers
  · exact same ▸ helpers

end Within

/-! ## Contributions -/

/-- Some of the builders can be filled in if all of them can, and their blocks are the same. -/
theorem Block.ofBuilders_of_sublist {templates : Templates} {some builders : List Builder}
    (among : some.Sublist builders) {blocks : List Block}
    (filled : ofBuilders templates builders = .ok blocks) :
    ∃ fewer, ofBuilders templates some = .ok fewer ∧ fewer.Sublist blocks := by
  induction among generalizing blocks with
  | slnil => exact ⟨blocks, filled, List.Sublist.refl _⟩
  | @cons some rest builder _ ih =>
    obtain ⟨text, _, filled⟩ := bind_eq_ok_iff.mp filled
    obtain ⟨others, later, made⟩ := bind_eq_ok_iff.mp filled
    obtain ⟨fewer, kept, among⟩ := ih later
    cases made
    exact ⟨fewer, kept, among.cons _⟩
  | @cons_cons some rest builder _ ih =>
    obtain ⟨text, rendered, filled⟩ := bind_eq_ok_iff.mp filled
    obtain ⟨others, later, made⟩ := bind_eq_ok_iff.mp filled
    obtain ⟨fewer, kept, among⟩ := ih later
    cases made
    refine ⟨⟨.builders builder, text⟩ :: fewer, ?_, among.cons_cons _⟩
    rw [ofBuilders, rendered, kept]
    rfl

namespace Contribution

/-- If one of two contributions is without faults, the other is so, too, and has some of its blocks
in their order. -/
structure Within (less all : Contribution) : Prop where
  faultless : all.faults = [] → less.faults = []
  blocks : all.faults = [] → less.blocks.Sublist all.blocks

/-- A contribution is within itself. -/
theorem Within.refl (part : Contribution) : Within part part :=
  ⟨id, fun _ => List.Sublist.refl _⟩

/-- Nothing is within every contribution. -/
theorem empty_within (level : Nat) (part : Contribution) : Within (empty level) part :=
  ⟨fun _ => rfl, fun _ => List.nil_sublist _⟩

/-- Parts within others, one by one, are within them together. -/
theorem Within.append {less all laterLess laterAll : Contribution} (first : Within less all)
    (second : Within laterLess laterAll) :
    Within (less.append laterLess) (all.append laterAll) := by
  constructor <;> intro faultless <;> obtain ⟨before, after⟩ := List.append_eq_nil_iff.mp faultless
  · exact List.append_eq_nil_iff.mpr ⟨first.faultless before, second.faultless after⟩
  · exact (first.blocks before).append (second.blocks after)

/-- Nothing is added by what is empty. -/
theorem append_empty (part : Contribution) : part.append (.empty part.level) = part := by
  simp [append, empty]

end Contribution

namespace Construction

variable {context : Context} {fewer flags : Flags} {factory : String} {level : Nat}

/-- With fewer flags there are fewer receivers, in the same order. -/
theorem builders_of_fewer (within : fewer.Within flags) (construction : Construction)
    (factory : String) :
    (construction.builders fewer factory).Sublist (construction.builders flags factory) := by
  unfold builders
  dsimp only
  by_cases views : fewer.views = true
  · rw [if_pos views, if_pos (within.views views)]
    apply List.Sublist.map
    by_cases all : (construction.widget.isContainer && fewer.topLevel) = true
    · have also : (construction.widget.isContainer && flags.topLevel) = true := by
        simp only [Bool.and_eq_true] at all ⊢
        exact ⟨all.1, within.topLevel all.2⟩
      rw [if_pos all, if_pos also]
    · rw [if_neg all]
      split <;> simp
  · rw [if_neg views]
    exact List.nil_sublist _

/-- The functions for helper constructors, if there are any to generate. -/
def helpersPart (context : Context) (construction : Construction) (factory : String)
    (level : Nat) : Contribution :=
  match construction.helpersUnder? with
  | none => .empty level
  | some key => construction.helperContribution context factory key level

/-- A widget contributes its builder functions first and then its helper constructors, if any. -/
theorem contribution_eq_append (construction : Construction) :
    construction.contribution context factory level =
      (construction.builderContribution context factory level).append
        (construction.helpersPart context factory level) := by
  have levels := construction.builderContribution_level context factory level
  unfold contribution helpersPart
  cases construction.helpersUnder? with
  | none =>
    have unchanged := (construction.builderContribution context factory level).append_empty
    rw [levels] at unchanged
    exact unchanged.symm
  | some key => simp only [levels]

/-- With fewer flags, the builder functions of a widget are among those with all flags. -/
theorem builderContribution_within (context : Context) (construction : Construction)
    (within : fewer.Within flags) (factory : String) (level : Nat) :
    (construction.builderContribution (context.withFlags fewer) factory level).Within
      (construction.builderContribution (context.withFlags flags) factory level) := by
  unfold builderContribution
  cases filled : Block.ofBuilders (context.withFlags flags).templates
      (construction.builders (context.withFlags flags).options.flags factory) with
  | error fault => constructor <;> intro faultless <;> cases faultless
  | ok blocks =>
    obtain ⟨some, kept, among⟩ := Block.ofBuilders_of_sublist
      (construction.builders_of_fewer within factory) filled
    have filledFewer : Block.ofBuilders (context.withFlags fewer).templates
        (construction.builders (context.withFlags fewer).options.flags factory) = .ok some := kept
    rw [filledFewer]
    exact ⟨fun _ => rfl, fun _ => among⟩

/-- The functions of a widget with fewer flags are some of those that it has with all of them, when
it is constructed for more helper constructors or for the same. -/
theorem contribution_within (context : Context) (construction : Construction)
    (within : fewer.Within flags) {helpersUnder? : Option String}
    (kept : construction.helpersUnder? = none ∨ construction.helpersUnder? = helpersUnder?)
    (factory : String) (level : Nat) :
    (construction.contribution (context.withFlags fewer) factory level).Within
      ({ construction with helpersUnder? }.contribution (context.withFlags flags) factory
        level) := by
  rw [contribution_eq_append, contribution_eq_append]
  -- The builder functions do not depend on where the helper constructors are looked up.
  have builders := construction.builderContribution_within context within factory level
  refine builders.append ?_
  rcases kept with none | rfl
  · rw [helpersPart, none]
    exact Contribution.empty_within level _
  · exact Contribution.Within.refl _

end Construction

/-! ## Sheets -/

namespace Sheet

variable {context : Context} {family : Family} {fewer flags : Flags}

/-- A widget asks for the same property with fewer flags, if it asks for one. -/
theorem request?_of_fewer (within : fewer.Within flags) {widget : Widget} {entry : FactoryEntry}
    (asked : request? (context.withFlags fewer) family widget = some entry) :
    request? (context.withFlags flags) family widget = some entry := by
  unfold request? at asked ⊢
  split at asked
  · next construction planned =>
    obtain ⟨helpersUnder?, plannedAll, _⟩ := plan_of_fewer within planned
    rw [plannedAll]
    exact asked
  · cases asked

/-- The sheet of one widget, with fewer flags and with all of them. -/
theorem alone_of_fewer (within : fewer.Within flags) {widget : Widget}
    (faultless : (ofWidgets (context.withFlags flags) family [widget]).faults = []) :
    (ofWidgets (context.withFlags fewer) family [widget]).faults = [] ∧
      (ofWidgets (context.withFlags fewer) family [widget]).blocks.Sublist
        (ofWidgets (context.withFlags flags) family [widget]).blocks := by
  cases planned : plan (context.withFlags fewer) family widget with
  | «omit» => simp [ofWidgets, take, planned]
  | unusable => simp [ofWidgets, take, planned, add]
  | fault fault =>
    have planned := plan_fault_of_fewer within planned
    simp [ofWidgets, take, planned, add] at faultless
  | construct construction =>
    obtain ⟨helpersUnder?, plannedAll, kept⟩ := plan_of_fewer within planned
    obtain ⟨blocks, faults⟩ := alone_of_construct planned
    obtain ⟨blocksAll, faultsAll⟩ := alone_of_construct plannedAll
    rw [faultsAll] at faultless
    rw [blocks, faults, blocksAll]
    have both := construction.contribution_within context within kept
      (Factory.reference (Factory.objectName context.options.artifact family)
        construction.entry.key) 0
    exact ⟨both.faultless faultless, both.blocks faultless⟩

/-- What the widgets ask for with fewer flags is among what they ask for with all of them. -/
theorem requests_subset_of_fewer (context : Context) (family : Family)
    (within : fewer.Within flags) (widgets : List Widget) :
    widgets.filterMap (request? (context.withFlags fewer) family) ⊆
      widgets.filterMap (request? (context.withFlags flags) family) := by
  intro entry member
  obtain ⟨widget, among, asked⟩ := List.mem_filterMap.mp member
  exact List.mem_filterMap.mpr ⟨widget, among, request?_of_fewer within asked⟩

/-- The sheet of a family without faults: with fewer flags it is without faults, too, its properties
are among those with all flags, and its blocks are some of those with all flags. -/
theorem ofWidgets_of_fewer (within : fewer.Within flags) {widgets : List Widget}
    (faultless : (ofWidgets (context.withFlags flags) family widgets).faults = []) :
    (ofWidgets (context.withFlags fewer) family widgets).faults = [] ∧
      (ofWidgets (context.withFlags fewer) family widgets).factory.entries ⊆
        (ofWidgets (context.withFlags flags) family widgets).factory.entries ∧
      (ofWidgets (context.withFlags fewer) family widgets).blocks.Sublist
        (ofWidgets (context.withFlags flags) family widgets).blocks := by
  obtain ⟨alone, agreeing⟩ := (faults_eq_nil_iff widgets).mp faultless
  have subset := requests_subset_of_fewer context family within widgets
  have fewerFaultless : (ofWidgets (context.withFlags fewer) family widgets).faults = [] :=
    (faults_eq_nil_iff widgets).mpr
      ⟨fun widget member => (alone_of_fewer within (alone widget member)).1,
        fun one first other second => agreeing one (subset first) other (subset second)⟩
  refine ⟨fewerFaultless, ?_, ?_⟩
  · intro entry member
    rw [ofWidgets_entries] at member ⊢
    exact Factory.mem_firstOfEachKey_of_agreeing agreeing
      (subset (Factory.mem_of_mem_firstOfEachKey member))
  · rw [blocks_of_faultless fewerFaultless, blocks_of_faultless faultless]
    exact List.Sublist.flatMap_right widgets
      fun widget member => (alone_of_fewer within (alone widget member)).2

end Sheet

/-! ## The file -/

/-- If the file can be made around some texts, it can be made around any others. -/
theorem renderFile_of_other {context : Context} {bodies : List String} {text : String}
    (rendered : renderFile context bodies = .ok text) (others : List String) :
    ∃ other, renderFile context others = .ok other := by
  have faultless : context.templates.fault? "file" ["package", "body"] = none :=
    Templates.exists_render_iff.mp ⟨text, rendered⟩
  exact Templates.exists_render_iff.mpr faultless

/-- A file is generated exactly if no family has a fault, and the file's template can be filled. -/
theorem generate_eq_ok_iff {context : Context} {library : Library} {text : String} :
    generate context library = .ok text ↔
      (∀ family : Family,
        (Sheet.ofWidgets context family (family.widgets library)).faults = []) ∧
      renderFile context ((sheets context library).map (·.text context.templates.indent)) =
        .ok text := by
  have split : (sheets context library).flatMap (·.faults) = [] ↔ ∀ family : Family,
      (Sheet.ofWidgets context family (family.widgets library)).faults = [] := by
    simp only [sheets, List.flatMap_eq_nil_iff, List.forall_mem_map]
    exact ⟨fun all family => all family (by cases family <;> simp [Family.all]),
      fun all family _ => all family⟩
  unfold generate
  dsimp only
  rw [← split]
  cases (sheets context library).flatMap (·.faults) with
  | nil =>
    cases renderFile context ((sheets context library).map (·.text context.templates.indent)) <;>
      simp [Except.mapError]
  | cons fault rest => simp

/-- Turning flags off never breaks a generation.

If a file is generated, one is generated with fewer flags, too. In each family, the properties of
the factory object are then among those that it has with all flags, with the same expressions, and
the blocks of functions are some of those that are made with all flags, with the same texts and in
the same order. -/
theorem generate_of_fewer_flags (context : Context) (library : Library) {fewer flags : Flags}
    (within : fewer.Within flags) {text : String}
    (generated : generate (context.withFlags flags) library = .ok text) :
    (∃ less, generate (context.withFlags fewer) library = .ok less) ∧
      ∀ family : Family,
        let widgets : List Widget := family.widgets library
        let sheet (chosen : Flags) : Sheet := .ofWidgets (context.withFlags chosen) family widgets
        (∀ chosen ∈ [fewer, flags],
          renderFamily (context.withFlags chosen) family widgets =
            .ok ((sheet chosen).text context.templates.indent)) ∧
        (∀ entry ∈ (sheet fewer).factory.entries, entry ∈ (sheet flags).factory.entries) ∧
        (sheet fewer).blocks.Sublist (sheet flags).blocks := by
  obtain ⟨faultless, file⟩ := generate_eq_ok_iff.mp generated
  have both (family : Family) := Sheet.ofWidgets_of_fewer within (faultless family)
  constructor
  · obtain ⟨less, rendered⟩ := renderFile_of_other file
      ((sheets (context.withFlags fewer) library).map (·.text context.templates.indent))
    exact ⟨less, generate_eq_ok_iff.mpr ⟨fun family => (both family).1, rendered⟩⟩
  · intro family widgets sheet
    obtain ⟨faultlessFewer, entries, blocks⟩ := both family
    refine ⟨?_, fun entry member => entries member, blocks⟩
    have rendered (chosen : Flags) (noFault : (sheet chosen).faults = []) :
        renderFamily (context.withFlags chosen) family widgets =
          .ok ((sheet chosen).text context.templates.indent) :=
      (renderFamily_eq_ok_iff_faultless _ _ _ _).mpr ⟨noFault, rfl⟩
    simpa using ⟨rendered fewer faultlessFewer, rendered flags (faultless family)⟩

/-- Helper constructors of one button, with all flags and with templates of one line. -/
def shortFile : Context where
  options := .standard
  registry := helpersOfButton.registry
  templates :=
    { indent := "\t"
      texts := [("view", "fun \x7b\x7breceiver\x7d\x7d.\x7b\x7bfunctionName\x7d\x7d()\n"),
        ("file", "\x7b\x7bbody\x7d\x7d")] }

/-- Without builder functions, the text field is left out and the button keeps its helper
constructor. -/
theorem generate_of_fewer_flags_of_button :
    let button : Widget := textWidget "android.support.v7.widget.AppCompatButton" "AppCompatButton"
    let field : Widget := textWidget "android.widget.EditText" "EditText"
    let sheet (chosen : Flags) : Sheet :=
      .ofWidgets (shortFile.withFlags chosen) .view [field, button]
    let helpersOnly : Flags := ⟨false, true, false⟩
    helpersOnly.Within .all ∧
      (∃ text, generate (shortFile.withFlags .all) ⟨[field, button], []⟩ = .ok text) ∧
      (∃ less, generate (shortFile.withFlags helpersOnly) ⟨[field, button], []⟩ = .ok less) ∧
      (sheet helpersOnly).blocks.Sublist (sheet .all).blocks ∧
      (sheet helpersOnly).blocks.length = 1 := by
  intro button field sheet helpersOnly
  have within : helpersOnly.Within .all := ⟨fun _ => rfl, fun _ => rfl, fun _ => rfl⟩
  have faultless (family : Family) : (Sheet.ofWidgets (shortFile.withFlags .all) family
      (family.widgets ⟨[field, button], []⟩)).faults = [] := by
    cases family <;> decide +kernel
  have file : renderFile (shortFile.withFlags .all) [] = .ok "" := by decide +kernel
  obtain ⟨text, rendered⟩ := renderFile_of_other file
    ((sheets (shortFile.withFlags .all) ⟨[field, button], []⟩).map (·.text "\t"))
  have generated : generate (shortFile.withFlags .all) ⟨[field, button], []⟩ = .ok text :=
    generate_eq_ok_iff.mpr ⟨faultless, rendered⟩
  obtain ⟨less, families⟩ :=
    generate_of_fewer_flags shortFile ⟨[field, button], []⟩ within generated
  exact ⟨within, ⟨text, generated⟩, less, (families .view).2.2, by decide +kernel⟩

end WidgetBuilders
