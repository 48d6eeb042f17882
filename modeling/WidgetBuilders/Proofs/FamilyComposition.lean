import WidgetBuilders.Proofs.SheetSteps

/-!
# Rendering a family widget by widget

A family can be rendered if each of its widgets can be rendered alone and no two of them ask for the
same factory property with different expressions. The text is then put together from what the
widgets yield alone: one factory object with the first property of each key, and all functions, in
the order of the widgets. Widgets that are left out, and repeated ones, need no rule of their own.

The other direction matters as much. A family that is rendered has no widget that could not be
rendered alone: a widget cannot be mended by its neighbours, and it cannot be spoilt by them except
through the key of its property.
-/

namespace WidgetBuilders

namespace Sheet

/-- The text of the functions, without the factory object. -/
def functionsText (sheet : Sheet) : String :=
  Text.concat (sheet.blocks.map (·.text))

variable {context : Context} {family : Family}

/-- Without faults in the end, there was no fault and no clash at any step. -/
theorem faultless_step {widgets : List Widget} {widget : Widget}
    (faultless : (ofWidgets context family (widgets ++ [widget])).faults = []) :
    (ofWidgets context family widgets).faults = [] ∧
      clashIn? context family (ofWidgets context family widgets).factory widget = none ∧
      (ofWidgets context family [widget]).faults = [] := by
  have adds := ofWidgets_adds context family widgets widget
  rw [adds.faults] at faultless
  obtain ⟨before, added⟩ := List.append_eq_nil_iff.mp faultless
  cases clash : clashIn? context family (ofWidgets context family widgets).factory widget with
  | none =>
    rw [clash] at added
    exact ⟨before, rfl, added⟩
  | some fault =>
    rw [clash] at added
    cases added

/-- Where no two requests disagree, a widget clashes with none before it exactly if its own request
disagrees with none of theirs. -/
theorem clashIn?_eq_none_iff {widgets : List Widget} {widget : Widget}
    (agreeing : Factory.Agreeing (widgets.filterMap (request? context family))) :
    clashIn? context family (ofWidgets context family widgets).factory widget = none ↔
      Factory.Agreeing ((widgets ++ [widget]).filterMap (request? context family)) := by
  cases asked : request? context family widget with
  | none => simp [clashIn?, asked, agreeing]
  | some entry =>
    have entries := ofWidgets_entries context family widgets
    have clash := Factory.clash?_eq_none_iff_of_agreeing entries agreeing entry
    simp only [clashIn?, asked, Option.bind_some, List.filterMap_append, List.filterMap_cons,
      List.filterMap_nil, Factory.agreeing_append_singleton, agreeing, true_and]
    exact clash

/-- The faults of a family are those of its widgets and the clashes between them. -/
theorem faults_eq_nil_iff (widgets : List Widget) :
    (ofWidgets context family widgets).faults = [] ↔
      (∀ widget ∈ widgets, (ofWidgets context family [widget]).faults = []) ∧
        Factory.Agreeing (widgets.filterMap (request? context family)) := by
  -- From the last widget: it adds its own faults, and a clash with what was asked for before it.
  induction widgets using List.reverseRecOn with
  | nil => simp [ofWidgets, Factory.Agreeing]
  | append_singleton widgets widget ih =>
    constructor
    · intro faultless
      obtain ⟨before, free, alone⟩ := faultless_step faultless
      obtain ⟨others, agreeing⟩ := ih.mp before
      refine ⟨?_, (clashIn?_eq_none_iff agreeing).mp free⟩
      intro one member
      rcases List.mem_append.mp member with member | member
      · exact others one member
      · exact List.mem_singleton.mp member ▸ alone
    · rintro ⟨alone, agreeing⟩
      have agreeingBefore : Factory.Agreeing (widgets.filterMap (request? context family)) := by
        intro one first other second
        refine agreeing one ?_ other ?_ <;> simp [first, second]
      have before : (ofWidgets context family widgets).faults = [] :=
        ih.mpr ⟨fun one member => alone one (List.mem_append_left _ member), agreeingBefore⟩
      have free := (clashIn?_eq_none_iff agreeingBefore).mpr agreeing
      have last : (ofWidgets context family [widget]).faults = [] := alone widget (by simp)
      rw [(ofWidgets_adds context family widgets widget).faults, free, before]
      exact last

/-- Without faults, the functions are those of each widget alone, in the order of the widgets. -/
theorem blocks_of_faultless {widgets : List Widget}
    (faultless : (ofWidgets context family widgets).faults = []) :
    (ofWidgets context family widgets).blocks =
      widgets.flatMap fun widget => (ofWidgets context family [widget]).blocks := by
  induction widgets using List.reverseRecOn with
  | nil => rfl
  | append_singleton widgets widget ih =>
    obtain ⟨before, free, _⟩ := faultless_step faultless
    rw [(ofWidgets_adds context family widgets widget).blocks, free, ih before]
    simp [ofWidgets]

/-- The text of several sheets' functions is that of their blocks together. -/
theorem concat_functionsText (sheets : List Sheet) :
    Text.concat (sheets.map functionsText) =
      Text.concat ((sheets.flatMap (·.blocks)).map (·.text)) := by
  induction sheets with
  | nil => rfl
  | cons sheet rest ih =>
    simp only [List.map_cons, List.flatMap_cons, List.map_append, Text.concat_append, Text.concat,
      ih, functionsText]

end Sheet

/-- A family is rendered exactly if its sheet has no faults, and then to the text of the sheet. -/
theorem renderFamily_eq_ok_iff_faultless (context : Context) (family : Family)
    (widgets : List Widget) (text : String) :
    renderFamily context family widgets = .ok text ↔
      (Sheet.ofWidgets context family widgets).faults = [] ∧
        (Sheet.ofWidgets context family widgets).text context.templates.indent = text := by
  unfold renderFamily Sheet.result Report.check
  cases faults : (Sheet.ofWidgets context family widgets).faults <;> simp

end WidgetBuilders
