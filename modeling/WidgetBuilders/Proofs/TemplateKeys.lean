import WidgetBuilders.Proofs.Sequencing
import WidgetBuilders.Template

/-!
# The first fault of a template

Values are put into a template as they are, so no value can do harm: which fault is met, if any, is
settled by the text of the template and by the keys that have values. The first segment at fault
ends the filling. A segment is at fault if it is a placeholder that does not close, or one for a key
without a value.
-/

namespace WidgetBuilders

/-- The fault is that a template is missing or cannot be filled. -/
def Fault.isAboutTemplates : Fault → Bool
  | .noTemplate .. | .noValue .. | .unclosedPlaceholder .. => true
  | _ => false

/-- Why a segment of the template `name` cannot be filled, when these keys have values. -/
def Template.Segment.fault? (name : String) (bound : String → Bool) : Segment → Option Fault
  | .literal _ => none
  | .value key => if bound key then none else some (.noValue name key)
  | .unclosed offset => some (.unclosedPlaceholder name offset)

namespace Templates

/-- Filling meets the fault of the first segment that has one. -/
theorem fill_eq_error_iff {name : String} {value? : String → Option String}
    {segments : List Template.Segment} {fault : Fault} :
    fill name value? segments = .error fault ↔
      segments.findSome? (Template.Segment.fault? name fun key => (value? key).isSome) =
        some fault := by
  induction segments with
  | nil => simp [fill]
  | cons segment rest ih =>
    -- A segment with a value puts it before the rest, which cannot fail by itself.
    have prepend (value : String) : (do return value ++ (← fill name value? rest)) =
        Except.error fault ↔ fill name value? rest = .error fault := by
      simp [bind_eq_error_iff, pure, Except.pure]
    cases segment with
    | literal text =>
      rw [fill, prepend, ih]
      rfl
    | value key =>
      rw [fill]
      cases found : value? key with
      | none => simp [Template.Segment.fault?, found]
      | some value =>
        dsimp only
        rw [prepend, ih]
        simp [Template.Segment.fault?, found]
    | unclosed offset =>
      have met : (Template.Segment.unclosed offset).fault? name (fun key => (value? key).isSome) =
          some (.unclosedPlaceholder name offset) := rfl
      rw [fill, List.findSome?_cons, met]
      simp

/-- The fault of the template `name` when these keys have values, and the key that always has. -/
def fault? (templates : Templates) (name : String) (keys : List String) : Option Fault :=
  match templates.text? name with
  | none => some (.noTemplate name)
  | some text =>
    (Template.segments text).findSome?
      (Template.Segment.fault? name fun key => key = "indent" || key ∈ keys)

/-- Whether a key has a value can be told from the keys. -/
theorem value?_isSome (templates : Templates) (bindings : List (String × String)) (key : String) :
    (templates.value? bindings key).isSome =
      (decide (key = "indent") || decide (key ∈ bindings.map Prod.fst)) := by
  have found : (bindings.lookup key).isSome = decide (key ∈ bindings.map Prod.fst) := by
    rw [Bool.eq_iff_iff, List.lookup_isSome_iff, decide_eq_true_iff, List.mem_map]
    refine exists_congr fun entry => and_congr_right fun _ => ?_
    rw [beq_iff_eq, eq_comm]
  by_cases isIndent : key = "indent"
  · simp [value?, isIndent]
  · simp [value?, isIndent, found]

/-- A template has the same fault for all values. -/
theorem render_eq_error_iff {templates : Templates} {name : String}
    {bindings : List (String × String)} {fault : Fault} :
    templates.render name bindings = .error fault ↔
      templates.fault? name (bindings.map Prod.fst) = some fault := by
  unfold render fault?
  cases templates.text? name with
  | none => simp
  | some text => simp only [fill_eq_error_iff, value?_isSome]

/-- A template without a fault can be filled with any values. -/
theorem exists_render_iff {templates : Templates} {name : String}
    {bindings : List (String × String)} :
    (∃ text, templates.render name bindings = .ok text) ↔
      templates.fault? name (bindings.map Prod.fst) = none := by
  rw [Option.eq_none_iff_forall_ne_some]
  simp only [Ne, ← render_eq_error_iff]
  cases templates.render name bindings <;> simp

/-- The fault of a template that is there is that it cannot be filled. -/
theorem unfilled_of_fault? {templates : Templates} {name text : String} {keys : List String}
    {fault : Fault} (defined : templates.text? name = some text)
    (faulty : templates.fault? name keys = some fault) :
    (∃ key, fault = .noValue name key) ∨ ∃ offset, fault = .unclosedPlaceholder name offset := by
  rw [fault?, defined] at faulty
  obtain ⟨segment, _, met⟩ := List.exists_of_findSome?_eq_some faulty
  cases segment with
  | literal text => cases met
  | value key =>
    rw [Template.Segment.fault?, Option.ite_none_left_eq_some] at met
    exact .inl ⟨key, (Option.some.inj met.2).symm⟩
  | unclosed offset => exact .inr ⟨offset, (Option.some.inj met).symm⟩

/-- Whatever is wrong with a template, the fault is about templates. -/
theorem isAboutTemplates_of_fault? {templates : Templates} {name : String} {keys : List String}
    {fault : Fault} (faulty : templates.fault? name keys = some fault) :
    fault.isAboutTemplates = true := by
  cases defined : templates.text? name with
  | none =>
    rw [fault?, defined] at faulty
    cases faulty
    rfl
  | some text => rcases unfilled_of_fault? defined faulty with ⟨_, rfl⟩ | ⟨_, rfl⟩ <;> rfl

end Templates

end WidgetBuilders
