import Mathlib.Data.List.Induction
import WidgetBuilders.Template.Override

/-!
# Templates after some changes

Templates begin as the built-in ones, and from then on they change in two ways: one template is
inserted, or the overrides of a directory are loaded. Loading may fail, and a file that cannot be
read may come before or after others; what was replaced by then stays replaced, and the caller may
go on with the templates as they are.

Whether a change replaces a template is said here without the store: by the name under which a text
is inserted, or by the files that a directory holds. A change gives a template the text that it
replaces it with, and leaves all other templates alone. No change takes a template away, so the
built-in templates always have a text, and they have their own text unless a change has replaced
them.
-/

namespace WidgetBuilders

/-- A change of templates. -/
inductive TemplateChange
  | insert (name text : String)
  /-- Loads overrides from a directory, out of the files as they are by then. -/
  | override (files : FileTree) (directory : String)

namespace TemplateChange

/-- The templates after a change. Loading that fails is a change, too. -/
def apply (templates : Templates) : TemplateChange → Templates
  | .insert name text => templates.insert name text
  | .override files directory => (templates.overrideFrom files directory).templates

/-- When overrides of some templates are loaded, that of `name` is loaded with `text`: its file can
be read, and so can those that are loaded before it. -/
inductive Loads (files : FileTree) (directory name text : String) : List String → Prop
  | here {rest : List String}
      (present : files.isFile (Templates.overridePath directory name) = true)
      (readable : files.readText (Templates.overridePath directory name) = .ok text) :
      Loads files directory name text (name :: rest)
  | past {other : String} {rest : List String}
      (absent : files.isFile (Templates.overridePath directory other) = false)
      (later : Loads files directory name text rest) :
      Loads files directory name text (other :: rest)
  | after {other otherText : String} {rest : List String}
      (present : files.isFile (Templates.overridePath directory other) = true)
      (readable : files.readText (Templates.overridePath directory other) = .ok otherText)
      (later : Loads files directory name text rest) :
      Loads files directory name text (other :: rest)

/-- The change replaces the template `name` with `text`. -/
inductive Replaces (name text : String) : TemplateChange → Prop
  | inserted : Replaces name text (.insert name text)
  | loaded {files : FileTree} {directory : String}
      (loads : Loads files directory name text Template.builtinNames) :
      Replaces name text (.override files directory)

/-- The change leaves the template `name` alone. -/
def Keeps (name : String) (change : TemplateChange) : Prop :=
  ∀ text, ¬ change.Replaces name text

end TemplateChange

namespace Templates

open TemplateChange

/-- The built-in templates after some changes, one after another. -/
def changed (indent : String) (changes : List TemplateChange) : Templates :=
  changes.foldl TemplateChange.apply (.builtin indent)

/-- An inserted text is found under its own name, and changes no other. -/
theorem text?_insert (templates : Templates) (name text other : String) :
    (templates.insert name text).text? other =
      if other = name then some text else templates.text? other := by
  by_cases same : other = name
  · simp [insert, text?, same]
  · have apart : (other == name) = false := beq_false_of_ne same
    simp [insert, text?, List.lookup_cons, apart, same]

/-! ## One change -/

section Load

variable {files : FileTree} {directory name : String}

/-- A template whose override is not loaded keeps its text. -/
theorem text?_loadEach_of_not_loads {names : List String}
    (kept : ∀ text, ¬ Loads files directory name text names) (templates : Templates) :
    (templates.loadEach files directory names).templates.text? name = templates.text? name := by
  induction names generalizing templates with
  | nil => rfl
  | cons other rest ih =>
    rw [loadEach]
    dsimp only
    cases present : files.isFile (overridePath directory other) with
    | false => exact ih (fun text later => kept text (.past present later)) templates
    | true =>
      rw [if_pos rfl]
      cases readable : files.readText (overridePath directory other) with
      | error fault => rfl
      | ok otherText =>
        have apart : name ≠ other := by
          rintro rfl
          exact kept otherText (.here present readable)
        have unchanged := ih (fun text later => kept text (.after present readable later))
          (templates.insert other otherText)
        rw [text?_insert, if_neg apart] at unchanged
        exact unchanged

/-- Only templates that are among the names are loaded. -/
theorem mem_of_loads {text : String} {names : List String}
    (loads : Loads files directory name text names) : name ∈ names := by
  induction loads with
  | here => exact List.mem_cons_self
  | past _ _ ih => exact List.mem_cons_of_mem _ ih
  | after _ _ _ ih => exact List.mem_cons_of_mem _ ih

/-- A template whose override is loaded has the text of the file. -/
theorem text?_loadEach_of_loads {text : String} {names : List String} (distinct : names.Nodup)
    (loads : Loads files directory name text names) (templates : Templates) :
    (templates.loadEach files directory names).templates.text? name = some text := by
  induction loads generalizing templates with
  | @here rest present readable =>
    -- The names that come later are others, so the text stays.
    have others : ∀ otherText, ¬ Loads files directory name otherText rest :=
      fun _ later => (List.nodup_cons.mp distinct).1 (mem_of_loads later)
    have kept := text?_loadEach_of_not_loads others (templates.insert name text)
    rw [text?_insert, if_pos rfl] at kept
    simpa [loadEach, present, readable] using kept
  | past absent _ ih =>
    simpa [loadEach, absent] using ih (List.nodup_cons.mp distinct).2 templates
  | @after other otherText _ present readable _ ih =>
    have loaded := ih (List.nodup_cons.mp distinct).2 (templates.insert other otherText)
    simpa [loadEach, present, readable] using loaded

/-- Loading fails exactly if some override that is there cannot be read, wherever it comes among
them. -/
theorem fault?_loadEach_eq_none_iff {names : List String} (templates : Templates) :
    (templates.loadEach files directory names).fault? = none ↔
      ∀ name ∈ names, files.isFile (overridePath directory name) = true →
        ∃ text, files.readText (overridePath directory name) = .ok text := by
  induction names generalizing templates with
  | nil => simp [loadEach]
  | cons other rest ih =>
    rw [loadEach, List.forall_mem_cons]
    dsimp only
    cases present : files.isFile (overridePath directory other) with
    | false => simpa using ih templates
    | true =>
      rw [if_pos rfl]
      cases readable : files.readText (overridePath directory other) with
      | error fault => simp
      | ok text => simpa using ih (templates.insert other text)

/-- A file that may not be opened is there all the same, so it is told of and not passed over. -/
example :
    let denied : FileFault := .refused "Permission denied" 13
    let files : FileTree := ⟨[], [(["t", "view.kt.tmpl"], .lockedFile denied)], none⟩
    ((builtin "").overrideFrom files "t").fault? = some denied := by
  decide +kernel

end Load

/-- After a change that replaces a template, the template has its new text. -/
theorem text?_apply_of_replaces {change : TemplateChange} {name text : String}
    (replaces : change.Replaces name text) (templates : Templates) :
    (change.apply templates).text? name = some text := by
  cases replaces with
  | inserted => simp [apply, text?_insert]
  | loaded loads =>
    have distinct : Template.builtinNames.Nodup := by decide
    exact text?_loadEach_of_loads distinct loads templates

/-- A change leaves the templates alone that it does not replace. -/
theorem text?_apply_of_keeps {change : TemplateChange} {name : String}
    (keeps : change.Keeps name) (templates : Templates) :
    (change.apply templates).text? name = templates.text? name := by
  cases change with
  | insert other text =>
    have apart : name ≠ other := by
      rintro rfl
      exact keeps text .inserted
    simp [apply, text?_insert, apart]
  | override files directory =>
    exact text?_loadEach_of_not_loads (fun text loads => keeps text (.loaded loads)) templates

/-- No change takes a template away. -/
theorem text?_apply_isSome {templates : Templates} {name : String}
    (defined : (templates.text? name).isSome = true) (change : TemplateChange) :
    ((change.apply templates).text? name).isSome = true := by
  by_cases replaced : ∃ text, change.Replaces name text
  · obtain ⟨text, replaces⟩ := replaced
    rw [text?_apply_of_replaces replaces]
    rfl
  · rw [text?_apply_of_keeps (not_exists.mp replaced)]
    exact defined

/-! ## Any number of changes -/

/-- One more change is made to what the changes before it have left. -/
theorem changed_append_singleton (indent : String) (changes : List TemplateChange)
    (change : TemplateChange) :
    changed indent (changes ++ [change]) = change.apply (changed indent changes) := by
  simp [changed]

/-- A built-in template is always there. -/
theorem text?_changed_isSome {name : String} (builtin : name ∈ Template.builtinNames)
    (indent : String) (changes : List TemplateChange) :
    ((changed indent changes).text? name).isSome = true := by
  induction changes using List.reverseRecOn with
  | nil =>
    have initial : ∀ name ∈ Template.builtinNames,
        (Template.builtins.lookup name).isSome = true := by decide +kernel
    exact initial name builtin
  | append_singleton changes change ih =>
    rw [changed_append_singleton]
    exact text?_apply_isSome ih change

/-- A template that all changes leave alone has the text that it had at first. -/
theorem text?_changed_of_keeps {name : String} {changes : List TemplateChange}
    (keep : ∀ change ∈ changes, change.Keeps name) (indent : String) :
    (changed indent changes).text? name = (builtin indent).text? name := by
  induction changes using List.reverseRecOn with
  | nil => rfl
  | append_singleton changes change ih =>
    have before := ih fun other among => keep other (List.mem_append_left _ among)
    rw [changed_append_singleton,
      text?_apply_of_keeps (keep change (List.mem_append_right _ List.mem_cons_self)), before]

end Templates

end WidgetBuilders
