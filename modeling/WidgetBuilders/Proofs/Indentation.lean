import WidgetBuilders.Contribution
import WidgetBuilders.Proofs.SetterResolution

/-!
# Helper functions close what they open

Helper functions are laid out by the braces at the two ends of their lines, and the level that they
leave is where the next ones start. The names in these lines come from metadata and may hold any
characters, so a name might be taken for a brace. It never is: a head begins and ends with fixed
words, and the call of a setter begins with `set` and ends with a round bracket.

So every contribution leaves the level at which it starts, and a helper function stands in the text
as two pairs of braces, one in the other. This is about the lines of helper functions only; builder
functions are texts of their own and are never looked at.
-/

namespace WidgetBuilders

namespace Kotlin

/-- Lines after which the level is what it was before them, whatever that was. -/
def Balanced (lines : List String) : Prop :=
  ∀ level, levelAfter level lines = level

/-- The level after some lines is where the next ones start. -/
theorem levelAfter_append (level : Nat) (front back : List String) :
    levelAfter level (front ++ back) = levelAfter (levelAfter level front) back := by
  simp only [levelAfter, List.foldl_append]

/-- Balanced lines after balanced lines are balanced. -/
theorem balanced_append {front back : List String} (first : Balanced front)
    (second : Balanced back) : Balanced (front ++ back) := by
  intro level
  rw [levelAfter_append, first, second]

/-- A line with no brace at either end that counts leaves the level alone. -/
theorem nextLevel_plain {line : String} (unclosed : closes line = false)
    (unopened : opens line = false) (level : Nat) : nextLevel level line = level := by
  simp [nextLevel, lineLevel, unclosed, unopened]

/-- Lines without a brace at either end are balanced. -/
theorem balanced_of_plain {lines : List String}
    (plain : ∀ line ∈ lines, closes line = false ∧ opens line = false) : Balanced lines := by
  intro level
  induction lines with
  | nil => rfl
  | cons line rest ih =>
    obtain ⟨unclosed, unopened⟩ := plain line (by simp)
    have tail : levelAfter level rest = level :=
      ih fun other member => plain other (List.mem_cons_of_mem _ member)
    rw [levelAfter, List.foldl_cons, nextLevel_plain unclosed unopened]
    exact tail

/-- A line that opens a brace, balanced lines, and the closing brace on a line of its own. -/
theorem balanced_enclose {head : String} {body : List String} (unclosed : closes head = false)
    (opened : opens head = true) (inner : Balanced body) :
    Balanced (head :: body ++ ["\x7d"]) := by
  intro level
  have entered : nextLevel level head = level + 1 := by
    simp [nextLevel, lineLevel, unclosed, opened]
  have left : nextLevel (level + 1) "\x7d" = level := by
    have closing : closes "\x7d" = true := by decide
    have notOpening : opens "\x7d" = false := by decide
    simp [nextLevel, lineLevel, closing, notOpening]
  have through : levelAfter level (head :: body) = level + 1 := by
    rw [levelAfter, List.foldl_cons, entered]
    exact inner (level + 1)
  rw [levelAfter_append, through]
  exact left

/-- Whether a line closes a brace is told from its beginning, if there is one. -/
theorem closes_append {front : String} (back : String) (nonempty : front ≠ "") :
    closes (front ++ back) = closes front := by
  cases characters : front.toList with
  | nil => exact absurd (String.toList_eq_nil_iff.mp characters) nonempty
  | cons first rest => simp [closes, characters]

/-- Whether a line opens a brace is told from its end, if there is one. -/
theorem opens_append (front : String) {back : String} (nonempty : back ≠ "") :
    opens (front ++ back) = opens back := by
  have present : back.toList.getLast?.isSome = true := by simpa using nonempty
  obtain ⟨last, ending⟩ := Option.isSome_iff_exists.mp present
  simp [opens, ending]

/-! ## The text of lines -/

variable {indent : String} {level : Nat}

/-- After a line that opens a brace, the others stand one level deeper. -/
theorem layout_opening {head : String} (unclosed : closes head = false)
    (opened : opens head = true) (rest : List String) :
    layout indent level (head :: rest) =
      Text.repeated level indent ++ head ++ "\n" ++ layout indent (level + 1) rest := by
  simp [layout, layoutLine, lineLevel, nextLevel, unclosed, opened]

/-- Lines without a brace at either end all stand at the same level. -/
theorem layout_plain {lines : List String}
    (plain : ∀ line ∈ lines, closes line = false ∧ opens line = false) :
    layout indent level lines =
      Text.concat (lines.map fun line => Text.repeated level indent ++ line ++ "\n") := by
  induction lines with
  | nil => rfl
  | cons line rest ih =>
    obtain ⟨unclosed, unopened⟩ := plain line List.mem_cons_self
    have others := ih fun line member => plain line (List.mem_cons_of_mem _ member)
    rw [layout, nextLevel_plain unclosed unopened, others]
    simp [layoutLine, lineLevel, unclosed, Text.concat]

/-- Two closing braces go back two levels. -/
theorem layout_closing :
    layout indent (level + 2) ["\x7d", "\x7d"] =
      Text.repeated (level + 1) indent ++ "\x7d\n" ++ Text.repeated level indent ++ "\x7d\n" := by
  have closed : closes "\x7d" = true := by decide
  have unopened : opens "\x7d" = false := by decide
  simp [layout, layoutLine, lineLevel, nextLevel, closed, unopened, String.append_assoc]

/-- Lines in two pairs of braces stand two levels deeper. -/
theorem layout_nested {head inner : String} {body : List String}
    (headUnclosed : closes head = false) (headOpened : opens head = true)
    (unclosed : closes inner = false) (opened : opens inner = true)
    (plain : ∀ line ∈ body, closes line = false ∧ opens line = false) :
    layout indent level ([head, inner] ++ body ++ ["\x7d", "\x7d"]) =
      Text.repeated level indent ++ head ++ "\n"
        ++ (Text.repeated (level + 1) indent ++ inner ++ "\n"
        ++ (Text.concat (body.map fun line => Text.repeated (level + 2) indent ++ line ++ "\n")
          ++ (Text.repeated (level + 1) indent ++ "\x7d\n" ++ Text.repeated level indent
            ++ "\x7d\n"))) := by
  have leaves : levelAfter (level + 2) body = level + 2 := balanced_of_plain plain (level + 2)
  rw [List.append_assoc, List.cons_append, List.singleton_append,
    layout_opening headUnclosed headOpened, layout_opening unclosed opened, layout_append,
    layout_plain plain, leaves, layout_closing]

end Kotlin

open Kotlin

/-- A call of a setter is a plain line: it begins with the setter's name, which begins with `set`,
and ends with a round bracket. -/
theorem Assignment.call_plain {assignment : Assignment} {rest : String}
    (named : assignment.setter.name = "set" ++ rest) :
    closes assignment.call = false ∧ opens assignment.call = false := by
  unfold Assignment.call
  rw [named]
  constructor
  · rw [String.append_assoc, String.append_assoc, String.append_assoc,
      closes_append _ (by decide)]
    decide
  · rw [opens_append _ (by decide)]
    decide

namespace HelperFunctions

/-- The setters are named as setters are. -/
def SettersNamed (functions : HelperFunctions) : Prop :=
  ∀ assignment ∈ functions.assignments, ∃ rest, assignment.setter.name = "set" ++ rest

/-- The first lines of both functions begin with fixed words and end with a brace. -/
theorem head_line (functions : HelperFunctions) (rest : String) :
    closes (functions.head ++ rest ++ " \x7b") = false ∧
      opens (functions.head ++ rest ++ " \x7b") = true := by
  constructor
  · unfold head
    simp only [String.append_assoc]
    rw [closes_append _ (by decide)]
    decide
  · rw [opens_append _ (by decide)]
    decide

/-- The line of the construction begins with a fixed word and ends with a brace. -/
theorem construction_line (functions : HelperFunctions) :
    closes functions.construction = false ∧ opens functions.construction = true := by
  unfold construction
  constructor
  · rw [String.append_assoc, closes_append _ (by decide)]
    decide
  · rw [opens_append _ (by decide)]
    decide

/-- The calls of the setters, with or without a call of the init block before them. -/
theorem calls_plain {functions : HelperFunctions} (named : functions.SettersNamed) :
    ∀ line ∈ "init()" :: functions.assignments.map Assignment.call,
      closes line = false ∧ opens line = false := by
  intro line member
  rcases List.mem_cons.mp member with rfl | call
  · decide
  · obtain ⟨assignment, assigned, rfl⟩ := List.mem_map.mp call
    obtain ⟨rest, name⟩ := named assignment assigned
    exact assignment.call_plain name

/-- A function is a pair of braces in a pair of braces. -/
theorem function_balanced {functions : HelperFunctions} {calls : List String}
    (plain : ∀ line ∈ calls, closes line = false ∧ opens line = false) (rest : String) :
    Balanced ([functions.head ++ rest ++ " \x7b", functions.construction] ++ calls
      ++ ["\x7d", "\x7d"]) := by
  obtain ⟨headUnclosed, headOpened⟩ := functions.head_line rest
  obtain ⟨unclosed, opened⟩ := functions.construction_line
  have block := balanced_enclose unclosed opened (balanced_of_plain plain)
  have enclosed := balanced_enclose headUnclosed headOpened block
  simpa using enclosed

/-- The function without an init block: a head, the construction, calls, two closing braces. -/
theorem plainLines_eq (functions : HelperFunctions) :
    functions.plainLines =
      [functions.head ++ ("" ++ "): " ++ functions.type) ++ " \x7b", functions.construction]
        ++ functions.assignments.map Assignment.call ++ ["\x7d", "\x7d"] := by
  simp [plainLines, String.append_assoc]

/-- The function with an init block is the same, with a call of the block before the others. -/
theorem initLines_eq (functions : HelperFunctions) :
    functions.initLines =
      [functions.head ++ (", init: " ++ functions.type ++ ".() -> Unit" ++ "): " ++ functions.type)
          ++ " \x7b", functions.construction]
        ++ "init()" :: functions.assignments.map Assignment.call ++ ["\x7d", "\x7d"] := by
  have seam : ".() -> Unit): " = ".() -> Unit" ++ "): " := by decide
  simp [initLines, seam, String.append_assoc]

/-- The function without an init block closes what it opens. -/
theorem plainLines_balanced {functions : HelperFunctions} (named : functions.SettersNamed) :
    Balanced functions.plainLines := by
  rw [plainLines_eq]
  exact function_balanced (fun line member => calls_plain named line
    (List.mem_cons_of_mem _ member)) _

/-- Both functions of a helper constructor close what they open. -/
theorem lines_balanced {functions : HelperFunctions} (named : functions.SettersNamed) :
    Balanced functions.lines := by
  refine balanced_append (plainLines_balanced named) ?_
  rw [initLines_eq]
  exact function_balanced (calls_plain named) _

end HelperFunctions

/-- Each value is that of a property, passed to the property's only setter. -/
theorem HelperFunctions.assigned_of_ofSpec {widget : Widget} {spec : HelperSpec}
    {setters : List Method} (found : Setter.ofSpec widget spec = .ok setters)
    (functionName type factory : String) :
    ∀ assignment ∈ (ofSetters functionName type factory spec setters).assignments,
      ∃ property ∈ spec.properties, assignment.property = property.name ∧
        Setter.IsOnly widget property assignment.setter := by
  intro assignment member
  rw [ofSetters, ← List.map_uncurry_zip_eq_zipWith] at member
  obtain ⟨⟨property, setter⟩, paired, rfl⟩ := List.mem_map.mp member
  have each := List.forall₂_iff_zip.mp (Setter.forall₂_isOnly_iff.mpr found)
  exact ⟨property, (List.of_mem_zip paired).1, rfl, each.2 paired⟩

namespace Construction

variable (construction : Construction)

/-- The setters that were found for a helper constructor are named as setters are. -/
theorem helperFunctions_named {spec : HelperSpec} {setters : List Method}
    (found : Setter.ofSpec construction.widget spec = .ok setters) (factory : String) :
    (construction.helperFunctions factory spec setters).SettersNamed := by
  intro assignment member
  obtain ⟨_, _, _, only⟩ :=
    HelperFunctions.assigned_of_ofSpec found _ _ factory assignment member
  exact ⟨_, only.sets.name_eq⟩

/-- A helper constructor leaves the level at which it starts, with a fault or without. -/
theorem specContribution_level (indent factory : String) (level : Nat) (spec : HelperSpec) :
    (construction.specContribution indent factory level spec).level = level := by
  unfold specContribution
  split
  · rfl
  · next setters found =>
    have named := construction.helperFunctions_named found factory
    dsimp only
    exact HelperFunctions.lines_balanced named level

/-- Several helper constructors in a row leave the level at which they start. -/
theorem specContributions_level (indent factory : String) (level : Nat)
    (specs : List HelperSpec) :
    (construction.specContributions indent factory level specs).level = level := by
  induction specs generalizing level with
  | nil => rfl
  | cons spec rest ih =>
    simp only [specContributions, Contribution.append, ih]
    exact construction.specContribution_level indent factory level spec

/-- All helper constructors of a widget leave the level at which they start. -/
theorem helperContribution_level (context : Context) (factory key : String) (level : Nat) :
    (construction.helperContribution context factory key level).level = level := by
  unfold helperContribution
  split
  · rfl
  · exact construction.specContributions_level _ _ _ _

/-- Builder functions are never laid out, so they leave the level alone. -/
theorem builderContribution_level (context : Context) (factory : String) (level : Nat) :
    (construction.builderContribution context factory level).level = level := by
  unfold builderContribution
  split <;> rfl

/-- Whatever a widget contributes ends at the level at which it starts. -/
theorem contribution_level (context : Context) (factory : String) (level : Nat) :
    (construction.contribution context factory level).level = level := by
  have builders := construction.builderContribution_level context factory level
  unfold contribution
  split
  · exact builders
  · simp only [Contribution.append, builders, helperContribution_level]

end Construction

end WidgetBuilders
