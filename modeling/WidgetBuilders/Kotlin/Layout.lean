import WidgetBuilders.Text.Joined

/-!
# Indentation by braces

Lines are indented by their depth in braces. A line that ends with an opening brace puts the lines
after it one level deeper; a line that begins with a closing brace goes back one level, and stands
there itself. The level never falls below zero. Braces inside a line do not count.
-/

namespace WidgetBuilders.Kotlin

/-- The line begins with a closing brace. -/
def closes (line : String) : Bool :=
  line.toList.head? = some '\x7d'

/-- The line ends with an opening brace. -/
def opens (line : String) : Bool :=
  line.toList.getLast? = some '\x7b'

/-- The level of a line, where `level` is the level that the lines before it leave. -/
def lineLevel (level : Nat) (line : String) : Nat :=
  if closes line then level - 1 else level

/-- The level that a line leaves to those after it. -/
def nextLevel (level : Nat) (line : String) : Nat :=
  if opens line then lineLevel level line + 1 else lineLevel level line

/-- A line at its level, with the line feed. -/
def layoutLine (indent : String) (level : Nat) (line : String) : String :=
  Text.repeated (lineLevel level line) indent ++ line ++ "\n"

/-- Lines laid out from a given level on. -/
def layout (indent : String) (level : Nat) : List String → String
  | [] => ""
  | line :: rest => layoutLine indent level line ++ layout indent (nextLevel level line) rest

/-- The level that lines leave to those after them. -/
def levelAfter (level : Nat) (lines : List String) : Nat :=
  lines.foldl nextLevel level

/-- Lines may be laid out in two goes, if the second starts from the level that the first leaves. -/
theorem layout_append (indent : String) (level : Nat) (front back : List String) :
    layout indent level (front ++ back) =
      layout indent level front ++ layout indent (levelAfter level front) back := by
  induction front generalizing level with
  | nil => simp [layout, levelAfter]
  | cons line rest ih => simp [layout, levelAfter, ih, String.append_assoc]

end WidgetBuilders.Kotlin
