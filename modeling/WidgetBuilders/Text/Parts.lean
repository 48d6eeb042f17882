/-!
# Cutting a text into parts

A text is cut at the first or the last of a separator, at every one of them, or after every line
feed. Cutting loses nothing but the separators, and lines keep theirs: joined together, the lines of
a text are the text.
-/

namespace WidgetBuilders.Text

/-- Puts an element in front of the first part; with no part, it makes one. -/
def consHead {α : Type} (head : α) : List (List α) → List (List α)
  | [] => [[head]]
  | part :: parts => (head :: part) :: parts

/-- What stands before and after the first `separator`, if there is one. -/
def cutFirst (separator : Char) : List Char → Option (List Char × List Char)
  | [] => none
  | c :: rest =>
    if c = separator then
      some ([], rest)
    else
      (cutFirst separator rest).map fun cut => (c :: cut.1, cut.2)

/-- What stands before and after the last `separator`, if there is one. -/
def cutLast (separator : Char) (text : List Char) : Option (List Char × List Char) :=
  (cutFirst separator text.reverse).map fun cut => (cut.2.reverse, cut.1.reverse)

/-- The parts between the separators. There is one more part than there are separators, so the
empty text has one empty part. -/
def partsAt (separator : Char) : List Char → List (List Char)
  | [] => [[]]
  | c :: rest =>
    if c = separator then [] :: partsAt separator rest else consHead c (partsAt separator rest)

/-- The text after a given beginning, if it begins so. -/
def dropLead : List Char → List Char → Option (List Char)
  | [], text => some text
  | _ :: _, [] => none
  | l :: lead, c :: text => if l = c then dropLead lead text else none

/-- The lines of a text, each with its line feed. A last line without one counts, an empty last line
does not. -/
def lines : List Char → List (List Char)
  | [] => []
  | c :: rest => if c = '\n' then [c] :: lines rest else consHead c (lines rest)

/-- The cut text with its separator put back is the text. -/
theorem eq_of_cutFirst {separator : Char} {text before after : List Char}
    (cut : cutFirst separator text = some (before, after)) :
    text = before ++ separator :: after := by
  induction text generalizing before with
  | nil => simp [cutFirst] at cut
  | cons c rest ih =>
    by_cases same : c = separator
    · simp only [cutFirst, same, if_true, Option.some.injEq, Prod.mk.injEq] at cut
      obtain ⟨rfl, rfl⟩ := cut
      simp [same]
    · simp only [cutFirst, same, if_false, Option.map_eq_some_iff] at cut
      obtain ⟨⟨front, back⟩, found, shape⟩ := cut
      simp only [Prod.mk.injEq] at shape
      obtain ⟨rfl, rfl⟩ := shape
      simp [ih found]

/-- With a character put in front, there is at least one part. -/
theorem consHead_ne_nil {α : Type} (head : α) (parts : List (List α)) :
    consHead head parts ≠ [] := by
  cases parts <;> exact List.cons_ne_nil _ _

/-- The element comes first, whichever part it is put into. -/
theorem flatten_consHead {α : Type} (head : α) (parts : List (List α)) :
    (consHead head parts).flatten = head :: parts.flatten := by
  cases parts <;> rfl

end WidgetBuilders.Text
