/-!
# Joining texts

Texts are joined from left to right, with nothing or with a comma and a space between them. Joining
no texts gives the empty text.
-/

namespace WidgetBuilders.Text

/-- The texts one after another. -/
def concat : List String → String
  | [] => ""
  | text :: rest => text ++ concat rest

/-- The texts with a comma and a space between neighbours. -/
def commaSeparated : List String → String
  | [] => ""
  | [text] => text
  | text :: rest => text ++ ", " ++ commaSeparated rest

/-- The text a number of times. -/
def repeated (count : Nat) (text : String) : String :=
  concat (List.replicate count text)

/-- Joining may be done in two goes. -/
theorem concat_append (front back : List String) :
    concat (front ++ back) = concat front ++ concat back := by
  induction front with
  | nil => simp [concat]
  | cons text rest ih => simp [concat, ih, String.append_assoc]

/-- Two lists that are not empty may be joined by a comma and a space. -/
theorem commaSeparated_append {front back : List String} (someFront : front ≠ [])
    (someBack : back ≠ []) :
    commaSeparated (front ++ back) = commaSeparated front ++ ", " ++ commaSeparated back := by
  induction front with
  | nil => exact absurd rfl someFront
  | cons text rest ih =>
    cases rest with
    | nil =>
      cases back with
      | nil => exact absurd rfl someBack
      | cons next more => simp [commaSeparated]
    | cons next more =>
      have later := ih (List.cons_ne_nil _ _)
      rw [List.cons_append] at later
      simp only [List.cons_append, commaSeparated, later, String.append_assoc]

/-- The characters of a list are those of its texts, commas and spaces. -/
theorem mem_commaSeparated {c : Char} {texts : List String}
    (member : c ∈ (commaSeparated texts).toList) :
    c = ',' ∨ c = ' ' ∨ ∃ text ∈ texts, c ∈ text.toList := by
  induction texts with
  | nil => simp [commaSeparated] at member
  | cons text rest ih =>
    cases rest with
    | nil => exact Or.inr (Or.inr ⟨text, by simp, by simpa [commaSeparated] using member⟩)
    | cons next more =>
      simp only [commaSeparated, String.toList_append, List.mem_append] at member
      rcases member with (inside | sign) | later
      · exact Or.inr (Or.inr ⟨text, by simp, inside⟩)
      · have either : c = ',' ∨ c = ' ' := by simpa using sign
        exact either.imp_right Or.inl
      · refine (ih later).imp_right (Or.imp_right ?_)
        rintro ⟨other, among, inside⟩
        exact ⟨other, List.mem_cons_of_mem _ among, inside⟩

end WidgetBuilders.Text
