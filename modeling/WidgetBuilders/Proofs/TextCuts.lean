import Mathlib.Data.List.Induction
import WidgetBuilders.Text.Blank
import WidgetBuilders.Text.Parts

/-!
# Cutting and trimming, by what comes out

Each way of cutting a text is described by its result alone: joined again with the separator it is
the text, and the separator does not stand where it would have been found earlier. So a result can
be recognised without running through the text.

Trimming takes off blank characters until there are none at either end. Whatever does not depend on
one blank character more at an end does not depend on trimming.
-/

namespace WidgetBuilders.Text

/-! ## One cut -/

/-- A separator after text without one is where the first cut is made. -/
theorem cutFirst_append {separator : Char} {before : List Char} (absent : separator ∉ before)
    (after : List Char) :
    cutFirst separator (before ++ separator :: after) = some (before, after) := by
  induction before with
  | nil => simp [cutFirst]
  | cons c rest ih =>
    obtain ⟨different, absentLater⟩ := not_or.mp (List.mem_cons.not.mp absent)
    simp [cutFirst, Ne.symm different, ih absentLater]

/-- Before the first cut there is no separator. -/
theorem not_mem_of_cutFirst {separator : Char} {text before after : List Char}
    (cut : cutFirst separator text = some (before, after)) : separator ∉ before := by
  induction text generalizing before after with
  | nil => cases cut
  | cons c rest ih =>
    by_cases same : c = separator
    · simp only [cutFirst, same, if_true, Option.some.injEq, Prod.mk.injEq] at cut
      simp [← cut.1]
    · simp only [cutFirst, same, if_false, Option.map_eq_some_iff, Prod.exists,
        Prod.mk.injEq] at cut
      obtain ⟨front, _, found, rfl, _⟩ := cut
      exact List.not_mem_cons_of_ne_of_not_mem (Ne.symm same) (ih found)

/-- The first separator is the one before which there is none. -/
theorem cutFirst_eq_some_iff {separator : Char} {text before after : List Char} :
    cutFirst separator text = some (before, after) ↔
      text = before ++ separator :: after ∧ separator ∉ before := by
  constructor
  · intro cut
    exact ⟨eq_of_cutFirst cut, not_mem_of_cutFirst cut⟩
  · rintro ⟨rfl, absent⟩
    exact cutFirst_append absent after

/-- The last separator is the one after which there is none. -/
theorem cutLast_eq_some_iff {separator : Char} {text before after : List Char} :
    cutLast separator text = some (before, after) ↔
      text = before ++ separator :: after ∧ separator ∉ after := by
  simp only [cutLast, Option.map_eq_some_iff, Prod.exists, Prod.mk.injEq, cutFirst_eq_some_iff]
  constructor
  · rintro ⟨back, front, ⟨reversed, absent⟩, rfl, rfl⟩
    have shape := congrArg List.reverse reversed
    simp only [List.reverse_reverse, List.reverse_append, List.reverse_cons, List.append_assoc,
      List.singleton_append] at shape
    exact ⟨shape, by simpa using absent⟩
  · rintro ⟨rfl, absent⟩
    exact ⟨after.reverse, before.reverse, ⟨by simp, by simpa using absent⟩, by simp, by simp⟩

/-- One character more at the end stays behind the cut. -/
theorem cutFirst_concat {separator c : Char} (different : c ≠ separator) (text : List Char) :
    cutFirst separator (text ++ [c]) =
      (cutFirst separator text).map fun cut => (cut.1, cut.2 ++ [c]) := by
  induction text with
  | nil => simp [cutFirst, different]
  | cons d rest ih =>
    by_cases same : d = separator
    · simp [cutFirst, same]
    · simp [cutFirst, same, ih, Function.comp_def]

/-- Where a text is cut at its first separator is no choice. -/
theorem append_separator_inj {separator : Char} {before other after rest : List Char}
    (absent : separator ∉ before) (otherAbsent : separator ∉ other)
    (same : before ++ separator :: after = other ++ separator :: rest) :
    before = other ∧ after = rest := by
  have cut := cutFirst_append absent after
  rw [same, cutFirst_append otherAbsent rest] at cut
  cases cut
  exact ⟨rfl, rfl⟩

/-- A beginning is dropped exactly if the text has it, and what is left is the rest. -/
theorem dropLead_eq_some_iff {lead text rest : List Char} :
    dropLead lead text = some rest ↔ text = lead ++ rest := by
  induction lead generalizing text with
  | nil => simp [dropLead]
  | cons l lead ih =>
    cases text with
    | nil => simp [dropLead]
    | cons c text => by_cases same : l = c <;> simp [dropLead, same, ih, eq_comm]

/-! ## All parts -/

/-- A character in front of parts belongs to the first of them. -/
theorem consHead_eq (head : Char) {parts : List (List Char)} (nonempty : parts ≠ []) :
    ∃ part rest, parts = part :: rest ∧ consHead head parts = (head :: part) :: rest := by
  cases parts with
  | nil => exact absurd rfl nonempty
  | cons part rest => exact ⟨part, rest, rfl, rfl⟩

/-- There is at least one part, if only the empty one. -/
theorem partsAt_ne_nil (separator : Char) (text : List Char) : partsAt separator text ≠ [] := by
  cases text with
  | nil => simp [partsAt]
  | cons c rest =>
    rw [partsAt]
    split
    · exact List.cons_ne_nil _ _
    · exact consHead_ne_nil c _

/-- The parts joined by the separator are the text. -/
theorem intercalate_partsAt (separator : Char) (text : List Char) :
    List.intercalate [separator] (partsAt separator text) = text := by
  induction text with
  | nil => rfl
  | cons c rest ih =>
    obtain ⟨part, others, parts, joined⟩ := consHead_eq c (partsAt_ne_nil separator rest)
    rw [parts] at ih
    by_cases same : c = separator
    · simp [partsAt, same, parts, List.intercalate_cons_cons, ih]
    · rw [partsAt, if_neg same, joined]
      cases others with
      | nil => simpa using ih
      | cons next more => simpa [List.intercalate_cons_cons] using ih

/-- No part holds the separator. -/
theorem not_mem_of_mem_partsAt {separator : Char} {text part : List Char}
    (member : part ∈ partsAt separator text) : separator ∉ part := by
  induction text generalizing part with
  | nil => simp [List.mem_singleton.mp member]
  | cons c rest ih =>
    by_cases same : c = separator
    · rw [partsAt, if_pos same] at member
      rcases List.mem_cons.mp member with rfl | later
      · simp
      · exact ih later
    · obtain ⟨first, others, parts, joined⟩ := consHead_eq c (partsAt_ne_nil separator rest)
      rw [partsAt, if_neg same, joined] at member
      rw [parts] at ih
      rcases List.mem_cons.mp member with rfl | later
      · exact List.not_mem_cons_of_ne_of_not_mem (Ne.symm same) (ih List.mem_cons_self)
      · exact ih (List.mem_cons_of_mem _ later)

/-- Up to the first separator there is one part; the others are those of the rest. -/
theorem partsAt_append {separator : Char} {part : List Char} (absent : separator ∉ part)
    (rest : List Char) :
    partsAt separator (part ++ separator :: rest) = part :: partsAt separator rest := by
  induction part with
  | nil => simp [partsAt]
  | cons c others ih =>
    obtain ⟨different, absentLater⟩ := not_or.mp (List.mem_cons.not.mp absent)
    simp [partsAt, Ne.symm different, ih absentLater, consHead]

/-- Text without a separator is its only part. -/
theorem partsAt_of_not_mem {separator : Char} {text : List Char} (absent : separator ∉ text) :
    partsAt separator text = [text] := by
  induction text with
  | nil => rfl
  | cons c rest ih =>
    obtain ⟨different, absentLater⟩ := not_or.mp (List.mem_cons.not.mp absent)
    simp [partsAt, Ne.symm different, ih absentLater, consHead]

/-- Parts without separators are found again once they were joined. -/
theorem partsAt_intercalate {separator : Char} {parts : List (List Char)} (nonempty : parts ≠ [])
    (absent : ∀ part ∈ parts, separator ∉ part) :
    partsAt separator (List.intercalate [separator] parts) = parts := by
  induction parts with
  | nil => exact absurd rfl nonempty
  | cons part rest ih =>
    obtain ⟨here, later⟩ := List.forall_mem_cons.mp absent
    cases rest with
    | nil => simpa using partsAt_of_not_mem here
    | cons next more =>
      rw [List.intercalate_cons_cons, List.append_assoc, List.singleton_append,
        partsAt_append here, ih (by simp) later]

/-- The characters of a text that is joined are those of its parts and of the separator. -/
theorem mem_intercalate {separator c : Char} {parts : List (List Char)}
    (member : c ∈ List.intercalate [separator] parts) :
    c = separator ∨ ∃ part ∈ parts, c ∈ part := by
  induction parts with
  | nil => cases member
  | cons part rest ih =>
    cases rest with
    | nil => exact Or.inr ⟨part, by simp, by simpa using member⟩
    | cons next more =>
      rw [List.intercalate_cons_cons, List.append_assoc, List.mem_append,
        List.singleton_append, List.mem_cons] at member
      rcases member with here | same | later
      · exact Or.inr ⟨part, List.mem_cons_self, here⟩
      · exact Or.inl same
      · rcases ih later with same | ⟨other, among, inside⟩
        · exact Or.inl same
        · exact Or.inr ⟨other, List.mem_cons_of_mem _ among, inside⟩

/-- The parts are the texts without separator that give the text when they are joined. -/
theorem partsAt_eq_iff {separator : Char} {text : List Char} {parts : List (List Char)} :
    partsAt separator text = parts ↔
      parts ≠ [] ∧ (∀ part ∈ parts, separator ∉ part) ∧
        text = List.intercalate [separator] parts := by
  constructor
  · rintro rfl
    exact ⟨partsAt_ne_nil separator text, fun _ member => not_mem_of_mem_partsAt member,
      (intercalate_partsAt separator text).symm⟩
  · rintro ⟨nonempty, absent, rfl⟩
    exact partsAt_intercalate nonempty absent

/-- One character more at the end makes the last part longer. -/
theorem partsAt_concat {separator c : Char} (different : c ≠ separator) (text : List Char) :
    ∃ front last, partsAt separator text = front ++ [last] ∧
      partsAt separator (text ++ [c]) = front ++ [last ++ [c]] := by
  induction text with
  | nil => exact ⟨[], [], rfl, by simp [partsAt, different, consHead]⟩
  | cons d rest ih =>
    obtain ⟨front, last, parts, longer⟩ := ih
    by_cases same : d = separator
    · exact ⟨[] :: front, last, by simp [partsAt, same, parts], by simp [partsAt, same, longer]⟩
    · cases front with
      | nil => exact ⟨[], d :: last, by simp [partsAt, same, parts, consHead],
          by simp [partsAt, same, longer, consHead]⟩
      | cons first more => exact ⟨(d :: first) :: more, last,
          by simp [partsAt, same, parts, consHead], by simp [partsAt, same, longer, consHead]⟩

/-! ## Lines -/

/-- A line ends with its line feed, and what follows has lines of its own. -/
theorem lines_append {line : List Char} (single : '\n' ∉ line) (rest : List Char) :
    lines (line ++ '\n' :: rest) = (line ++ ['\n']) :: lines rest := by
  induction line with
  | nil => simp [lines]
  | cons c others ih =>
    obtain ⟨different, singleLater⟩ := not_or.mp (List.mem_cons.not.mp single)
    rw [List.cons_append, lines, if_neg (Ne.symm different), ih singleLater]
    rfl

/-- Text without a line feed is one line, unless it is empty and has none. -/
theorem lines_of_not_mem {line : List Char} (nonempty : line ≠ []) (single : '\n' ∉ line) :
    lines line = [line] := by
  induction line with
  | nil => exact absurd rfl nonempty
  | cons c others ih =>
    obtain ⟨different, singleLater⟩ := not_or.mp (List.mem_cons.not.mp single)
    rw [lines, if_neg (Ne.symm different)]
    cases others with
    | nil => rfl
    | cons next more =>
      rw [ih (by simp) singleLater]
      rfl

/-! ## Trimming -/

/-- Nothing but blank characters. -/
def Blank (text : List Char) : Prop := ∀ c ∈ text, isBlank c = true

/-- The text is `core` with blank characters at its ends, or `core` itself. -/
def Padded (core text : List Char) : Prop :=
  ∃ front back, Blank front ∧ Blank back ∧ text = front ++ core ++ back

/-- What does not depend on one blank character at an end does not depend on any number of them. -/
theorem eq_of_padded {α : Type} (view : List Char → α)
    (front : ∀ c text, isBlank c = true → view (c :: text) = view text)
    (back : ∀ c text, isBlank c = true → view (text ++ [c]) = view text)
    {core text : List Char} (padded : Padded core text) : view text = view core := by
  obtain ⟨before, after, blankBefore, blankAfter, rfl⟩ := padded
  have withoutFront : view (before ++ core ++ after) = view (core ++ after) := by
    induction before with
    | nil => rfl
    | cons c rest ih =>
      obtain ⟨blank, blankRest⟩ := List.forall_mem_cons.mp blankBefore
      rw [List.cons_append, List.cons_append, front c _ blank]
      exact ih blankRest
  rw [withoutFront]
  clear withoutFront
  induction after using List.reverseRecOn with
  | nil => rw [List.append_nil]
  | append_singleton rest c ih =>
    obtain ⟨blankRest, blank⟩ := List.forall_mem_append.mp blankAfter
    rw [← List.append_assoc, back c _ (blank c (List.mem_singleton_self c))]
    exact ih blankRest

/-- A blank character more in front makes no difference to trimming. -/
theorem trimmed_cons {c : Char} (blank : isBlank c = true) (text : List Char) :
    trimmed (c :: text) = trimmed text := by
  rw [trimmed, trimFront, List.dropWhile_cons_of_pos blank]
  rfl

/-- A blank character more at the back makes no difference to trimming. -/
theorem trimmed_concat {c : Char} (blank : isBlank c = true) (text : List Char) :
    trimmed (text ++ [c]) = trimmed text := by
  rw [trimmed, trimFront, List.dropWhile_append]
  split
  · next empty =>
    rw [List.dropWhile_cons_of_pos blank, trimmed, trimFront, List.isEmpty_iff.mp empty]
    rfl
  · rw [trimBack, List.reverse_concat, List.dropWhile_cons_of_pos blank]
    rfl

/-- What is taken off the front is blank. -/
theorem blank_takeWhile (text : List Char) : Blank (text.takeWhile isBlank) :=
  fun c member => List.all_eq_true.mp List.all_takeWhile c member

/-- Trimming takes all blank characters off the front, and blank characters off the back. -/
theorem exists_append_trimmed (text : List Char) :
    ∃ back, Blank back ∧ text = text.takeWhile isBlank ++ trimmed text ++ back := by
  have atFront : text = text.takeWhile isBlank ++ trimFront text :=
    List.takeWhile_append_dropWhile.symm
  have atBack : trimFront text =
      trimmed text ++ ((trimFront text).reverse.takeWhile isBlank).reverse := by
    have cut := List.takeWhile_append_dropWhile (p := isBlank) (l := (trimFront text).reverse)
    have turned := congrArg List.reverse cut
    rw [List.reverse_append, List.reverse_reverse] at turned
    exact turned.symm
  refine ⟨((trimFront text).reverse.takeWhile isBlank).reverse, ?_, ?_⟩
  · intro c member
    exact blank_takeWhile _ c (List.mem_reverse.mp member)
  · rw [List.append_assoc, ← atBack]
    exact atFront

/-- Blank characters at the ends are all that trimming takes off. -/
theorem padded_trimmed (text : List Char) : Padded (trimmed text) text := by
  obtain ⟨back, blank, shape⟩ := exists_append_trimmed text
  exact ⟨text.takeWhile isBlank, back, blank_takeWhile text, blank, shape⟩

/-- Text without blank characters is left as it is. -/
theorem trimmed_of_unblank {core : List Char} (unblank : ∀ c ∈ core, isBlank c = false) :
    trimmed core = core := by
  have kept {text : List Char} (unblank : ∀ c ∈ text, isBlank c = false) :
      text.dropWhile isBlank = text := by
    cases text with
    | nil => rfl
    | cons c rest =>
      have first : ¬ isBlank c = true := by simp [unblank c List.mem_cons_self]
      exact List.dropWhile_cons_of_neg first
  have reversed : ∀ c ∈ core.reverse, isBlank c = false := by simpa using unblank
  rw [trimmed, trimFront, kept unblank, trimBack, kept reversed, List.reverse_reverse]

/-- Trimming stops at the ends, whatever stands between them. -/
theorem trimmed_of_ends {first last : Char} (begins : isBlank first = false)
    (ends : isBlank last = false) (middle : List Char) :
    trimmed (first :: (middle ++ [last])) = first :: (middle ++ [last]) := by
  have front : trimFront (first :: (middle ++ [last])) = first :: (middle ++ [last]) :=
    List.dropWhile_cons_of_neg (by simp [begins])
  rw [trimmed, front, trimBack, List.reverse_cons, List.reverse_append, List.reverse_singleton,
    List.singleton_append, List.cons_append, List.dropWhile_cons_of_neg (by simp [ends])]
  simp

/-- Trimming leaves what blank characters were put around. -/
theorem trimmed_of_padded {core text : List Char} (padded : Padded core text)
    (unblank : ∀ c ∈ core, isBlank c = false) : trimmed text = core := by
  have same := eq_of_padded trimmed (fun c text blank => trimmed_cons blank text)
    (fun c text blank => trimmed_concat blank text) padded
  rw [same, trimmed_of_unblank unblank]

/-- Trimming leaves nothing of blank text, and something of any other. -/
theorem trimmed_eq_nil_iff {text : List Char} : trimmed text = [] ↔ Blank text := by
  constructor
  · intro empty
    obtain ⟨front, back, blankFront, blankBack, shape⟩ := padded_trimmed text
    rw [shape, empty, List.append_nil]
    exact List.forall_mem_append.mpr ⟨blankFront, blankBack⟩
  · intro blank
    have padded : Padded [] text := ⟨text, [], blank, by simp [Blank], by simp⟩
    exact trimmed_of_padded padded (by simp)

end WidgetBuilders.Text
