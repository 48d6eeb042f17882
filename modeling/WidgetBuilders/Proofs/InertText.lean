import WidgetBuilders.Kotlin.Type
import WidgetBuilders.Proofs.TextCuts
import WidgetBuilders.Text.Joined
import WidgetBuilders.Text.Words

/-!
# Text that moves no brace

A character is inert if it is neither a brace nor a line feed. Inert text may stand anywhere in a
line without changing where the line ends or how deep the next one is.

The names in generated text are not those that were put in: they are cut into words, change their
case, lose their packages. None of this makes a brace or a line feed out of other characters. Most
of it only leaves characters out or adds fixed ones; the letter case tables are the exception, and
they are looked through here: no character that they list becomes one of the three.
-/

namespace WidgetBuilders.Text

/-- Neither a brace nor a line feed. -/
def isInert (c : Char) : Bool :=
  c ≠ '\x7b' && c ≠ '\x7d' && c ≠ '\n'

/-- All characters are inert. -/
def Inert (text : List Char) : Prop := ∀ c ∈ text, isInert c = true

instance (text : List Char) : Decidable (Inert text) :=
  decidable_of_iff (text.all isInert = true) List.all_eq_true

/-- Text is inert if both its halves are. -/
theorem inert_append {front back : List Char} : Inert (front ++ back) ↔ Inert front ∧ Inert back :=
  List.forall_mem_append

/-- Text is inert if its first character and the rest are. -/
theorem inert_cons {c : Char} {rest : List Char} :
    Inert (c :: rest) ↔ isInert c = true ∧ Inert rest :=
  List.forall_mem_cons

/-- A text that takes all its characters from inert text is inert. -/
theorem Inert.of_subset {text part : List Char} (inert : Inert text) (within : part ⊆ text) :
    Inert part :=
  fun c member => inert c (within member)

/-- Inert text stays on its line. -/
theorem feed_not_mem_of_inert {text : List Char} (inert : Inert text) : '\n' ∉ text := by
  intro member
  exact absurd (inert '\n' member) (by decide)

/-! ## Joined text -/

/-- A list of inert texts is inert: commas and spaces are. -/
theorem inert_commaSeparated {texts : List String} (inert : ∀ text ∈ texts, Inert text.toList) :
    Inert (commaSeparated texts).toList := by
  intro c member
  rcases mem_commaSeparated member with rfl | rfl | ⟨text, among, inside⟩
  · decide
  · decide
  · exact inert text among c inside

/-- The decimal form of a number is inert. -/
theorem inert_toString (number : Nat) : Inert (toString number).toList := by
  intro c member
  rw [Nat.toString_eq_repr, Nat.toList_repr] at member
  have digit : c.isDigit = true := Nat.isDigit_of_mem_toDigits (by decide) (by decide) member
  simp only [isInert, Bool.and_eq_true, decide_eq_true_eq]
  refine ⟨⟨?_, ?_⟩, ?_⟩ <;>
  · rintro rfl
    revert digit
    decide

/-! ## Letter case -/

/-- The code point is neither that of a brace nor that of a line feed. -/
def isInertCode (code : Nat) : Bool :=
  code ≠ 0x7B && code ≠ 0x7D && code ≠ 0x0A

/-- Whether a character is inert is decided by its code point. -/
theorem isInert_eq (c : Char) : isInert c = isInertCode c.toNat := by
  simp [isInert, isInertCode, ← Char.toNat_inj]

/-- A number that is no code point stands for the null character. -/
theorem isInert_ofNat {code : Nat} (inert : isInertCode code = true) :
    isInert (Char.ofNat code) = true := by
  by_cases valid : code.isValidChar
  · have made : Char.ofNat code = Char.ofNatAux code valid := dif_pos valid
    rw [isInert_eq, made]
    exact inert
  · have made : Char.ofNat code = '\x00' := dif_neg valid
    rw [made]
    decide

/-- No code point of the run becomes that of a brace or a line feed. -/
def CaseRun.isInert (run : CaseRun) : Bool :=
  0x7D < run.target || (0x0A < run.target && run.target + (run.last - run.first) < 0x7B)

/-- An inert run sends no code point to that of a brace or a line feed. -/
theorem CaseRun.isInertCode_of_image {run : CaseRun} (inert : run.isInert = true) {code image : Nat}
    (sent : run.image? code = some image) : isInertCode image = true := by
  unfold image? at sent
  split at sent
  · next inside =>
    cases sent
    simp only [isInert, Bool.or_eq_true, Bool.and_eq_true, decide_eq_true_eq] at inert
    simp only [Bool.and_eq_true, decide_eq_true_eq] at inside
    simp only [isInertCode, Bool.and_eq_true, decide_eq_true_eq]
    omega
  · cases sent

/-- No run of the upper case table makes a brace or a line feed. -/
theorem upperRuns_inert : ∀ run ∈ upperRuns, run.isInert = true := by decide +kernel

/-- No run of the lower case table makes a brace or a line feed. -/
theorem lowerRuns_inert : ∀ run ∈ lowerRuns, run.isInert = true := by decide +kernel

/-- No character becomes several in upper case with a brace or a line feed among them. -/
theorem upperExpansions_inert :
    ∀ expansion ∈ upperExpansions, ∀ code ∈ expansion.2, isInertCode code = true := by
  decide +kernel

/-- No character becomes several in lower case with a brace or a line feed among them. -/
theorem lowerExpansions_inert :
    ∀ expansion ∈ lowerExpansions, ∀ code ∈ expansion.2, isInertCode code = true := by
  decide +kernel

/-- Runs and expansions without braces and line feeds make none of an inert character. -/
theorem inert_mapCase {runs : List CaseRun} {expansions : List (Nat × List Nat)}
    (runsInert : ∀ run ∈ runs, run.isInert = true)
    (expansionsInert : ∀ expansion ∈ expansions, ∀ code ∈ expansion.2, isInertCode code = true)
    {c : Char} (inert : isInert c = true) : Inert (mapCase runs expansions c) := by
  unfold mapCase
  split
  · next codes found =>
    obtain ⟨front, back, listed, _⟩ := List.lookup_eq_some_iff.mp found
    intro image member
    obtain ⟨code, among, rfl⟩ := List.mem_map.mp member
    exact isInert_ofNat (expansionsInert (c.toNat, codes) (by simp [listed]) code among)
  · refine inert_cons.mpr ⟨?_, by simp [Inert]⟩
    cases sent : runs.findSome? (·.image? c.toNat) with
    | none => simpa using inert
    | some image =>
      obtain ⟨run, among, imaged⟩ := List.exists_of_findSome?_eq_some sent
      exact isInert_ofNat (run.isInertCode_of_image (runsInert run among) imaged)

/-- The upper case form of an inert character is inert. -/
theorem inert_upperOf {c : Char} (inert : isInert c = true) : Inert (upperOf c) := by
  unfold upperOf
  split
  · next ascii =>
    have all : ∀ code < 128, isInert (Char.ofNat code) = true →
        Inert [(Char.ofNat code).toUpper] := by
      decide +kernel
    exact of_ascii (p := fun c => isInert c = true → Inert [c.toUpper]) all ascii inert
  · exact inert_mapCase upperRuns_inert upperExpansions_inert inert

/-- The lower case form of an inert character is inert. -/
theorem inert_lowerOf {c : Char} (inert : isInert c = true) : Inert (lowerOf c) := by
  unfold lowerOf
  split
  · next ascii =>
    have all : ∀ code < 128, isInert (Char.ofNat code) = true →
        Inert [(Char.ofNat code).toLower] := by
      decide +kernel
    exact of_ascii (p := fun c => isInert c = true → Inert [c.toLower]) all ascii inert
  · exact inert_mapCase lowerRuns_inert lowerExpansions_inert inert

/-- Inert text stays inert in upper case. -/
theorem inert_upper {text : List Char} (inert : Inert text) : Inert (upper text) := by
  intro image member
  obtain ⟨c, among, mapped⟩ := List.mem_flatMap.mp member
  exact inert_upperOf (inert c among) image mapped

/-- Inert text stays inert in lower case, whatever stands before it. -/
theorem inert_lowerAfter (before : List Char) {text : List Char} (inert : Inert text) :
    Inert (lowerAfter before text) := by
  induction text generalizing before with
  | nil => exact inert
  | cons c rest ih =>
    obtain ⟨first, later⟩ := inert_cons.mp inert
    rw [lowerAfter]
    refine inert_append.mpr ⟨?_, ih (c :: before) later⟩
    split
    · decide
    · exact inert_lowerOf first

/-- Inert text stays inert in lower case. -/
theorem inert_lower {text : List Char} (inert : Inert text) : Inert (lower text) :=
  inert_lowerAfter [] inert

/-- Inert text stays inert with its first character in upper case. -/
theorem inert_capitalize {text : String} (inert : Inert text.toList) :
    Inert (capitalize text).toList := by
  unfold capitalize
  split
  · decide
  · next c rest shape =>
    rw [shape] at inert
    obtain ⟨first, later⟩ := inert_cons.mp inert
    rw [String.toList_ofList]
    exact inert_append.mpr ⟨inert_upperOf first, later⟩

/-- Inert text stays inert with its first character in lower case. -/
theorem inert_decapitalize {text : String} (inert : Inert text.toList) :
    Inert (decapitalize text).toList := by
  unfold decapitalize
  split
  · decide
  · next c rest shape =>
    rw [shape] at inert
    obtain ⟨first, later⟩ := inert_cons.mp inert
    rw [String.toList_ofList]
    exact inert_append.mpr ⟨inert_lowerOf first, later⟩

/-! ## Words -/

/-- Words are made of the clusters of the text. -/
theorem mem_of_mem_wordsOfClusters {clusters : List (List Char)} {word : List (List Char)}
    (member : word ∈ wordsOfClusters clusters) : word ⊆ clusters := by
  -- The cases are those of the cut: a separator, the end of a word, and a cluster that goes on.
  induction clusters generalizing word with
  | nil =>
    rw [wordsOfClusters, List.mem_singleton] at member
    rw [member]
    exact List.nil_subset _
  | cons cluster rest ih =>
    have later {other : List (List Char)} (among : other ∈ wordsOfClusters rest) :
        other ⊆ cluster :: rest := List.subset_cons_of_subset cluster (ih among)
    unfold wordsOfClusters at member
    dsimp only at member
    split at member
    · rcases List.mem_cons.mp member with rfl | among
      · exact List.nil_subset _
      · exact later among
    · split at member
      · rcases List.mem_cons.mp member with rfl | among
        · simp
        · exact later among
      · cases words : wordsOfClusters rest with
        | nil =>
          rw [words, consHead, List.mem_singleton] at member
          simp [member]
        | cons first others =>
          rw [words, consHead] at member
          rcases List.mem_cons.mp member with rfl | among
          · exact List.cons_subset_cons cluster (ih (by simp [words]))
          · exact later (by simp [words, among])

/-- The words of a text have no characters but its own. -/
theorem subset_of_mem_words {text word : List Char} (member : word ∈ words text) : word ⊆ text := by
  obtain ⟨clustersOfWord, among, rfl⟩ := List.mem_map.mp member
  intro c inside
  obtain ⟨cluster, part, within⟩ := List.mem_flatten.mp inside
  rw [← flatten_clusters text]
  exact List.mem_flatten.mpr ⟨cluster, mem_of_mem_wordsOfClusters among part, within⟩

/-- The form of inert text with underscores between upper case words is inert. -/
theorem inert_constantCase {text : String} (inert : Inert text.toList) :
    Inert (constantCase text).toList := by
  intro c member
  rw [constantCase, String.toList_ofList] at member
  rcases mem_intercalate member with rfl | ⟨part, among, inside⟩
  · decide
  · obtain ⟨word, ofText, rfl⟩ := List.mem_map.mp among
    exact inert_upper (inert.of_subset (subset_of_mem_words ofText)) c inside

/-- An inert word stays inert in title case. -/
theorem inert_titleWord {word : List Char} (inert : Inert word) : Inert (titleWord word) := by
  cases word with
  | nil => exact inert
  | cons c rest =>
    obtain ⟨first, later⟩ := inert_cons.mp inert
    exact inert_append.mpr ⟨inert_upperOf first, inert_lower later⟩

/-- The form of inert text made of words in title case is inert. -/
theorem inert_pascalCase {text : String} (inert : Inert text.toList) :
    Inert (pascalCase text).toList := by
  intro c member
  rw [pascalCase, String.toList_ofList] at member
  obtain ⟨word, ofText, inside⟩ := List.mem_flatMap.mp member
  exact inert_titleWord (inert.of_subset (subset_of_mem_words ofText)) c inside

/-- Dropping a beginning brings no new characters. -/
theorem subset_of_dropLead {lead text rest : List Char} (dropped : dropLead lead text = some rest) :
    rest ⊆ text := by
  rw [dropLead_eq_some_iff.mp dropped]
  exact List.subset_append_right lead rest

end WidgetBuilders.Text

/-! ## Types -/

namespace WidgetBuilders.Kotlin

open Text

/-- The characters that a type may have in Kotlin without having them on the platform. -/
def ownCharacters : List Char :=
  "BooleanByteCharShortIntLongFloatDoubleArray<>?.".toList

/-- The element type has no characters but those of the name. -/
theorem mem_stripBrackets {reversed : List Char} {rank : Nat} {c : Char}
    (inside : c ∈ (stripBrackets rank reversed).element.toList) : c ∈ reversed := by
  fun_induction stripBrackets rank reversed with
  | case1 rank rest ih => exact List.mem_cons_of_mem _ (List.mem_cons_of_mem _ (ih inside))
  | case2 rank reversed _ => simpa using inside

/-- The names of primitive types are made of characters that Kotlin adds. -/
theorem primitive_subset {name primitive : String} (found : primitive? name = some primitive) :
    primitive.toList ⊆ ownCharacters := by
  obtain ⟨front, back, listed, _⟩ := List.lookup_eq_some_iff.mp found
  have all : ∀ entry ∈ [("boolean", "Boolean"), ("byte", "Byte"), ("char", "Char"),
      ("short", "Short"), ("int", "Int"), ("long", "Long"), ("float", "Float"),
      ("double", "Double")], entry.2.toList ⊆ ownCharacters := by decide
  exact all (name, primitive) (by simp [listed])

/-- Leaving out the package brings no new characters. -/
theorem withoutLang_subset (name : List Char) : withoutLang name ⊆ name := by
  unfold withoutLang
  split
  · next simple dropped =>
    split
    · exact List.Subset.refl _
    · exact subset_of_dropLead dropped
  · exact List.Subset.refl _

/-- A reference to a class has the characters of its name and those that Kotlin adds. -/
theorem mem_reference {name : String} {c : Char} (inside : c ∈ (reference name).toList) :
    c ∈ name.toList ∨ c ∈ ownCharacters := by
  rw [reference, String.toList_append, String.toList_ofList, List.mem_append] at inside
  rcases inside with shown | mark
  · obtain ⟨own, among, rfl⟩ := List.mem_map.mp shown
    split
    · exact .inr (by decide)
    · exact .inl (withoutLang_subset _ among)
  · exact .inr ((by decide : "?".toList ⊆ ownCharacters) mark)

/-- An array type has the characters of its element type and those that Kotlin adds. -/
theorem mem_arrayType {element : String} {rank : Nat} {c : Char}
    (inside : c ∈ (arrayType element rank).toList) : c ∈ element.toList ∨ c ∈ ownCharacters := by
  have opening : "Array<".toList ⊆ ownCharacters := by decide
  have ending : ">?".toList ⊆ ownCharacters := by decide
  fun_induction arrayType element rank with
  | case1 =>
    cases found : primitive? element with
    | none => exact mem_reference (by simpa [found] using inside)
    | some primitive => exact .inr (primitive_subset found (by simpa [found] using inside))
  | case2 name found =>
    rw [String.toList_append, List.mem_append] at inside
    rcases inside with named | array
    · exact .inr (primitive_subset found named)
    · exact .inr ((by decide : "Array?".toList ⊆ ownCharacters) array)
  | case3 found =>
    rw [String.toList_append, String.toList_append, List.mem_append, List.mem_append] at inside
    rcases inside with (opened | named) | closed
    · exact .inr (opening opened)
    · exact mem_reference named
    · exact .inr (ending closed)
  | case4 rank ih =>
    rw [String.toList_append, String.toList_append, List.mem_append, List.mem_append] at inside
    rcases inside with (opened | within) | closed
    · exact .inr (opening opened)
    · exact ih within
    · exact .inr (ending closed)

/-- The Kotlin form of a type has the characters of its name, and a few of its own. -/
theorem mem_typeOf {name : String} {c : Char} (inside : c ∈ (typeOf name).toList) :
    c ∈ name.toList ∨ c ∈ ownCharacters :=
  (mem_arrayType inside).imp_left fun element => List.mem_reverse.mp (mem_stripBrackets element)

/-- The Kotlin form of a type of inert name is inert. -/
theorem inert_typeOf {name : String} (inert : Inert name.toList) : Inert (typeOf name).toList := by
  have own : Inert ownCharacters := by decide
  intro c inside
  exact (mem_typeOf inside).elim (inert c) (own c)

end WidgetBuilders.Kotlin
