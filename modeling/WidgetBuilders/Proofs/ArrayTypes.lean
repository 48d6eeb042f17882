import WidgetBuilders.Kotlin.Type
import WidgetBuilders.Proofs.TextCuts
import WidgetBuilders.Text.Joined

/-!
# Arrays of any depth

The platform writes an array as its element type with a pair of square brackets for each dimension.
Kotlin writes it from the outside in, with a pair of angle brackets for each dimension, and every
array may be null. An array of a primitive type has a name of its own, so the innermost dimension of
such an array has no angle brackets, and the primitive type is not marked.

What the names come to is said here without the recursion: so many openings, what stands in the
middle, and as many endings. A name that itself ends with square brackets would be taken for a
deeper array, and is no element type. Other square brackets in a name are kept as they are, and so
are angle brackets; only where an element type has none do those of the array stand by themselves,
and then each of them has its partner.
-/

namespace WidgetBuilders.Kotlin

open Text

/-- The eight primitive types, and what Kotlin calls them. -/
inductive Primitive : String → String → Prop
  | boolean : Primitive "boolean" "Boolean"
  | byte : Primitive "byte" "Byte"
  | char : Primitive "char" "Char"
  | short : Primitive "short" "Short"
  | int : Primitive "int" "Int"
  | long : Primitive "long" "Long"
  | float : Primitive "float" "Float"
  | double : Primitive "double" "Double"

/-- What is shown of the name of a class. `java.lang` is left out, but not the packages in it. -/
inductive Shown : List Char → List Char → Prop
  | lang {simple : List Char} (unpackaged : '.' ∉ simple) :
      Shown ("java.lang.".toList ++ simple) simple
  | whole {name : List Char}
      (other : ∀ simple, name = "java.lang.".toList ++ simple → '.' ∈ simple) : Shown name name

/-- A class is referred to by what is shown of its name, with dots for dollar signs, and a question
mark. -/
inductive Refers (element : String) : String → Prop
  | intro {shown : List Char} (shows : Shown element.toList shown) :
      Refers element (String.ofList (shown.map fun c => if c = '$' then '.' else c) ++ "?")

/-- An array of a given depth, as Kotlin writes it. At depth zero it is the element type. -/
inductive ArrayText (element : String) : Nat → String → Prop
  | primitive {name : String} (named : Primitive element name) : ArrayText element 0 name
  | primitives {name : String} (named : Primitive element name) (depth : Nat) :
      ArrayText element (depth + 1)
        (repeated depth "Array<" ++ (name ++ "Array?") ++ repeated depth ">?")
  | references {text : String} (unnamed : ∀ name, ¬Primitive element name)
      (refers : Refers element text) (depth : Nat) :
      ArrayText element depth (repeated depth "Array<" ++ text ++ repeated depth ">?")

/-- Angle brackets in a text come in pairs, one inside the other or one after the other. -/
inductive AnglesNest : List Char → Prop
  | nil : AnglesNest []
  | other {c : Char} {rest : List Char} (unopened : c ≠ '<') (unclosed : c ≠ '>')
      (later : AnglesNest rest) : AnglesNest (c :: rest)
  | pair {inner rest : List Char} (within : AnglesNest inner) (later : AnglesNest rest) :
      AnglesNest ('<' :: (inner ++ '>' :: rest))

/-! ## Element types -/

/-- The table of primitive types holds these eight, and no others. -/
theorem primitive?_eq_some_iff {element name : String} :
    primitive? element = some name ↔ Primitive element name := by
  constructor
  · intro found
    obtain ⟨front, back, listed, _⟩ := List.lookup_eq_some_iff.mp found
    have all : ∀ entry ∈ [("boolean", "Boolean"), ("byte", "Byte"), ("char", "Char"),
        ("short", "Short"), ("int", "Int"), ("long", "Long"), ("float", "Float"),
        ("double", "Double")], Primitive entry.1 entry.2 := by
      simp only [List.forall_mem_cons]
      exact ⟨.boolean, .byte, .char, .short, .int, .long, .float, .double, by simp⟩
    exact all (element, name) (by simp [listed])
  · intro named
    cases named <;> decide

/-- What is shown of a name is what leaving out `java.lang` leaves of it. -/
theorem shown_iff {name shown : List Char} : Shown name shown ↔ withoutLang name = shown := by
  unfold withoutLang
  constructor
  · rintro (unpackaged | other)
    · rw [dropLead_eq_some_iff.mpr rfl]
      exact if_neg (by simpa only [List.contains_iff_mem] using unpackaged)
    · split
      · next simple dropped =>
        have packaged : '.' ∈ simple := other simple (dropLead_eq_some_iff.mp dropped)
        exact if_pos (List.contains_iff_mem.mpr packaged)
      · rfl
  · rintro rfl
    split
    · next simple dropped =>
      have led := dropLead_eq_some_iff.mp dropped
      split
      · next packaged =>
        refine .whole fun other same => ?_
        rw [← List.append_cancel_left (led.symm.trans same)]
        exact List.contains_iff_mem.mp packaged
      · next unpackaged =>
        rw [led]
        exact .lang (mt List.contains_iff_mem.mpr unpackaged)
    · next kept =>
      refine .whole fun simple led => ?_
      rw [dropLead_eq_some_iff.mpr led] at kept
      cases kept

/-- No more is shown than the name has. -/
theorem Shown.subset {name shown : List Char} (shows : Shown name shown) : shown ⊆ name := by
  cases shows with
  | lang _ => exact List.subset_append_right _ _
  | whole _ => exact List.Subset.refl _

/-- A reference is what is shown of the name, and nothing else refers to the class. -/
theorem refers_iff {element text : String} : Refers element text ↔ reference element = text := by
  constructor
  · rintro ⟨shows⟩
    rw [reference, shown_iff.mp shows]
  · rintro rfl
    exact .intro (shown_iff.mpr rfl)

/-! ## Dimensions -/

/-- Of repeated texts, the first one may be told apart. -/
theorem repeated_succ (count : Nat) (text : String) :
    repeated (count + 1) text = text ++ repeated count text := rfl

/-- The last one may be told apart as well as the first. -/
theorem repeated_succ_last (count : Nat) (text : String) :
    repeated (count + 1) text = repeated count text ++ text := by
  induction count with
  | zero => simp [repeated, concat]
  | succ count ih =>
    rw [repeated_succ, ih, ← String.append_assoc, ← repeated_succ, ← ih]

/-- Read from the back, each pair of brackets counts for one dimension. -/
theorem stripBrackets_repeated (depth rank : Nat) (reversed : List Char) :
    stripBrackets rank ((repeated depth "[]").toList.reverse ++ reversed) =
      stripBrackets (rank + depth) reversed := by
  induction depth generalizing rank with
  | zero => rfl
  | succ depth ih =>
    have shape : (repeated (depth + 1) "[]").toList.reverse ++ reversed =
        ']' :: '[' :: ((repeated depth "[]").toList.reverse ++ reversed) := by
      simp [repeated_succ_last]
    rw [shape, stripBrackets, ih, Nat.add_assoc, Nat.add_comm 1]

/-- A name that does not end with square brackets is an element type as it stands. -/
theorem stripBrackets_of_unbracketed {element : String}
    (unbracketed : ¬"[]".toList <:+ element.toList) (rank : Nat) :
    stripBrackets rank element.toList.reverse = ⟨element, rank⟩ := by
  unfold stripBrackets
  split
  · next rest shape =>
    have ending := congrArg List.reverse shape
    simp only [List.reverse_reverse, List.reverse_cons, List.append_assoc, List.cons_append,
      List.nil_append] at ending
    exact absurd ⟨rest.reverse, ending.symm⟩ unbracketed
  · rw [List.reverse_reverse, String.ofList_toList]

/-- An element type without brackets at its end is what is left when all brackets are taken off. -/
theorem ofName_repeated {element : String} (unbracketed : ¬"[]".toList <:+ element.toList)
    (depth : Nat) : PlatformType.ofName (element ++ repeated depth "[]") = ⟨element, depth⟩ := by
  rw [PlatformType.ofName, String.toList_append, List.reverse_append, stripBrackets_repeated,
    Nat.zero_add, stripBrackets_of_unbracketed unbracketed]

/-- Of the dimensions of an array of a primitive type, the innermost one belongs to the name. -/
theorem arrayType_of_primitive {element name : String} (named : primitive? element = some name)
    (depth : Nat) :
    arrayType element (depth + 1) =
      repeated depth "Array<" ++ (name ++ "Array?") ++ repeated depth ">?" := by
  induction depth with
  | zero => simp [arrayType, named, repeated, concat]
  | succ depth ih =>
    rw [arrayType, ih, repeated_succ, repeated_succ_last depth ">?"]
    simp only [String.append_assoc]

/-- An array of references is a reference, enclosed once for each dimension. -/
theorem arrayType_of_reference {element : String} (unnamed : primitive? element = none)
    (depth : Nat) :
    arrayType element depth =
      repeated depth "Array<" ++ reference element ++ repeated depth ">?" := by
  match depth with
  | 0 => simp [arrayType, unnamed, repeated, concat]
  | 1 => simp [arrayType, unnamed, repeated, concat]
  | depth + 2 =>
    rw [arrayType, arrayType_of_reference unnamed (depth + 1), repeated_succ (depth + 1),
      repeated_succ_last (depth + 1)]
    simp only [String.append_assoc]

/-- The text of an array is no choice. -/
theorem arrayText_iff {element text : String} {depth : Nat} :
    ArrayText element depth text ↔ arrayType element depth = text := by
  constructor
  · intro writes
    cases writes with
    | primitive named => simp [arrayType, primitive?_eq_some_iff.mpr named]
    | primitives named depth =>
      exact arrayType_of_primitive (primitive?_eq_some_iff.mpr named) depth
    | references unnamed refers depth =>
      have none : primitive? element = none :=
        Option.eq_none_iff_forall_ne_some.mpr fun name found =>
          unnamed name (primitive?_eq_some_iff.mp found)
      rw [arrayType_of_reference none, refers_iff.mp refers]
  · rintro rfl
    cases found : primitive? element with
    | none =>
      rw [arrayType_of_reference found]
      refine .references (fun name named => ?_) (refers_iff.mpr rfl) depth
      rw [primitive?_eq_some_iff.mpr named] at found
      cases found
    | some name =>
      have named := primitive?_eq_some_iff.mp found
      cases depth with
      | zero =>
        rw [arrayType, found]
        exact .primitive named
      | succ depth =>
        rw [arrayType_of_primitive found]
        exact .primitives named depth

/-! ## The mark at the end -/

/-- An array is not primitive. -/
theorem not_primitive_of_array (element name : String) (depth : Nat) :
    ¬Primitive (element ++ repeated (depth + 1) "[]") name := by
  generalize same : element ++ repeated (depth + 1) "[]" = type
  have ending : type.toList.getLast? = some ']' := by
    simp [← same, repeated_succ_last]
  intro named
  cases named <;> simp at ending

/-- With or without dimensions around it, a text that ends with a question mark still does. -/
theorem getLast?_marked {front : String} {depth : Nat} {text : String}
    (marked : text.toList.getLast? = some '?') :
    (front ++ text ++ repeated depth ">?").toList.getLast? = some '?' := by
  cases depth with
  | zero => simp [repeated, concat, List.getLast?_append, marked]
  | succ depth => simp [repeated_succ_last]

/-- Exactly the types that are not primitive are marked. -/
theorem getLast?_of_arrayText {element text : String} {depth : Nat}
    (writes : ArrayText element depth text) :
    text.toList.getLast? = some '?' ↔
      ¬∃ name, Primitive (element ++ repeated depth "[]") name := by
  cases writes with
  | primitive named =>
    refine iff_of_false ?_ (not_not.mpr ⟨text, by simpa [repeated, concat] using named⟩)
    cases named <;> simp
  | @primitives name named depth =>
    refine iff_of_true (getLast?_marked (by simp)) ?_
    rintro ⟨other, also⟩
    exact not_primitive_of_array _ _ _ also
  | @references reference unnamed refers depth =>
    obtain ⟨shows⟩ := refers
    refine iff_of_true (getLast?_marked (by simp)) ?_
    rintro ⟨other, also⟩
    cases depth with
    | zero => exact unnamed other (by simpa [repeated, concat] using also)
    | succ depth => exact not_primitive_of_array _ _ _ also

/-! ## Angle brackets -/

/-- No character is an angle bracket. -/
def Unangled (text : List Char) : Prop := '<' ∉ text ∧ '>' ∉ text

instance : DecidablePred Unangled := fun _ => inferInstanceAs (Decidable (_ ∧ _))

/-- Nested brackets may follow nested brackets. -/
theorem AnglesNest.append {front back : List Char} (first : AnglesNest front)
    (second : AnglesNest back) : AnglesNest (front ++ back) := by
  induction first with
  | nil => exact second
  | other unopened unclosed _ ih => exact .other unopened unclosed ih
  | @pair inner rest within _ _ ih =>
    simpa using AnglesNest.pair within ih

/-- Text without angle brackets has none that could be out of place. -/
theorem AnglesNest.of_unangled {text : List Char} (unangled : Unangled text) :
    AnglesNest text := by
  induction text with
  | nil => exact .nil
  | cons c rest ih =>
    obtain ⟨unopened, unclosed⟩ := unangled
    rw [List.mem_cons, not_or] at unopened unclosed
    exact .other (Ne.symm unopened.1) (Ne.symm unclosed.1) (ih ⟨unopened.2, unclosed.2⟩)

/-- Each dimension puts a pair of angle brackets around what it holds. -/
theorem AnglesNest.enclosed {text : String} (within : AnglesNest text.toList) (depth : Nat) :
    AnglesNest (repeated depth "Array<" ++ text ++ repeated depth ">?").toList := by
  induction depth with
  | zero => simpa [repeated, concat] using within
  | succ depth ih =>
    have shape : (repeated (depth + 1) "Array<" ++ text ++ repeated (depth + 1) ">?").toList =
        "Array".toList ++ '<' :: ((repeated depth "Array<" ++ text
          ++ repeated depth ">?").toList ++ '>' :: ['?']) := by
      rw [repeated_succ, repeated_succ_last]
      simp
    rw [shape]
    exact .append (.of_unangled (by decide)) (.pair ih (.of_unangled (by decide)))

/-- A text that takes all its characters from one without angle brackets has none. -/
theorem Unangled.of_subset {text part : List Char} (unangled : Unangled text)
    (within : part ⊆ text) : Unangled part :=
  ⟨fun opened => unangled.1 (within opened), fun closed => unangled.2 (within closed)⟩

/-- A reference to a class shows no angle bracket that the name does not have. -/
theorem Refers.unangled {element text : String} (refers : Refers element text)
    (unangled : Unangled element.toList) : Unangled text.toList := by
  obtain @⟨shown, shows⟩ := refers
  obtain ⟨unopened, unclosed⟩ := unangled.of_subset shows.subset
  have kept (c : Char) (inside : c ∈ (String.ofList (shown.map fun c => if c = '$' then '.' else c)
      ++ "?").toList) : c = '.' ∨ c = '?' ∨ c ∈ shown := by
    rw [String.toList_append, String.toList_ofList, List.mem_append, List.mem_map] at inside
    rcases inside with ⟨other, among, rfl⟩ | last
    · split
      · exact .inl rfl
      · exact .inr (.inr among)
    · exact .inr (.inl (by simpa using last))
  constructor
  · intro opened
    simpa [unopened] using kept '<' opened
  · intro closed
    simpa [unclosed] using kept '>' closed

/-- At every depth, the angle brackets are nested if the name of the element has none. -/
theorem anglesNest_of_arrayText {element text : String} {depth : Nat}
    (writes : ArrayText element depth text) (unangled : Unangled element.toList) :
    AnglesNest text.toList := by
  cases writes with
  | primitive named =>
    refine .of_unangled ?_
    cases named <;> decide
  | primitives named depth =>
    refine .enclosed (.of_unangled ?_) depth
    cases named <;> decide
  | references _ refers depth => exact .enclosed (.of_unangled (refers.unangled unangled)) depth

/-- Arrays of any depth.

An element type and pairs of square brackets are written as an array of this depth, and in no other
way. The text ends with a question mark exactly if the type is not primitive, and its angle brackets
nest if the element type has none. -/
theorem typeOf_arrays {element : String} (unbracketed : ¬"[]".toList <:+ element.toList)
    (depth : Nat) :
    let type : String := element ++ repeated depth "[]"
    (∀ text, typeOf type = text ↔ ArrayText element depth text) ∧
      ((typeOf type).toList.getLast? = some '?' ↔ ¬∃ name, Primitive type name) ∧
      (Unangled element.toList → AnglesNest (typeOf type).toList) := by
  intro type
  have written (text : String) : typeOf type = text ↔ ArrayText element depth text := by
    rw [typeOf, ofName_repeated unbracketed, arrayText_iff, PlatformType.written]
  have own : ArrayText element depth (typeOf type) := (written _).mp rfl
  exact ⟨written, getLast?_of_arrayText own, anglesNest_of_arrayText own⟩

/-- An array of arrays of strings. -/
theorem typeOf_arrays_of_strings :
    ¬"[]".toList <:+ "java.lang.String".toList ∧
      typeOf "java.lang.String[][]" = "Array<Array<String?>?>?" ∧
      ArrayText "java.lang.String" 2 "Array<Array<String?>?>?" ∧
      (¬∃ name, Primitive "java.lang.String[][]" name) ∧
      Unangled "java.lang.String".toList ∧ AnglesNest "Array<Array<String?>?>?".toList := by
  have unbracketed : ¬"[]".toList <:+ "java.lang.String".toList := by decide
  have text : typeOf "java.lang.String[][]" = "Array<Array<String?>?>?" := by decide +kernel
  have unangled : Unangled "java.lang.String".toList := by decide
  obtain ⟨written, marked, nested⟩ := typeOf_arrays unbracketed 2
  have type : "java.lang.String" ++ repeated 2 "[]" = "java.lang.String[][]" := by decide
  rw [type, text] at marked nested
  rw [type] at written
  exact ⟨unbracketed, text, (written _).mp text, marked.mp (by decide), unangled, nested unangled⟩

/-- The innermost dimension of an array of numbers has no angle brackets. -/
example : typeOf "int[][][]" = "Array<Array<IntArray?>?>?" := by decide +kernel

end WidgetBuilders.Kotlin
