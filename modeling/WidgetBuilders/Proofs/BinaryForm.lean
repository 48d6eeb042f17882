import WidgetBuilders.Proofs.Sequencing
import WidgetBuilders.Widget.Binary

/-!
# The binary form is canonical

A format is exact if its reader takes precisely what its writer gives: a value is read from its own
bytes, whatever follows them, and from no others. Both directions are one equivalence here, with the
bytes that are left over as a part of it, so that it carries over from the parts of a record or of a
list to the whole.

Eight bytes bound every length. A value with a longer text or list is written with a wrong length,
so it is excluded; nothing that is read can be one, because its lengths came from eight bytes.
-/

namespace WidgetBuilders.Binary

/-- A length that eight bytes can hold. -/
def LengthFits (length : Nat) : Prop := length < Nat.pow 2 64

instance : DecidablePred LengthFits := fun length =>
  inferInstanceAs (Decidable (length < Nat.pow 2 64))

/-- A text whose bytes can be counted in eight bytes. -/
def TextFits (text : String) : Prop := LengthFits (Text.Utf8.encode text).length

instance : DecidablePred TextFits := fun _ => inferInstanceAs (Decidable (LengthFits _))

/-- A list that can be counted in eight bytes, of elements that fit. -/
def ListFits {α : Type} (fits : α → Prop) (values : List α) : Prop :=
  LengthFits values.length ∧ ∀ value ∈ values, fits value

instance {α : Type} {fits : α → Prop} [DecidablePred fits] : DecidablePred (ListFits fits) :=
  fun _ => inferInstanceAs (Decidable (_ ∧ _))

/-- The name and the parameters of the method fit. -/
def MethodFits (method : Method) : Prop :=
  TextFits method.name ∧ ListFits TextFits method.parameters

instance : DecidablePred MethodFits := fun _ => inferInstanceAs (Decidable (_ ∧ _))

/-- All texts and lists of the class fit. -/
def ClassFits (c : WidgetClass) : Prop :=
  TextFits c.qualifiedName ∧ TextFits c.simpleName
    ∧ ListFits (ListFits TextFits) c.constructors ∧ ListFits MethodFits c.methods

instance : DecidablePred ClassFits := fun _ => inferInstanceAs (Decidable (_ ∧ _ ∧ _ ∧ _))

/-- The class of the widget fits; there is no more to a widget that has a length. -/
def WidgetFits (widget : Widget) : Prop := ClassFits widget.toWidgetClass

instance : DecidablePred WidgetFits := fun _ => inferInstanceAs (Decidable (ClassFits _))

/-- All texts and lists of the library have lengths below 2^64. -/
def LibraryFits (library : Library) : Prop :=
  ListFits WidgetFits library.views ∧ ListFits WidgetFits library.viewGroups

instance : DecidablePred LibraryFits := fun _ => inferInstanceAs (Decidable (_ ∧ _))

/-- The number of some bytes is below the one that would need another byte. -/
theorem ofLittleEndian_lt (bytes : List UInt8) :
    ofLittleEndian bytes < Nat.pow 256 bytes.length := by
  induction bytes with
  | nil => decide
  | cons byte rest ih =>
    have bound := byte.toNat_lt
    have power : Nat.pow 256 (byte :: rest).length = Nat.pow 256 rest.length * 256 := rfl
    rw [ofLittleEndian, power]
    omega

namespace Format

variable {α β : Type}

/-- The reader takes what the writer gives for a value that fits, and nothing else. -/
def Exact (format : Format α) (fits : α → Prop) : Prop :=
  ∀ bytes value rest,
    format.read bytes = .ok (value, rest) ↔ fits value ∧ bytes = format.write value ++ rest

/-- Lengths are read exactly as they are written, as long as eight bytes hold them. -/
theorem size_exact : size.Exact LengthFits := by
  intro bytes value rest
  have fitting (number : Nat) : LengthFits number ↔ number < Nat.pow 256 8 := Iff.rfl
  simp only [size, fitting]
  constructor
  · intro read
    split at read
    · cases read
    · next number _ taken =>
      cases read
      obtain ⟨shape, length⟩ := takeBytes_eq_some_iff.mp taken
      have bound := ofLittleEndian_lt number
      have written := littleEndian_ofLittleEndian number
      rw [length] at bound written
      rw [written]
      exact ⟨bound, shape⟩
  · rintro ⟨fits, rfl⟩
    have taken : takeBytes 8 (littleEndian 8 value ++ rest) = some (littleEndian 8 value, rest) :=
      takeBytes_eq_some_iff.mpr ⟨rfl, length_littleEndian 8 value⟩
    simp only [taken, ofLittleEndian_littleEndian fits]

/-- Truth values are read exactly as they are written: no byte but 0 and 1 is one. -/
theorem bool_exact : bool.Exact fun _ => True := by
  intro bytes value rest
  cases bytes with
  | nil => simp [bool]
  | cons byte tail =>
    by_cases zero : byte = 0
    · cases value <;> simp [bool, zero]
    · by_cases one : byte = 1
      · cases value <;> simp [bool, one]
      · cases value <;> simp [bool, zero, one]

/-- Texts are read exactly as they are written. -/
theorem text_exact : text.Exact TextFits := by
  intro bytes value rest
  simp only [text, bind_eq_ok_iff, Prod.exists, size_exact _ _ _]
  constructor
  · rintro ⟨length, middle, ⟨fits, rfl⟩, read⟩
    unfold readText at read
    split at read
    · cases read
    · next taken _ found =>
      obtain ⟨rfl, rfl⟩ := takeBytes_eq_some_iff.mp found
      split at read
      · next decoded =>
        cases read
        rw [Text.Utf8.eq_encode_of_decode decoded] at fits ⊢
        exact ⟨fits, by simp⟩
      · cases read
  · rintro ⟨fits, rfl⟩
    -- The number of bytes comes first, so whatever follows the text is left alone.
    have taken : takeBytes (Text.Utf8.encode value).length (Text.Utf8.encode value ++ rest) =
        some (Text.Utf8.encode value, rest) := takeBytes_eq_some_iff.mpr ⟨rfl, rfl⟩
    refine ⟨_, _, ⟨fits, List.append_assoc ..⟩, ?_⟩
    simp only [readText, taken, Text.Utf8.decode_encode]

/-- Two exact formats, one after the other, are exact together. -/
theorem pair_exact {first : Format α} {second : Format β} {firstFits : α → Prop}
    {secondFits : β → Prop} (one : first.Exact firstFits) (two : second.Exact secondFits) :
    (pair first second).Exact fun value => firstFits value.1 ∧ secondFits value.2 := by
  rintro bytes ⟨left, right⟩ rest
  simp only [pair, bind_eq_ok_iff, Prod.exists, one _ _ _, two _ _ _]
  constructor
  · rintro ⟨_, _, ⟨leftFits, rfl⟩, _, _, ⟨rightFits, rfl⟩, made⟩
    cases made
    exact ⟨⟨leftFits, rightFits⟩, by simp⟩
  · rintro ⟨⟨leftFits, rightFits⟩, rfl⟩
    exact ⟨left, _, ⟨leftFits, List.append_assoc ..⟩, right, rest, ⟨rightFits, rfl⟩, rfl⟩

/-- As many elements are read as were asked for, one after another. -/
theorem readMany_exact {element : Format α} {fits : α → Prop} (exact : element.Exact fits)
    (count : Nat) (bytes : List UInt8) (values : List α) (rest : List UInt8) :
    readMany element count bytes = .ok (values, rest) ↔
      values.length = count ∧ (∀ value ∈ values, fits value) ∧
        bytes = values.flatMap element.write ++ rest := by
  induction count generalizing bytes values rest with
  | zero => cases values <;> simp [readMany, eq_comm]
  | succ count ih =>
    simp only [readMany, bind_eq_ok_iff, Prod.exists, exact _ _ _, ih]
    constructor
    · rintro ⟨head, _, ⟨headFits, rfl⟩, tail, _, ⟨rfl, tailFits, rfl⟩, made⟩
      cases made
      exact ⟨rfl, List.forall_mem_cons.mpr ⟨headFits, tailFits⟩, by simp⟩
    · rintro ⟨length, allFit, rfl⟩
      cases values with
      | nil => cases length
      | cons head tail =>
        obtain ⟨headFits, tailFits⟩ := List.forall_mem_cons.mp allFit
        refine ⟨head, _, ⟨headFits, ?_⟩, tail, rest, ⟨?_, tailFits, rfl⟩, rfl⟩
        · simp
        · exact Nat.succ.inj length

/-- An exact format of elements gives one of lists. -/
theorem list_exact {element : Format α} {fits : α → Prop} (exact : element.Exact fits) :
    (list element).Exact (ListFits fits) := by
  intro bytes values rest
  simp only [list, bind_eq_ok_iff, Prod.exists, size_exact _ _ _, readMany_exact exact]
  constructor
  · rintro ⟨_, _, ⟨lengthFits, rfl⟩, rfl, allFit, rfl⟩
    exact ⟨⟨lengthFits, allFit⟩, by simp⟩
  · rintro ⟨⟨lengthFits, allFit⟩, rfl⟩
    exact ⟨_, _, ⟨lengthFits, List.append_assoc ..⟩, rfl, allFit, rfl⟩

/-- A format for values that stand one to one for others is as exact as theirs. -/
theorem via_exact {parts : β → α} {whole : α → β} {format : Format α} {fits : α → Prop}
    (exact : format.Exact fits) (whole_parts : ∀ value, whole (parts value) = value)
    (parts_whole : ∀ value, parts (whole value) = value) :
    (via parts whole format).Exact fun value => fits (parts value) := by
  intro bytes value rest
  simp only [via, bind_eq_ok_iff, Prod.exists, exact _ _ _]
  constructor
  · rintro ⟨made, _, ⟨madeFits, rfl⟩, same⟩
    cases same
    rw [parts_whole]
    exact ⟨madeFits, rfl⟩
  · rintro ⟨valueFits, rfl⟩
    exact ⟨parts value, rest, ⟨valueFits, rfl⟩, by rw [whole_parts]; rfl⟩

/-- Which values fit may be said in other words. -/
theorem Exact.of_iff {format : Format α} {fits others : α → Prop} (exact : format.Exact fits)
    (same : ∀ value, fits value ↔ others value) : format.Exact others := by
  intro bytes value rest
  rw [exact, same]

/-- Methods are read exactly as they are written. -/
theorem method_exact : method.Exact MethodFits :=
  via_exact (pair_exact text_exact (list_exact text_exact)) (fun _ => rfl) (fun _ => rfl)

/-- Classes are read exactly as they are written. -/
theorem widgetClass_exact : widgetClass.Exact ClassFits := by
  have parts := pair_exact text_exact (pair_exact text_exact (pair_exact bool_exact
    (pair_exact (list_exact (list_exact text_exact)) (list_exact method_exact))))
  refine (via_exact parts (fun _ => rfl) (fun _ => rfl)).of_iff fun c => ?_
  simp [ClassFits]

/-- Widgets are read exactly as they are written. -/
theorem widget_exact : widget.Exact WidgetFits := by
  have parts := pair_exact widgetClass_exact bool_exact
  refine (via_exact parts (fun _ => rfl) (fun _ => rfl)).of_iff fun w => ?_
  simp [WidgetFits]

/-- Libraries are read exactly as they are written. -/
theorem library_exact : library.Exact LibraryFits :=
  via_exact (pair_exact (list_exact widget_exact) (list_exact widget_exact)) (fun _ => rfl)
    (fun _ => rfl)

end Format

end WidgetBuilders.Binary

namespace WidgetBuilders.Library

open Binary

/-- A library is read from the bytes that begin with its binary form, and from no others. -/
theorem ofBytes_eq_ok_iff {bytes : List UInt8} {library : Library} :
    ofBytes bytes = .ok library ↔ LibraryFits library ∧ library.toBytes <+: bytes := by
  simp only [ofBytes, map_eq_ok_iff, Prod.exists, Format.library_exact _ _ _]
  constructor
  · rintro ⟨_, rest, ⟨fits, rfl⟩, rfl⟩
    exact ⟨fits, rest, rfl⟩
  · rintro ⟨fits, rest, rfl⟩
    exact ⟨library, rest, ⟨fits, rfl⟩, rfl⟩

/-- The binary form is canonical.

A library whose lengths fit is read back from its bytes, whatever follows them, and from no proper
part of their beginning. Bytes from which a library is read begin with its binary form. -/
theorem ofBytes_canonical :
    (∀ library : Library, LibraryFits library →
      (∀ rest, ofBytes (library.toBytes ++ rest) = .ok library) ∧
      ∀ front, front <+: library.toBytes → front ≠ library.toBytes →
        ∃ fault, ofBytes front = .error fault) ∧
    ∀ (bytes : List UInt8) (library : Library), ofBytes bytes = .ok library →
      library.toBytes <+: bytes := by
  refine ⟨fun library fits => ⟨fun rest => ?_, fun front under proper => ?_⟩, ?_⟩
  · exact ofBytes_eq_ok_iff.mpr ⟨fits, List.prefix_append ..⟩
  · cases read : ofBytes front with
    | error fault => exact ⟨fault, rfl⟩
    | ok other =>
      -- The other library would be read from all the bytes as well, so it is this one.
      obtain ⟨otherFits, begins⟩ := ofBytes_eq_ok_iff.mp read
      have whole : ofBytes library.toBytes = .ok library :=
        ofBytes_eq_ok_iff.mpr ⟨fits, List.prefix_rfl⟩
      have again : ofBytes library.toBytes = .ok other :=
        ofBytes_eq_ok_iff.mpr ⟨otherFits, begins.trans under⟩
      cases whole.symm.trans again
      exact absurd (under.eq_of_length_le begins.length_le) proper
  · intro bytes library read
    exact (ofBytes_eq_ok_iff.mp read).2

/-- A view with a constructor and a method, and a group whose name is not ASCII. -/
def viewAndGroup : Library where
  views :=
    [ { WidgetClass.named "a.View" with
        constructors := [["android.content.Context", "int"], []]
        methods := [⟨"setText", ["java.lang.CharSequence"]⟩]
        isContainer := false } ]
  viewGroups := [{ WidgetClass.named "a.Größe" with isContainer := true }]

/-- A library of a view and a view group fits, is read with a byte after it, and not from its first
hundred bytes. -/
theorem ofBytes_canonical_of_viewAndGroup :
    LibraryFits viewAndGroup ∧
      ofBytes (viewAndGroup.toBytes ++ [7]) = .ok viewAndGroup ∧
      (viewAndGroup.toBytes.take 100 <+: viewAndGroup.toBytes ∧
        viewAndGroup.toBytes.take 100 ≠ viewAndGroup.toBytes ∧
        ∃ fault, ofBytes (viewAndGroup.toBytes.take 100) = .error fault) ∧
      viewAndGroup.toBytes <+: viewAndGroup.toBytes ++ [7] := by
  have fits : LibraryFits viewAndGroup := by decide +kernel
  have proper : viewAndGroup.toBytes.take 100 ≠ viewAndGroup.toBytes := by decide +kernel
  have under := List.take_prefix 100 viewAndGroup.toBytes
  obtain ⟨back, short⟩ := ofBytes_canonical.1 viewAndGroup fits
  exact ⟨fits, back [7], ⟨under, proper, short _ under proper⟩,
    ofBytes_canonical.2 _ viewAndGroup (back [7])⟩

end WidgetBuilders.Library
