import Mathlib.Data.List.Pairwise
import WidgetBuilders.Proofs.FactoryReferences
import WidgetBuilders.Proofs.PrintedRegistry
import WidgetBuilders.Proofs.SetterResolution

/-!
# Properties that share a setter

The setters of a helper constructor are looked up property by property, and no lookup knows of
another. So two properties may be given the same setter, and the second value then takes the place
of the first. A file cannot declare a property twice, but it compares names as they are written,
while a setter is named after a property with the first character in upper case: `text` and `Text`
are two properties, and both are set by `setText`. Such names need not be equally long, since `ß`
has `SS` for its upper case.

The types decide as well. A setter fits every property whose type is an end of its parameter type,
and of two ends of one text the shorter one is an end of the longer one. Whether two properties that
have their setters share them can therefore be told without the widget.
-/

namespace WidgetBuilders

/-- Lists with related entries are apart in the same places. -/
theorem pairwise_iff_of_forall₂ {α β : Type} {related : α → β → Prop} {apart : α → α → Prop}
    {apartToo : β → β → Prop} {xs : List α} {ys : List β} (each : List.Forall₂ related xs ys)
    (same : ∀ {x y a b}, related x y → related a b → (apart x a ↔ apartToo y b)) :
    xs.Pairwise apart ↔ ys.Pairwise apartToo := by
  induction each with
  | nil => simp
  | @cons x y xs ys first others ih =>
    have heads : (∀ a ∈ xs, apart x a) ↔ ∀ b ∈ ys, apartToo y b := by
      clear ih
      induction others with
      | nil => simp
      | cons second _ ih => rw [List.forall_mem_cons, List.forall_mem_cons, ih, same first second]
    rw [List.pairwise_cons, List.pairwise_cons, heads, ih]

/-- The setters of both have one name, and a parameter type that ends with one of the two types ends
with the other. -/
structure Property.SharesSetter (first second : Property) : Prop where
  named : Text.capitalize first.name = Text.capitalize second.name
  typed : first.type.toList <:+ second.type.toList ∨ second.type.toList <:+ first.type.toList

instance (first second : Property) : Decidable (first.SharesSetter second) :=
  decidable_of_iff (Text.capitalize first.name = Text.capitalize second.name ∧
      (first.type.toList <:+ second.type.toList ∨ second.type.toList <:+ first.type.toList))
    ⟨fun ⟨named, typed⟩ => ⟨named, typed⟩, fun ⟨named, typed⟩ => ⟨named, typed⟩⟩

namespace Property

variable {first second : Property}

/-- It makes no difference which of two properties comes first. -/
theorem SharesSetter.symm (shares : first.SharesSetter second) : second.SharesSetter first :=
  ⟨shares.named.symm, shares.typed.symm⟩

instance : Std.Symm fun first second : Property => ¬first.SharesSetter second :=
  ⟨fun _ _ apart shares => apart shares.symm⟩

/-- Names that are alike but for the case of the first letter name one setter. -/
theorem capitalize_eq_iff : Text.capitalize first.name = Text.capitalize second.name ↔
    first.methodName = second.methodName := by
  unfold methodName
  rw [String.append_right_inj]

/-- A method that sets two properties has a parameter type with two ends. -/
theorem sharesSetter_of_setBy {method : Method} (sets : first.SetBy method)
    (setsOther : second.SetBy method) : first.SharesSetter second := by
  obtain ⟨type, takes, ends⟩ := sets.typed
  obtain ⟨other, takesOther, endsOther⟩ := setsOther.typed
  cases takes.symm.trans takesOther
  refine ⟨capitalize_eq_iff.mpr ?_, List.suffix_or_suffix_of_suffix ends endsOther⟩
  rw [← sets.name_eq, setsOther.name_eq]

/-- What sets the property with the longer type sets the other one, too. -/
theorem SetBy.of_shorter {method : Method} (sets : first.SetBy method)
    (named : Text.capitalize first.name = Text.capitalize second.name)
    (shorter : second.type.toList <:+ first.type.toList) : second.SetBy method := by
  obtain ⟨type, takes, ends⟩ := sets.typed
  refine ⟨methodName_eq_iff.mp ?_, type, takes, shorter.trans ends⟩
  rw [sets.name_eq, capitalize_eq_iff.mp named]

end Property

namespace Setter

variable {widget : Widget} {spec : HelperSpec} {setters : List Method}
  {first second : Property} {setter other : Method}

/-- Whether two properties have the same setter does not depend on the widget that has it. -/
theorem IsOnly.eq_iff (only : IsOnly widget first setter) (onlyOther : IsOnly widget second other) :
    setter = other ↔ first.SharesSetter second := by
  constructor
  · rintro rfl
    exact Property.sharesSetter_of_setBy only.sets onlyOther.sets
  · rintro ⟨named, longer | shorter⟩
    · exact (only.eq onlyOther.listed (onlyOther.sets.of_shorter named.symm longer)).symm
    · exact onlyOther.eq only.listed (only.sets.of_shorter named shorter)

/-- Setters are shared exactly where the declaration says so.

Where all properties of a helper constructor have their setters, two of them have the same one
exactly if they share it by their names and types, so the setters are pairwise different exactly if
no two properties share theirs. A file declares no property twice; of what it declares, the setters
are pairwise different exactly if no two different properties share theirs. -/
theorem ofSpec_shared (found : ofSpec widget spec = .ok setters) :
    setters.length = spec.properties.length ∧
    (∀ first ∈ spec.properties.zip setters, ∀ second ∈ spec.properties.zip setters,
      first.2 = second.2 ↔ first.1.SharesSetter second.1) ∧
    (setters.Nodup ↔ spec.properties.Pairwise fun first second => ¬first.SharesSetter second) ∧
    ∀ files name, spec ∈ (Registry.ofFiles files).specsOf name →
      (setters.Nodup ↔ ∀ first ∈ spec.properties, ∀ second ∈ spec.properties,
        first.SharesSetter second → first = second) := by
  have each : List.Forall₂ (IsOnly widget) spec.properties setters := forall₂_isOnly_iff.mpr found
  have apart : setters.Nodup ↔
      spec.properties.Pairwise fun first second => ¬first.SharesSetter second :=
    (pairwise_iff_of_forall₂ each fun only onlyOther => (only.eq_iff onlyOther).not.symm).symm
  refine ⟨each.length_eq.symm, ?_, apart, ?_⟩
  · intro first one second another
    obtain ⟨_, only⟩ := List.forall₂_iff_zip.mp each
    exact (only one).eq_iff (only another)
  · intro files name declared
    have distinct : spec.properties.Nodup :=
      ((Registry.wellFormed_ofFiles files).declared name spec declared).distinct.of_map
    rw [apart]
    constructor
    · intro unshared first one second another shares
      by_contra different
      exact unshared.forall one another different shares
    · intro same
      exact distinct.imp_of_mem fun one another different shares =>
        different (same _ one _ another shares)

/-- A text and its size are set by two methods. -/
theorem ofSpec_shared_of_sized :
    let sized : Widget := { textWidget "a.B" "B" with
      methods := [⟨"setText", ["java.lang.CharSequence"]⟩, ⟨"setTextSize", ["float"]⟩] }
    let spec : HelperSpec := ⟨[⟨"text", "CharSequence"⟩, ⟨"TextSize", "float"⟩], none⟩
    ofSpec sized spec = .ok sized.methods ∧ sized.methods.Nodup := by
  intro sized spec
  have found : ofSpec sized spec = .ok sized.methods := by decide +kernel
  obtain ⟨_, _, apart, _⟩ := ofSpec_shared found
  exact ⟨found, apart.mpr (by decide +kernel)⟩

/-- A file may declare two properties of a widget that has one method. -/
theorem ofSpec_of_text_in_two_cases :
    let file : SourceFile := ⟨"helpers.txt", "a.B(text: CharSequence, Text: CharSequence)\n"⟩
    let widget : Widget := textWidget "a.B" "B"
    file.lineErrors = [] ∧ widget.methods.Nodup ∧
      ∃ spec ∈ (Registry.ofFiles [file]).specsOf "a.B", ∃ setters,
        ofSpec widget spec = .ok setters ∧ ¬setters.Nodup := by
  intro file widget
  refine ⟨by decide +kernel, by decide +kernel,
    ⟨[⟨"text", "CharSequence"⟩, ⟨"Text", "CharSequence"⟩], some ⟨file, 0, 43⟩⟩, by decide +kernel,
    [⟨"setText", ["java.lang.CharSequence"]⟩, ⟨"setText", ["java.lang.CharSequence"]⟩],
    by decide +kernel, by decide⟩

end Setter

end WidgetBuilders
