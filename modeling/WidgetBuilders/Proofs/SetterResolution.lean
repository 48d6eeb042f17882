import Mathlib.Data.List.Forall2
import WidgetBuilders.Setter

/-!
# The only setter of each property

A helper constructor can be generated exactly if each of its properties has one setter and no more.
What counts are the entries of the widget's list of methods: a method that is listed twice is two
setters. The properties are looked up one by one, and none of them changes what becomes of another:
where all have their setter, the setters stand in the order of the properties, and otherwise exactly
the properties that have none, or several, are reported, again in their order.

The rule for a single property is said below in terms of characters, without the search. The type of
a property is the end of a setter's parameter type, so `int` is also the type of a method that takes
an `android.graphics.Point`.
-/

namespace WidgetBuilders

/-- The method is named `set` and then as the property, but with the first character in upper case.
It has one parameter, and the type of that ends with the type of the property. -/
structure Property.SetBy (property : Property) (method : Method) : Prop where
  named : method.name.toList = "set".toList ++ ((property.name.toList.take 1).flatMap Text.upperOf
    ++ property.name.toList.drop 1)
  typed : ∃ type, method.parameters = [type] ∧ property.type.toList <:+ type.toList

/-- The name of a setter, character by character. -/
theorem Property.methodName_eq_iff {property : Property} {name : String} :
    name = property.methodName ↔ name.toList = "set".toList
      ++ ((property.name.toList.take 1).flatMap Text.upperOf ++ property.name.toList.drop 1) := by
  rw [← String.toList_inj, methodName, String.toList_append, Text.toList_capitalize]

/-- The check that the search makes of each method is the rule for a single property. -/
theorem Property.isSetBy_iff {property : Property} {method : Method} :
    property.isSetBy method = true ↔ property.SetBy method := by
  unfold isSetBy
  rw [Bool.and_eq_true, decide_eq_true_eq, methodName_eq_iff]
  constructor
  · rintro ⟨named, typed⟩
    split at typed
    · next type shape => exact ⟨named, type, shape, by simpa using typed⟩
    · cases typed
  · rintro ⟨named, type, shape, ends⟩
    refine ⟨named, ?_⟩
    rw [shape]
    simpa using ends

/-- All setters of a property have one name. -/
theorem Property.SetBy.name_eq {property : Property} {method : Method}
    (sets : property.SetBy method) : method.name = property.methodName :=
  methodName_eq_iff.mpr sets.named

instance (property : Property) (method : Method) : Decidable (property.SetBy method) :=
  decidable_of_iff _ Property.isSetBy_iff

namespace Setter

variable {widget : Widget} {spec : HelperSpec} {property : Property}

/-- Of all entries of the widget's list of methods, this one sets the property and no other does. -/
def IsOnly (widget : Widget) (property : Property) (method : Method) : Prop :=
  ∃ before after, widget.methods = before ++ method :: after ∧ property.SetBy method ∧
    ∀ other ∈ before ++ after, ¬property.SetBy other

/-- The property can be set: it has a setter, and only one. -/
def HasOnly (widget : Widget) (property : Property) : Prop :=
  ∃ method, IsOnly widget property method

/-- What is told of a property that has no setter, or several. -/
inductive Lacks (widget : Widget) (spec : HelperSpec) (property : Property) : Fault → Prop
  | missing (unset : ∀ method ∈ widget.methods, ¬property.SetBy method) :
      Lacks widget spec property
        (.noSetter widget.qualifiedName property.name property.methodName spec)
  | ambiguous {methods : List Method}
      (listed : methods = widget.methods.filter (property.SetBy ·)) (several : 2 ≤ methods.length) :
      Lacks widget spec property
        (.severalSetters widget.qualifiedName property.methodName spec methods)

/-! ## One property -/

/-- The only setter is a method of the widget. -/
theorem IsOnly.listed {setter : Method} (only : IsOnly widget property setter) :
    setter ∈ widget.methods := by
  obtain ⟨before, after, methods, _⟩ := only
  simp [methods]

/-- The only setter of a property does set it. -/
theorem IsOnly.sets {setter : Method} (only : IsOnly widget property setter) :
    property.SetBy setter := by
  obtain ⟨_, _, _, sets, _⟩ := only
  exact sets

/-- No other method of the widget sets the property. -/
theorem IsOnly.eq {setter other : Method} (only : IsOnly widget property setter)
    (listed : other ∈ widget.methods) (sets : property.SetBy other) : other = setter := by
  obtain ⟨before, after, methods, _, others⟩ := only
  rw [methods, List.mem_append, List.mem_cons] at listed
  rcases listed with front | rfl | back
  · exact absurd sets (others other (List.mem_append_left _ front))
  · rfl
  · exact absurd sets (others other (List.mem_append_right _ back))

/-- The candidates for a property are its setters, in the order of the widget's methods. -/
theorem candidates_eq (widget : Widget) (property : Property) :
    candidates widget property = widget.methods.filter (property.SetBy ·) := by
  refine List.filter_congr fun method _ => ?_
  rw [Bool.eq_iff_iff, Property.isSetBy_iff, decide_eq_true_eq]

/-- There is no candidate exactly if no method sets the property. -/
theorem candidates_eq_nil_iff :
    candidates widget property = [] ↔ ∀ method ∈ widget.methods, ¬property.SetBy method := by
  simp [candidates_eq]

/-- A list of candidates with one entry is one place among the methods. -/
theorem candidates_eq_singleton_iff {method : Method} :
    candidates widget property = [method] ↔ IsOnly widget property method := by
  rw [candidates_eq]
  constructor
  · intro only
    obtain ⟨before, after, split, unsetBefore, sets, unsetAfter⟩ :=
      List.filter_eq_cons_iff.mp only
    refine ⟨before, after, split, by simpa using sets, ?_⟩
    intro other member
    rcases List.mem_append.mp member with member | member
    · simpa using unsetBefore other member
    · simpa using List.filter_eq_nil_iff.mp unsetAfter other member
  · rintro ⟨before, after, split, sets, others⟩
    have unset (part : List Method) (within : part ⊆ before ++ after) :
        part.filter (property.SetBy ·) = [] :=
      List.filter_eq_nil_iff.mpr fun other member => by simpa using others other (within member)
    rw [split, List.filter_append, List.filter_cons_of_pos (by simpa using sets),
      unset before (List.subset_append_left _ _), unset after (List.subset_append_right _ _),
      List.nil_append]

/-- The search finds the only setter, and nothing but that. -/
theorem find_eq_ok_iff {method : Method} :
    find widget spec property = .ok method ↔ IsOnly widget property method := by
  rw [← candidates_eq_singleton_iff, find]
  cases candidates widget property with
  | nil => simp
  | cons first rest => cases rest <;> simp

/-- The search fails with the fault that the property has, and with no other. -/
theorem find_eq_error_iff {fault : Fault} :
    find widget spec property = .error fault ↔ Lacks widget spec property fault := by
  constructor
  · intro failed
    rw [find] at failed
    match found : candidates widget property with
    | [] =>
      rw [found] at failed
      cases failed
      exact .missing (candidates_eq_nil_iff.mp found)
    | [method] =>
      rw [found] at failed
      cases failed
    | first :: second :: rest =>
      rw [found] at failed
      cases failed
      exact .ambiguous (found.symm.trans (candidates_eq widget property)) (by simp)
  · intro lacks
    cases lacks with
    | missing unset => rw [find, candidates_eq_nil_iff.mpr unset]
    | @ambiguous methods listed several =>
      rw [find, candidates_eq, ← listed]
      match methods, several with
      | first :: second :: rest, _ => rfl

/-- A property either has its only setter or is reported, and not both. -/
theorem hasOnly_or_lacks (widget : Widget) (spec : HelperSpec) (property : Property) :
    (∃ method, find widget spec property = .ok method ∧ HasOnly widget property) ∨
      ∃ fault, find widget spec property = .error fault ∧ ¬HasOnly widget property := by
  cases found : find widget spec property with
  | ok method => exact Or.inl ⟨method, rfl, method, find_eq_ok_iff.mp found⟩
  | error fault =>
    refine Or.inr ⟨fault, rfl, ?_⟩
    rintro ⟨method, only⟩
    rw [find_eq_ok_iff.mpr only] at found
    cases found

instance (widget : Widget) (property : Property) : Decidable (HasOnly widget property) :=
  decidable_of_iff ((candidates widget property).length = 1) <| by
    simp only [List.length_eq_one_iff, candidates_eq_singleton_iff, HasOnly]

/-! ## All properties -/

/-- What the search for each property reports, in the order of the properties. -/
def reported (widget : Widget) (spec : HelperSpec) (properties : List Property) : List Fault :=
  properties.filterMap fun property =>
    match find widget spec property with
    | .ok _ => none
    | .error fault => some fault

/-- A property with its setter adds nothing to the report, and one without adds its fault in front.
-/
theorem reported_cons (property : Property) (rest : List Property) :
    reported widget spec (property :: rest) =
      match find widget spec property with
      | .ok _ => reported widget spec rest
      | .error fault => fault :: reported widget spec rest := by
  unfold reported
  rw [List.filterMap_cons]
  cases find widget spec property <;> rfl

/-- The searches do not depend on each other: all of them are made, and what they report is put
together. -/
theorem findAll_eq (widget : Widget) (spec : HelperSpec) (properties : List Property) :
    findAll widget spec properties =
      if reported widget spec properties = [] then
        .ok (properties.filterMap fun property => (find widget spec property).toOption)
      else .error (reported widget spec properties) := by
  -- A search is made for every property, so a fault in one does not keep those after it from being
  -- told.
  induction properties with
  | nil => rfl
  | cons property rest ih =>
    rw [findAll, ih, reported_cons, List.filterMap_cons]
    by_cases others : reported widget spec rest = [] <;>
      cases find widget spec property <;> simp [others, Except.toOption]

/-- All searches fail together if one of them does, with what all of them report. -/
theorem findAll_eq_error_iff {properties : List Property} {faults : List Fault} :
    findAll widget spec properties = .error faults ↔
      faults ≠ [] ∧ reported widget spec properties = faults := by
  rw [findAll_eq]
  split
  · next none => simp [none, eq_comm]
  · next some => simpa using fun same => same ▸ some

/-- Nothing is reported exactly if each property has its only setter. -/
theorem reported_eq_nil_iff {properties : List Property} :
    reported widget spec properties = [] ↔ ∀ property ∈ properties, HasOnly widget property := by
  induction properties with
  | nil => simp [reported]
  | cons property rest ih =>
    rw [List.forall_mem_cons, ← ih, reported_cons]
    rcases hasOnly_or_lacks widget spec property with
      ⟨method, found, only⟩ | ⟨fault, found, lacks⟩
    · simp [found, only]
    · simp [found, lacks]

/-- Exactly the properties that lack their setter are reported, each with its own fault. -/
theorem forall₂_lacks_iff {properties : List Property} {faults : List Fault} :
    List.Forall₂ (Lacks widget spec)
        (properties.filter fun property => ¬HasOnly widget property) faults ↔
      reported widget spec properties = faults := by
  induction properties generalizing faults with
  | nil => simp [reported, eq_comm]
  | cons property rest ih =>
    rw [reported_cons]
    rcases hasOnly_or_lacks widget spec property with
      ⟨method, found, only⟩ | ⟨fault, found, lacks⟩
    · rw [List.filter_cons_of_neg (by simpa using only), ih, found]
    · rw [List.filter_cons_of_pos (by simpa using lacks), List.forall₂_cons_left_iff]
      simp only [ih, ← find_eq_error_iff, found]
      simp [eq_comm]

/-- Each property has its only setter in the place where it stands itself. -/
theorem forall₂_isOnly_iff {properties : List Property} {setters : List Method} :
    List.Forall₂ (IsOnly widget) properties setters ↔
      findAll widget spec properties = .ok setters := by
  induction properties generalizing setters with
  | nil => simp [findAll, eq_comm]
  | cons property rest ih =>
    rw [List.forall₂_cons_left_iff, findAll]
    simp only [ih, ← @find_eq_ok_iff widget spec]
    cases find widget spec property <;> cases findAll widget spec rest <;> simp [eq_comm]

/-- Setter resolution is exact and complete.

The setters of a helper constructor are found exactly if each property has its only setter among the
widget's methods, and then they are these, in the order of the properties. Otherwise exactly the
properties that lack theirs are reported, in their order. -/
theorem ofSpec_exact (widget : Widget) (spec : HelperSpec) :
    ((∃ setters, ofSpec widget spec = .ok setters) ↔
      ∀ property ∈ spec.properties, HasOnly widget property) ∧
    (∀ setters, ofSpec widget spec = .ok setters ↔
      List.Forall₂ (IsOnly widget) spec.properties setters) ∧
    ∀ faults, ofSpec widget spec = .error faults ↔
      (∃ property ∈ spec.properties, ¬HasOnly widget property) ∧
        List.Forall₂ (Lacks widget spec)
          (spec.properties.filter fun property => ¬HasOnly widget property) faults := by
  unfold ofSpec
  refine ⟨?_, fun setters => forall₂_isOnly_iff.symm, ?_⟩
  · rw [← @reported_eq_nil_iff widget spec, findAll_eq]
    split
    · next none => simp [none]
    · next some => simp [some]
  · intro faults
    rw [findAll_eq_error_iff, forall₂_lacks_iff]
    refine and_congr_left fun same => ?_
    rw [← same, Ne, reported_eq_nil_iff]
    simp

/-- The type `android.graphics.Point` ends with `int`, too. -/
example :
    let widget : Widget :=
      { WidgetClass.named "a.B" with
        methods := [⟨"setValue", ["int"]⟩, ⟨"setValue", ["android.graphics.Point"]⟩]
        isContainer := false }
    ¬HasOnly widget ⟨"value", "int"⟩ ∧ HasOnly widget ⟨"value", "Point"⟩ := by
  decide +kernel

end Setter

end WidgetBuilders
