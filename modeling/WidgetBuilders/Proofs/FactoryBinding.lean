import Mathlib.Data.List.Nodup
import WidgetBuilders.Factory

/-!
# Which properties a factory object ends up with

A key keeps the expression to which it was bound first. Binding it again to the same expression adds
nothing, and binding it to another one is refused, so whatever is asked for, in whatever order, the
object holds the first request for each key and no others. The reference below says this of a list
of requests, without the object; it is an ordered list, because the properties are declared in the
order in which they were bound.
-/

namespace WidgetBuilders.Factory

/-- The keys of some entries, in order. -/
def keys (entries : List FactoryEntry) : List String :=
  entries.map (·.key)

/-- The entries without those whose key an earlier one has. -/
def firstOfEachKey : List FactoryEntry → List FactoryEntry
  | [] => []
  | entry :: rest => entry :: (firstOfEachKey rest).filter (·.key ≠ entry.key)

/-- No two entries have the same key and different expressions. -/
def Agreeing (entries : List FactoryEntry) : Prop :=
  ∀ one ∈ entries, ∀ other ∈ entries, one.key = other.key → one.expression = other.expression

/-- A key is among them if it is the key of an entry. -/
theorem mem_keys {entries : List FactoryEntry} {key : String} :
    key ∈ keys entries ↔ ∃ entry ∈ entries, entry.key = key :=
  List.mem_map

/-- Leaving out repetitions loses no key. -/
theorem mem_keys_firstOfEachKey (entries : List FactoryEntry) (key : String) :
    key ∈ keys (firstOfEachKey entries) ↔ key ∈ keys entries := by
  induction entries with
  | nil => rfl
  | cons entry rest ih =>
    simp only [mem_keys] at ih ⊢
    by_cases same : entry.key = key
    · simp [firstOfEachKey, same]
    · have kept : ∀ other : FactoryEntry, other.key = key → other.key ≠ entry.key := by
        intro other named clash
        exact same (clash.symm.trans named)
      simp only [firstOfEachKey, List.mem_cons, exists_eq_or_imp, same, false_or, List.mem_filter,
        decide_eq_true_eq, ← ih]
      constructor
      · rintro ⟨other, ⟨member, _⟩, named⟩
        exact ⟨other, member, named⟩
      · rintro ⟨other, member, named⟩
        exact ⟨other, ⟨member, kept other named⟩, named⟩

/-- Leaving out later entries for a key brings no new ones. -/
theorem mem_of_mem_firstOfEachKey {entries : List FactoryEntry} {entry : FactoryEntry}
    (member : entry ∈ firstOfEachKey entries) : entry ∈ entries := by
  induction entries with
  | nil => exact member
  | cons first rest ih =>
    rcases List.mem_cons.mp member with rfl | later
    · simp
    · exact List.mem_cons_of_mem _ (ih (List.mem_filter.mp later).1)

/-- Every key is left once. -/
theorem nodup_firstOfEachKey (entries : List FactoryEntry) :
    (keys (firstOfEachKey entries)).Nodup := by
  induction entries with
  | nil => exact List.nodup_nil
  | cons entry rest ih =>
    refine List.nodup_cons.mpr ⟨?_, ?_⟩
    · simp
    · exact (List.filter_sublist.map _).nodup ih

/-- Where no two entries disagree, the first of each key are all there are. -/
theorem mem_firstOfEachKey_of_agreeing {entries : List FactoryEntry} (agreeing : Agreeing entries)
    {entry : FactoryEntry} (member : entry ∈ entries) : entry ∈ firstOfEachKey entries := by
  have key : entry.key ∈ keys entries := mem_keys.mpr ⟨entry, member, rfl⟩
  obtain ⟨first, kept, sameKey⟩ := mem_keys.mp ((mem_keys_firstOfEachKey entries entry.key).mpr key)
  have sameExpression : first.expression = entry.expression :=
    agreeing first (mem_of_mem_firstOfEachKey kept) entry member sameKey
  have same : first = entry := by
    rcases first with ⟨key, expression⟩
    rcases entry with ⟨otherKey, otherExpression⟩
    exact congrArg₂ FactoryEntry.mk sameKey sameExpression
  exact same ▸ kept

/-- One more entry stays unless its key has been seen. -/
theorem firstOfEachKey_append_singleton (entries : List FactoryEntry) (entry : FactoryEntry) :
    firstOfEachKey (entries ++ [entry]) =
      firstOfEachKey entries ++ if entry.key ∈ keys entries then [] else [entry] := by
  induction entries with
  | nil => rfl
  | cons first rest ih =>
    rw [List.cons_append, firstOfEachKey, firstOfEachKey, ih]
    by_cases later : entry.key ∈ keys rest
    · have known : entry.key ∈ keys (first :: rest) := List.mem_cons_of_mem _ later
      simp [later, known]
    · -- Only the first entry can have the key; its filter drops the new entry then.
      by_cases known : entry.key = first.key
      · simp [keys, known] at later ⊢
      · have unseen : entry.key ∉ keys (first :: rest) := by
          intro seen
          rcases List.mem_cons.mp seen with same | inRest
          · exact known same
          · exact later inRest
        simp [later, unseen, known]

/-- One more entry agrees with the others if it agrees with each of them. -/
theorem agreeing_append_singleton (entries : List FactoryEntry) (entry : FactoryEntry) :
    Agreeing (entries ++ [entry]) ↔ Agreeing entries ∧
      ∀ other ∈ entries, other.key = entry.key → other.expression = entry.expression := by
  constructor
  · intro agreeing
    have within : ∀ other ∈ entries, other ∈ entries ++ [entry] := by
      intro other member
      exact List.mem_append_left _ member
    refine ⟨fun one first other second => agreeing one (within one first) other
      (within other second), fun other member => agreeing other (within other member) entry ?_⟩
    simp
  · rintro ⟨agreeing, withLast⟩ one first other second same
    rcases List.mem_append.mp first with first | first <;>
      rcases List.mem_append.mp second with second | second
    · exact agreeing one first other second same
    · cases List.mem_singleton.mp second
      exact withLast one first same
    · cases List.mem_singleton.mp first
      exact (withLast other second same.symm).symm
    · rw [List.mem_singleton.mp first, List.mem_singleton.mp second]

/-! ## The index -/

/-- The place of a key is that of the first entry that has it. -/
theorem lookup_index (factory : Factory) (key : String) :
    factory.index.lookup key = factory.entries.findIdx? (·.key = key) := by
  have counted (entries : List FactoryEntry) (start : Nat) :
      ((entries.zipIdx start).map fun placed => (placed.1.key, placed.2)).lookup key =
        (entries.findIdx? (·.key = key)).map (· + start) := by
    induction entries generalizing start with
    | nil => rfl
    | cons entry rest ih =>
      rw [List.zipIdx_cons, List.map_cons, List.lookup_cons, ih, List.findIdx?_cons]
      by_cases same : entry.key = key
      · simp [same]
      · have other : (key == entry.key) = false := by simpa using Ne.symm same
        simp [same, other, Function.comp_def, Nat.add_comm, Nat.add_left_comm]
  rw [factory.indexed]
  exact (counted factory.entries 0).trans (by simp)

/-- The entry at the place of a key is the first that has it. -/
theorem expression?_eq_find? (factory : Factory) (key : String) :
    factory.expression? key = (factory.entries.find? (·.key = key)).map (·.expression) := by
  rw [expression?, lookup_index, List.find?_eq_bind_findIdx?_getElem?]
  cases factory.entries.findIdx? (·.key = key) with
  | none => rfl
  | some place => cases found : factory.entries[place]? <;> simp [found]

/-- A key is free exactly if no entry has it. -/
theorem expression?_eq_none_iff (factory : Factory) (key : String) :
    factory.expression? key = none ↔ key ∉ keys factory.entries := by
  simp [expression?_eq_find?, mem_keys]

/-- The expression of a key is that of an entry. -/
theorem mem_of_expression? {factory : Factory} {key expression : String}
    (bound : factory.expression? key = some expression) :
    ⟨key, expression⟩ ∈ factory.entries := by
  rw [expression?_eq_find?] at bound
  obtain ⟨entry, found, rfl⟩ := Option.map_eq_some_iff.mp bound
  have named : entry.key = key := by simpa using List.find?_some found
  subst named
  exact List.mem_of_find?_eq_some found

/-- Where no key is repeated, every entry tells the expression of its key. -/
theorem expression?_of_mem {factory : Factory} (unique : (keys factory.entries).Nodup)
    {entry : FactoryEntry} (member : entry ∈ factory.entries) :
    factory.expression? entry.key = some entry.expression := by
  obtain ⟨expression, bound⟩ : ∃ expression, factory.expression? entry.key = some expression := by
    refine Option.ne_none_iff_exists'.mp fun unbound => ?_
    exact (expression?_eq_none_iff factory entry.key).mp unbound
      (mem_keys.mpr ⟨entry, member, rfl⟩)
  have same : (⟨entry.key, expression⟩ : FactoryEntry) = entry :=
    List.inj_on_of_nodup_map unique (mem_of_expression? bound) member rfl
  rw [bound, ← same]

/-- The fault of an entry whose key is bound to another expression. -/
def clash? (factory : Factory) (entry : FactoryEntry) : Option Fault :=
  match factory.expression? entry.key with
  | none => none
  | some existing =>
    if existing = entry.expression then none
    else some (.keyTaken factory.name entry.key existing entry.expression)

/-- The object with one more entry, unless the key is bound. -/
def accept (factory : Factory) (entry : FactoryEntry) : Factory :=
  if entry.key ∈ keys factory.entries then factory else factory.push entry

/-- Accepting an entry leaves the name of the object alone. -/
theorem accept_name (factory : Factory) (entry : FactoryEntry) :
    (factory.accept entry).name = factory.name := by
  unfold accept
  split <;> rfl

/-- An accepted entry comes last, unless its key is there already. -/
theorem accept_entries (factory : Factory) (entry : FactoryEntry) :
    (factory.accept entry).entries =
      factory.entries ++ if entry.key ∈ keys factory.entries then [] else [entry] := by
  unfold accept
  split
  · exact (List.append_nil _).symm
  · rfl

/-- Binding is refused by a clash, and accepts the entry otherwise. -/
theorem bind_eq (factory : Factory) (functionName expression : String) :
    factory.bind functionName expression =
      match factory.clash? ⟨keyOf functionName, expression⟩ with
      | some fault => .error fault
      | none => .ok (factory.accept ⟨keyOf functionName, expression⟩,
          reference factory.name (keyOf functionName)) := by
  cases bound : factory.expression? (keyOf functionName) with
  | none =>
    have fresh := (expression?_eq_none_iff factory _).mp bound
    simp [bind, clash?, bound, accept, fresh]
  | some existing =>
    have known : keyOf functionName ∈ keys factory.entries :=
      mem_keys.mpr ⟨_, mem_of_expression? bound, rfl⟩
    by_cases same : existing = expression <;> simp [bind, clash?, bound, same, accept, known]

/-- A clash is about a key that is bound, so accepting the entry would add nothing. -/
theorem accept_of_clash {factory : Factory} {entry : FactoryEntry} {fault : Fault}
    (clash : factory.clash? entry = some fault) : factory.accept entry = factory := by
  have known : entry.key ∈ keys factory.entries := by
    by_contra fresh
    have unbound := (expression?_eq_none_iff factory entry.key).mpr fresh
    simp [clash?, unbound] at clash
  simp [accept, known]

/-- There is a clash exactly with an entry that has the same key and another expression. -/
theorem clash?_eq_none_iff {factory : Factory} (unique : (keys factory.entries).Nodup)
    (entry : FactoryEntry) :
    factory.clash? entry = none ↔
      ∀ bound ∈ factory.entries, bound.key = entry.key → bound.expression = entry.expression := by
  constructor
  · intro free bound member same
    have told := expression?_of_mem unique member
    rw [same] at told
    by_cases agrees : bound.expression = entry.expression
    · exact agrees
    · simp [clash?, told, agrees] at free
  · intro agrees
    unfold clash?
    split
    · rfl
    · next existing told =>
      have same : existing = entry.expression := agrees _ (mem_of_expression? told) rfl
      simp [same]

/-- Where the entries are the first of some agreeing requests, a clash with an entry is a
disagreement with a request: any request stands for the first one with its key. -/
theorem clash?_eq_none_iff_of_agreeing {factory : Factory} {requests : List FactoryEntry}
    (bound : factory.entries = firstOfEachKey requests) (agreeing : Agreeing requests)
    (entry : FactoryEntry) :
    factory.clash? entry = none ↔
      ∀ other ∈ requests, other.key = entry.key → other.expression = entry.expression := by
  have unique : (keys factory.entries).Nodup := by
    rw [bound]
    exact nodup_firstOfEachKey requests
  rw [clash?_eq_none_iff unique, bound]
  constructor
  · intro free other member same
    obtain ⟨first, kept, named⟩ := mem_keys.mp
      ((mem_keys_firstOfEachKey requests other.key).mpr (mem_keys.mpr ⟨other, member, rfl⟩))
    have agrees : first.expression = other.expression :=
      agreeing first (mem_of_mem_firstOfEachKey kept) other member named
    exact agrees.symm.trans (free first kept (named.trans same))
  · intro free first kept same
    exact free first (mem_of_mem_firstOfEachKey kept) same

end WidgetBuilders.Factory
