import Mathlib.Data.List.Induction
import WidgetBuilders.Proofs.SheetSteps

/-!
# A factory object from one request to the next

A factory object is asked to bind properties, one after another, and answers each request with a
reference or with a fault. Its entries and their index change together, and only by one more entry
at the end. So an answer stays true: a reference that was given out once leads to the same
expression after all later requests, and a request that is refused leaves no trace.

Which request is refused depends on the order, since the first one for a key decides. Whether any is
refused does not: it takes two requests with one key and different expressions, wherever they stand.
-/

namespace WidgetBuilders

namespace Factory

/-- A request to bind the property for functions of this name. -/
structure Request where
  functionName : String
  expression : String

/-- The entry that a request asks for. -/
def Request.entry (request : Request) : FactoryEntry :=
  ⟨keyOf request.functionName, request.expression⟩

/-- The answer to a request: the object with the property, and a reference to it. -/
def answer (factory : Factory) (request : Request) : Except Fault (Factory × String) :=
  factory.bind request.functionName request.expression

/-- The object after a request. One that is refused changes nothing. -/
def step (factory : Factory) (request : Request) : Factory :=
  match factory.answer request with
  | .ok (next, _) => next
  | .error _ => factory

/-- A new object after some requests. -/
def after (name : String) (requests : List Request) : Factory :=
  requests.foldl step (empty name)

/-- Some request is refused when it comes, after those before it. -/
def Refuses (name : String) (requests : List Request) : Prop :=
  ∃ before request later fault, requests = before ++ request :: later ∧
    (after name before).answer request = .error fault

/-! ## One request -/

section Answer

variable {factory next : Factory} {request : Request} {fault : Fault} {reference : String}

/-- A request is refused exactly for its clash with an entry. -/
theorem answer_eq_error_iff :
    factory.answer request = .error fault ↔ factory.clash? request.entry = some fault := by
  rw [answer, bind_eq, Request.entry]
  cases factory.clash? ⟨keyOf request.functionName, request.expression⟩ <;> simp

/-- A request without a clash is answered with the reference to its key. -/
theorem answer_eq_ok_iff :
    factory.answer request = .ok (next, reference) ↔
      factory.clash? request.entry = none ∧ next = factory.accept request.entry ∧
        reference = Factory.reference factory.name request.entry.key := by
  rw [answer, bind_eq, Request.entry]
  cases factory.clash? ⟨keyOf request.functionName, request.expression⟩ <;> simp [eq_comm]

/-- A request that is refused would add nothing, so every request does what accepting it does. -/
theorem step_eq_accept (factory : Factory) (request : Request) :
    factory.step request = factory.accept request.entry := by
  unfold step
  cases answered : factory.answer request with
  | error fault => exact (accept_of_clash (answer_eq_error_iff.mp answered)).symm
  | ok result =>
    obtain ⟨_, accepted, _⟩ := answer_eq_ok_iff.mp answered
    exact accepted

/-- A clash names the expression of an entry, and the one that is rejected. -/
theorem exists_of_clash? {entry : FactoryEntry} (clash : factory.clash? entry = some fault) :
    ∃ existing, ⟨entry.key, existing⟩ ∈ factory.entries ∧ existing ≠ entry.expression ∧
      fault = .keyTaken factory.name entry.key existing entry.expression := by
  unfold clash? at clash
  split at clash
  · cases clash
  · next existing bound =>
    rw [Option.ite_none_left_eq_some] at clash
    exact ⟨existing, mem_of_expression? bound, clash.1, (Option.some.inj clash.2).symm⟩

/-- What is accepted without a clash is there. -/
theorem mem_accept_of_free {entry : FactoryEntry} (free : factory.clash? entry = none) :
    entry ∈ (factory.accept entry).entries := by
  rw [accept_entries]
  split
  · next known =>
    have bound : factory.expression? entry.key ≠ none := fun unbound =>
      (expression?_eq_none_iff factory entry.key).mp unbound known
    obtain ⟨existing, bound⟩ := Option.ne_none_iff_exists'.mp bound
    have same : existing = entry.expression := by
      by_contra differ
      simp [clash?, bound, differ] at free
    have member := mem_of_expression? bound
    rw [same] at member
    exact List.mem_append_left _ member
  · exact List.mem_append_right _ (List.mem_singleton_self entry)

end Answer

/-! ## All requests -/

/-- One more request does to the object what accepting its entry does. -/
theorem after_append_singleton (name : String) (requests : List Request) (request : Request) :
    after name (requests ++ [request]) = (after name requests).accept request.entry := by
  rw [after, List.foldl_append]
  exact step_eq_accept _ request

/-- Requests leave the name of the object alone. -/
theorem after_name (name : String) (requests : List Request) :
    (after name requests).name = name := by
  induction requests using List.reverseRecOn with
  | nil => rfl
  | append_singleton requests request ih => rw [after_append_singleton, accept_name, ih]

/-- The object holds the first request for each key, in their order. -/
theorem after_entries (name : String) (requests : List Request) :
    (after name requests).entries = firstOfEachKey (requests.map Request.entry) := by
  induction requests using List.reverseRecOn with
  | nil => rfl
  | append_singleton requests request ih =>
    rw [after_append_singleton, accept_entries, ih, List.map_append, List.map_singleton,
      firstOfEachKey_append_singleton]
    simp only [mem_keys_firstOfEachKey]

/-- Later requests only add entries, behind those that are there. -/
theorem entries_prefix (name : String) (requests later : List Request) :
    (after name requests).entries <+: (after name (requests ++ later)).entries := by
  induction later using List.reverseRecOn with
  | nil => simp
  | append_singleton later request ih =>
    rw [← List.append_assoc, after_append_singleton, accept_entries]
    exact ih.trans (List.prefix_append _ _)

/-- No key is bound twice, whatever was requested. -/
theorem after_unique (name : String) (requests : List Request) :
    (keys (after name requests).entries).Nodup := by
  rw [after_entries]
  exact nodup_firstOfEachKey _

/-- Where no key is repeated, the index leads from each key to its place, and to no other. -/
theorem lookup_index_eq_some_iff {factory : Factory} (unique : (keys factory.entries).Nodup)
    {key : String} {place : Nat} :
    factory.index.lookup key = some place ↔
      ∃ entry, factory.entries[place]? = some entry ∧ entry.key = key := by
  rw [lookup_index, List.findIdx?_eq_some_iff_getElem]
  constructor
  · rintro ⟨within, named, _⟩
    exact ⟨_, List.getElem?_eq_getElem within, by simpa using named⟩
  · rintro ⟨entry, found, rfl⟩
    obtain ⟨within, rfl⟩ := List.getElem?_eq_some_iff.mp found
    refine ⟨within, by simp, fun earlier before => ?_⟩
    -- An earlier entry with the key would be a repetition.
    simp only [decide_eq_true_eq]
    intro same
    have placed : place < (keys factory.entries).length := by simpa [keys] using within
    have inside : earlier < (keys factory.entries).length := Nat.lt_trans before placed
    have repeated : (keys factory.entries)[earlier] = (keys factory.entries)[place] := by
      simpa [keys] using same
    exact Nat.ne_of_lt before (unique.getElem_inj_iff.mp repeated)

end Factory

namespace Sheet

/-! ## The requests of a family -/

variable (context : Context) (family : Family)

/-- The request that is made for a widget; none if the widget is not constructed. -/
def bindingOf? (widget : Widget) : Option Factory.Request :=
  match plan context family widget with
  | .construct construction => some ⟨construction.functionName, construction.expression⟩
  | _ => none

/-- A construction does to the object of its sheet what its request does. -/
theorem construct_factory (sheet : Sheet) (construction : Construction) :
    (construct context sheet construction).factory =
      sheet.factory.step ⟨construction.functionName, construction.expression⟩ := by
  unfold construct Factory.step Factory.answer
  cases sheet.factory.bind construction.functionName construction.expression <;> rfl

/-- The widgets of a family make their requests one after another, whatever else becomes of them. -/
theorem ofWidgets_factory (widgets : List Widget) :
    (ofWidgets context family widgets).factory =
      Factory.after (Factory.objectName context.options.artifact family)
        (widgets.filterMap (bindingOf? context family)) := by
  induction widgets using List.reverseRecOn with
  | nil => rfl
  | append_singleton widgets widget ih =>
    rw [ofWidgets_append_singleton, List.filterMap_append, take]
    cases decided : plan context family widget with
    | construct construction =>
      simp [construct_factory, bindingOf?, decided, ih, Factory.after]
    | «omit» => simp [bindingOf?, decided, ih]
    | unusable => simp [bindingOf?, decided, ih, add]
    | fault fault => simp [bindingOf?, decided, ih, add]

end Sheet

namespace Factory

/-! ## Refusals -/

/-- The last of some requests is refused, or one of those before it. -/
theorem refuses_append_singleton (name : String) (requests : List Request) (request : Request) :
    Refuses name (requests ++ [request]) ↔
      Refuses name requests ∨ (after name requests).clash? request.entry ≠ none := by
  constructor
  · rintro ⟨before, refused, later, fault, split, answered⟩
    rcases later.eq_nil_or_concat with rfl | ⟨rest, last, rfl⟩
    · obtain ⟨rfl, same⟩ := List.append_inj' split rfl
      cases same
      right
      simp [answer_eq_error_iff.mp answered]
    · left
      rw [List.concat_eq_append, ← List.cons_append, ← List.append_assoc] at split
      exact ⟨before, refused, rest, fault, (List.append_inj' split rfl).1, answered⟩
  · rintro (⟨before, refused, later, fault, rfl, answered⟩ | clash)
    · exact ⟨before, refused, later ++ [request], fault, by simp, answered⟩
    · obtain ⟨fault, clash⟩ := Option.ne_none_iff_exists'.mp clash
      exact ⟨requests, request, [], fault, rfl, answer_eq_error_iff.mpr clash⟩

/-- Requests are refused exactly if two of them disagree about a key. -/
theorem refuses_iff_not_agreeing (name : String) (requests : List Request) :
    Refuses name requests ↔ ¬Agreeing (requests.map Request.entry) := by
  induction requests using List.reverseRecOn with
  | nil => simp [Refuses, Agreeing]
  | append_singleton requests request ih =>
    rw [refuses_append_singleton, ih, List.map_append, List.map_singleton,
      agreeing_append_singleton, Classical.not_and_iff_not_or_not]
    by_cases agreeing : Agreeing (requests.map Request.entry)
    · have free := clash?_eq_none_iff_of_agreeing (after_entries name requests) agreeing
        request.entry
      simp only [agreeing, not_true_eq_false, false_or, ← free]
    · simp only [agreeing, not_false_eq_true, true_or]

/-- What holds of a new object that is asked to bind properties. -/
structure RunHolds (name : String) (requests : List Request) : Prop where
  /-- No key is bound twice. -/
  unique : (keys (after name requests).entries).Nodup
  /-- The index leads from the key of each entry to the place of the entry, and has no other
  keys. -/
  indexed : ∀ key place, (after name requests).index.lookup key = some place ↔
    ∃ entry, (after name requests).entries[place]? = some entry ∧ entry.key = key
  /-- A refused request changes nothing. The fault names the expression that the key is bound to,
  and the one that was rejected. -/
  refused : ∀ request fault, (after name requests).answer request = .error fault →
    after name (requests ++ [request]) = after name requests ∧
      ∃ existing, ⟨keyOf request.functionName, existing⟩ ∈ (after name requests).entries ∧
        existing ≠ request.expression ∧
        fault = .keyTaken name (keyOf request.functionName) existing request.expression
  /-- Any other request adds its entry at the end, or nothing. From then on, whatever is requested
  later, the key that the reference names is bound to the expression of this request. -/
  granted : ∀ request next reference,
    (after name requests).answer request = .ok (next, reference) →
      after name (requests ++ [request]) = next ∧
      (next.entries = (after name requests).entries ∨
        next.entries = (after name requests).entries ++
          [⟨keyOf request.functionName, request.expression⟩]) ∧
      reference = Factory.reference name (keyOf request.functionName) ∧
      ∀ later, (⟨keyOf request.functionName, request.expression⟩ : FactoryEntry) ∈
        (after name (requests ++ request :: later)).entries
  /-- Some request is refused exactly if two requests have one key and different expressions. -/
  clash : Refuses name requests ↔
    ∃ one ∈ requests, ∃ other ∈ requests,
      keyOf one.functionName = keyOf other.functionName ∧ one.expression ≠ other.expression
  /-- Whether some request is refused does not depend on their order. -/
  reordered : ∀ others, requests.Perm others → (Refuses name requests ↔ Refuses name others)

/-- A new factory object keeps its entries, its index and its answers together, whatever it is asked
to bind. -/
theorem after_runHolds (name : String) (requests : List Request) : RunHolds name requests := by
  constructor
  case unique => exact after_unique name requests
  case indexed => exact fun key place => lookup_index_eq_some_iff (after_unique name requests)
  case refused =>
    intro request fault answered
    have clash := answer_eq_error_iff.mp answered
    obtain ⟨existing, member, differ, told⟩ := exists_of_clash? clash
    rw [after_name] at told
    exact ⟨(after_append_singleton name requests request).trans (accept_of_clash clash), existing,
      member, differ, told⟩
  case granted =>
    intro request next reference answered
    obtain ⟨free, rfl, told⟩ := answer_eq_ok_iff.mp answered
    rw [after_name] at told
    refine ⟨after_append_singleton name requests request, ?_, told, fun later => ?_⟩
    · rw [accept_entries]
      split
      · exact .inl (List.append_nil _)
      · exact .inr rfl
    · have here := mem_accept_of_free free
      rw [← after_append_singleton] at here
      have kept := entries_prefix name (requests ++ [request]) later
      rw [List.append_assoc, List.singleton_append] at kept
      exact kept.subset here
  case clash =>
    rw [refuses_iff_not_agreeing]
    simp only [Agreeing, List.forall_mem_map, Request.entry, not_forall, exists_prop]
  case reordered =>
    intro others reordered
    rw [refuses_iff_not_agreeing, refuses_iff_not_agreeing]
    simp only [Agreeing, List.forall_mem_map, reordered.mem_iff]

end Factory

end WidgetBuilders
-- Later requests only add entries behind those that are there, so the entry stays.
