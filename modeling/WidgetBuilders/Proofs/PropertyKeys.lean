import Mathlib
import WidgetBuilders.Factory

/-!
# The spelling of property keys

A property is named after a function: the name with a capital first letter, cut into words, each
word in upper case, underscores between them. Where it is cut depends on letter case, which the key
no longer shows, and one of the rules looks two characters ahead.

For names of ASCII letters and digits the words need not be put together to see what the key is. It
is read off the name from left to right: a character in upper case for each character, and an
underscore after it where a word ends. So nothing is lost but case, and nothing is added but the
underscores. Between two of these a key has letters only or digits only, so no rule cuts it again,
and it is cut at its underscores and nowhere else.
-/

namespace WidgetBuilders.Text

/-! ## Clusters of ASCII text -/

namespace Cluster

/-- A character of ASCII that is no control character. -/
def IsPrintable (c : Char) : Prop := 0x20 ≤ c.toNat ∧ c.toNat < 0x7F

/-- The state after a printable character, whatever was before it. -/
def State.settled : State := ⟨.other, false, false, false, false, false⟩

variable {c : Char}

/-- Printable characters are of no special kind to the rules of clusters. -/
theorem kind_of_printable (printable : IsPrintable c) : kind c = .other := by
  obtain ⟨low, high⟩ := printable
  simp only [kind]
  rw [if_pos (by omega), if_neg (by omega), if_neg (by omega), if_neg (by simp; omega)]

/-- After a printable character, nothing is left of what was before it. -/
theorem next_of_printable (printable : IsPrintable c) (state : State) :
    state.next c = .settled := by
  have within : ¬128 ≤ c.toNat := by
    have high := printable.2
    omega
  simp [State.next, State.settled, kind_of_printable printable, isConsonant, keepsConjunct, within]

/-- Between two printable characters there is a cut. -/
theorem settled_cutsBefore (printable : IsPrintable c) : State.settled.cutsBefore c = true := by
  simp [State.cutsBefore, State.settled, kind_of_printable printable]

end Cluster

/-- Text after a printable character is cut before each of its characters. -/
theorem clustersAfter_settled {text : List Char} (printable : ∀ c ∈ text, Cluster.IsPrintable c) :
    clustersAfter .settled text = [] :: text.map fun c => [c] := by
  induction text with
  | nil => rfl
  | cons c rest ih =>
    obtain ⟨here, later⟩ := List.forall_mem_cons.mp printable
    rw [clustersAfter, Cluster.next_of_printable here, ih later]
    simp [Cluster.settled_cutsBefore here, consHead]

/-- Every printable character stands alone. -/
theorem clusters_of_printable {text : List Char} (printable : ∀ c ∈ text, Cluster.IsPrintable c) :
    clusters text = text.map fun c => [c] := by
  cases text with
  | nil => rfl
  | cons c rest =>
    obtain ⟨here, later⟩ := List.forall_mem_cons.mp printable
    rw [clusters, Cluster.next_of_printable here, clustersAfter_settled later]
    rfl

/-! ## Constant case, one cluster at a time -/

/-- There is at least one word, if only the empty one. -/
theorem wordsOfClusters_ne_nil (clusters : List (List Char)) : wordsOfClusters clusters ≠ [] := by
  cases clusters with
  | nil => simp [wordsOfClusters]
  | cons cluster rest =>
    rw [wordsOfClusters]
    split
    · exact List.cons_ne_nil _ _
    · split
      · exact List.cons_ne_nil _ _
      · exact consHead_ne_nil cluster _

/-- The words of a sequence of clusters in upper case, joined by underscores. -/
def joinedWords (clusters : List (List Char)) : List Char :=
  List.intercalate ['_'] ((wordsOfClusters clusters).map fun word => upper word.flatten)

/-- Constant case goes over the clusters of the text, and over nothing else. -/
theorem toList_constantCase (text : String) :
    (constantCase text).toList = joinedWords (clusters text.toList) := by
  rw [constantCase, String.toList_ofList, words, List.map_map]
  rfl

/-- What the first cluster becomes does not wait for the words of the others: a separator becomes an
underscore, and the end of a word puts one after the cluster. -/
theorem joinedWords_cons (cluster : List Char) (rest : List (List Char)) :
    joinedWords (cluster :: rest) =
      if isSeparator cluster then '_' :: joinedWords rest
      else if endsWord cluster rest then upper cluster ++ '_' :: joinedWords rest
      else upper cluster ++ joinedWords rest := by
  cases parts : wordsOfClusters rest with
  | nil => exact absurd parts (wordsOfClusters_ne_nil rest)
  | cons word others =>
    rw [joinedWords, joinedWords, wordsOfClusters, parts]
    split
    · simp [List.intercalate_cons_cons, upper]
    · split
      · simp [List.intercalate_cons_cons]
      · cases others <;> simp [consHead, upper, List.intercalate_cons_cons]

/-! ## Constant case, one character at a time -/

/-- A letter or a digit of ASCII, or an underscore. -/
def isPlain (c : Char) : Bool :=
  c.isAlphanum || c = '_'

/-- A word ends between two neighbours, given the text after them: where a capital follows a small
letter, where a digit follows a letter or a letter a digit, and before the last capital of a run
that a small letter follows. -/
inductive Breaks (c d : Char) : List Char → Prop
  | rise {rest : List Char} (small : c.isLower = true) (capital : d.isUpper = true) :
      Breaks c d rest
  | number {rest : List Char} (letter : c.isAlpha = true) (digit : d.isDigit = true) :
      Breaks c d rest
  | unit {rest : List Char} (digit : c.isDigit = true) (letter : d.isAlpha = true) :
      Breaks c d rest
  | acronym {e : Char} {rest : List Char} (capital : c.isUpper = true) (next : d.isUpper = true)
      (small : e.isLower = true) : Breaks c d (e :: rest)

/-- What a text of letters, digits and underscores is in constant case. An underscore of the text is
its own upper case. -/
inductive Spelled : List Char → List Char → Prop
  | nil : Spelled [] []
  | last (c : Char) : Spelled [c] [c.toUpper]
  | joined {c d : Char} {rest key : List Char} (unbroken : ¬Breaks c d rest)
      (later : Spelled (d :: rest) key) : Spelled (c :: d :: rest) (c.toUpper :: key)
  | broken {c d : Char} {rest key : List Char} (breaks : Breaks c d rest)
      (later : Spelled (d :: rest) key) : Spelled (c :: d :: rest) (c.toUpper :: '_' :: key)

section Signs

variable {c d : Char} {rest : List Char}

/-- Letters, digits and underscores are printable. -/
theorem printable_of_isPlain (plain : isPlain c = true) : Cluster.IsPrintable c := by
  simp only [isPlain, Char.isAlphanum, Char.isAlpha, Char.isUpper, Char.isLower, Char.isDigit,
    Bool.or_eq_true, Bool.and_eq_true, decide_eq_true_eq, UInt32.le_iff_toNat_le] at plain
  unfold Cluster.IsPrintable
  rcases plain with ((upper | lower) | digit) | rfl
  · simp at upper
    omega
  · simp at lower
    omega
  · simp at digit
    omega
  · decide

/-- Letters, digits and underscores are ASCII, which has its own, short rules of case. -/
theorem ascii_of_isPlain (plain : isPlain c = true) : c.toNat < 128 := by
  have high := (printable_of_isPlain plain).2
  omega

/-- A cluster of one character is a number if the character is a digit. -/
theorem isDigits_singleton (c : Char) : isDigits [c] = c.isDigit := by
  simp [isDigits]

/-- A cluster of one ASCII character is in upper case if the character is a capital. -/
theorem isUpper_singleton (ascii : c.toNat < 128) : isUpper [c] = c.isUpper :=
  of_ascii (p := fun c => isUpper [c] = c.isUpper) (by decide +kernel) ascii

/-- A cluster of one ASCII character is in lower case if the character is a small letter. -/
theorem isLower_singleton (ascii : c.toNat < 128) : isLower [c] = c.isLower :=
  of_ascii (p := fun c => isLower [c] = c.isLower) (by decide +kernel) ascii

/-- One ASCII character has one character as its upper case. -/
theorem upper_singleton (ascii : c.toNat < 128) : upper [c] = [c.toUpper] := by
  simp [upper, upperOf, ascii]

/-- Of letters, digits and underscores, the underscores separate words. -/
theorem isSeparator_singleton_iff (plain : isPlain c = true) :
    isSeparator [c] = true ↔ c = '_' := by
  simp only [isSeparator, Bool.or_eq_true, decide_eq_true_eq, List.cons.injEq, and_true]
  constructor
  · rintro ((underscore | hyphen) | space)
    · exact underscore
    · exact absurd (hyphen ▸ plain) (by decide)
    · exact absurd (space ▸ plain) (by decide)
  · exact fun underscore => .inl (.inl underscore)

/-- The rules for clusters are the rules for their characters. -/
theorem endsWord_iff (ascii : ∀ x ∈ c :: d :: rest, x.toNat < 128) :
    endsWord [c] ((d :: rest).map fun c => [c]) = true ↔ Breaks c d rest := by
  simp only [List.forall_mem_cons] at ascii
  obtain ⟨first, second, others⟩ := ascii
  simp only [List.map_cons, endsWord, isLower_singleton first, isUpper_singleton first,
    isUpper_singleton second, isLower_singleton second, isDigits_singleton, Bool.or_eq_true,
    Bool.and_eq_true]
  constructor
  · rintro (((((⟨small, capital⟩ | ⟨small, digit⟩) | ⟨capital, digit⟩) | ⟨digit, small⟩) |
      ⟨digit, capital⟩) | ⟨⟨capital, next⟩, later⟩)
    · exact .rise small capital
    · exact .number (by simp [Char.isAlpha, small]) digit
    · exact .number (by simp [Char.isAlpha, capital]) digit
    · exact .unit digit (by simp [Char.isAlpha, small])
    · exact .unit digit (by simp [Char.isAlpha, capital])
    -- the only rule that looks past `d`
    · cases rest with
      | nil => cases later
      | cons e rest =>
        refine .acronym capital next ?_
        simpa [isLower_singleton (others e List.mem_cons_self)] using later
  · rintro (⟨small, capital⟩ | ⟨letter, digit⟩ | ⟨digit, letter⟩ | ⟨capital, next, small⟩)
    · simp [small, capital]
    · rcases Bool.or_eq_true_iff.mp letter with capital | small
      · simp [capital, digit]
      · simp [small, digit]
    · rcases Bool.or_eq_true_iff.mp letter with capital | small
      · simp [capital, digit]
      · simp [small, digit]
    · simp [capital, next, isLower_singleton (others _ List.mem_cons_self), small]

/-- No word ends beside an underscore of the text: the underscore itself parts the words. -/
theorem Breaks.isAlphanum (breaks : Breaks c d rest) :
    c.isAlphanum = true ∧ d.isAlphanum = true := by
  cases breaks with
  | rise small capital => simp [Char.isAlphanum, Char.isAlpha, small, capital]
  | number letter digit => simp [Char.isAlphanum, letter, digit]
  | unit digit letter => simp [Char.isAlphanum, letter, digit]
  | acronym capital next _ => simp [Char.isAlphanum, Char.isAlpha, capital, next]

/-- No word ends at an underscore of the text. -/
theorem not_breaks_after_underscore (d : Char) (rest : List Char) : ¬Breaks '_' d rest :=
  fun breaks => absurd breaks.isAlphanum.1 (by decide)

/-- No word ends before an underscore of the text. -/
theorem not_breaks_before_underscore (c : Char) (rest : List Char) : ¬Breaks c '_' rest :=
  fun breaks => absurd breaks.isAlphanum.2 (by decide)

end Signs

/-- The words put together are what is read off the text from left to right. -/
theorem spelled_joinedWords {text : List Char} (plain : ∀ c ∈ text, isPlain c = true) :
    Spelled text (joinedWords (text.map fun c => [c])) := by
  induction text with
  | nil => exact .nil
  | cons c rest ih =>
    have ascii : ∀ x ∈ c :: rest, x.toNat < 128 := fun x member => ascii_of_isPlain (plain x member)
    obtain ⟨here, later⟩ := List.forall_mem_cons.mp plain
    have capital : upper [c] = [c.toUpper] := upper_singleton (ascii c List.mem_cons_self)
    have read := ih later
    rw [List.map_cons, joinedWords_cons, capital]
    -- a separator is dropped and an underscore joins the words around it: here it is the same one
    by_cases separator : c = '_'
    · subst separator
      cases rest with
      | nil => exact .last '_'
      | cons d rest => exact .joined (not_breaks_after_underscore d rest) read
    · rw [if_neg (mt (isSeparator_singleton_iff here).mp separator)]
      cases rest with
      | nil => exact .last c
      | cons d rest =>
        by_cases breaks : Breaks c d rest
        · rw [if_pos ((endsWord_iff ascii).mpr breaks)]
          exact .broken breaks read
        · rw [if_neg (mt (endsWord_iff ascii).mp breaks)]
          exact .joined breaks read

/-- There is one way to spell a text. -/
theorem Spelled.unique {text key other : List Char} (first : Spelled text key)
    (second : Spelled text other) : key = other := by
  induction first generalizing other with
  | nil =>
    cases second
    rfl
  | last c =>
    cases second
    rfl
  | joined unbroken _ ih =>
    cases second with
    | joined _ later => rw [ih later]
    | broken breaks _ => exact absurd breaks unbroken
  | broken breaks _ ih =>
    cases second with
    | joined unbroken _ => exact absurd breaks unbroken
    | broken _ later => rw [ih later]

/-- The words that are cut and joined again are what is read off the text from left to right. -/
theorem constantCase_eq_iff {text key : String} (plain : ∀ c ∈ text.toList, isPlain c = true) :
    constantCase text = key ↔ Spelled text.toList key.toList := by
  have own : Spelled text.toList (constantCase text).toList := by
    rw [toList_constantCase,
      clusters_of_printable fun c member => printable_of_isPlain (plain c member)]
    exact spelled_joinedWords plain
  rw [← String.toList_inj]
  constructor
  · intro same
    rwa [same] at own
  · exact own.unique

/-! ## Names of letters and digits -/

/-- Letters and digits of ASCII. -/
def Alphanumeric (text : List Char) : Prop := ∀ c ∈ text, c.isAlphanum = true

instance (text : List Char) : Decidable (Alphanumeric text) :=
  decidable_of_iff (text.all Char.isAlphanum = true) List.all_eq_true

/-- Capitals, digits and underscores; every underscore stands between two of the others. -/
structure InConstantCase (text : List Char) : Prop where
  signs : ∀ c ∈ text, c.isUpper = true ∨ c.isDigit = true ∨ c = '_'
  begins : text.head? ≠ some '_'
  ends : text.getLast? ≠ some '_'
  apart : text.IsChain fun c d => c = '_' → d ≠ '_'

section CapitalsAndDigits

variable {c : Char}

/-- Letters and digits are among the plain characters. -/
theorem isPlain_of_isAlphanum (alphanumeric : c.isAlphanum = true) : isPlain c = true := by
  simp [isPlain, alphanumeric]

/-- Digits have no case, and nothing else becomes a digit. -/
theorem isDigit_toUpper (c : Char) : c.toUpper.isDigit = c.isDigit := by
  by_cases small : c.isLower = true
  · have ascii : c.toNat < 128 :=
      ascii_of_isPlain (isPlain_of_isAlphanum (by simp [Char.isAlphanum, Char.isAlpha, small]))
    exact of_ascii (p := fun c => c.toUpper.isDigit = c.isDigit) (by decide +kernel) ascii
  · rw [Char.toUpper_eq_of_not_isLower small]

/-- A change of case keeps letters and digits, and makes none of other characters. -/
theorem isAlphanum_toUpper (c : Char) : c.toUpper.isAlphanum = c.isAlphanum := by
  simp [Char.isAlphanum, isDigit_toUpper]

/-- In upper case, a letter is a capital and a digit stays a digit. -/
theorem isUpper_or_isDigit_toUpper (alphanumeric : c.isAlphanum = true) :
    c.toUpper.isUpper = true ∨ c.toUpper.isDigit = true := by
  rw [Char.isUpper_toUpper_eq_isAlpha, isDigit_toUpper]
  exact Bool.or_eq_true_iff.mp alphanumeric

/-- Neither a capital nor a digit is an underscore. -/
theorem ne_underscore (sign : c.isUpper = true ∨ c.isDigit = true) : c ≠ '_' := by
  rintro rfl
  exact absurd sign (by decide)

end CapitalsAndDigits

namespace InConstantCase

variable {c : Char} {text key : List Char}

/-- A name in constant case has plain characters only. -/
theorem isPlain (spelling : InConstantCase text) : ∀ c ∈ text, isPlain c = true := by
  intro c member
  rcases spelling.signs c member with capital | digit | underscore
  · simp [Text.isPlain, Char.isAlphanum, Char.isAlpha, capital]
  · simp [Text.isPlain, Char.isAlphanum, digit]
  · simp [Text.isPlain, underscore]

/-- A name in constant case has no small letters. -/
theorem isLower_eq_false (spelling : InConstantCase text) : ∀ c ∈ text, c.isLower = false := by
  intro c member
  rcases spelling.signs c member with capital | digit | rfl
  · exact Bool.eq_false_iff.mpr (Char.not_isLower_of_isUpper capital)
  · simp [Char.isDigit, UInt32.le_iff_toNat_le] at digit
    simp [Char.isLower, UInt32.le_iff_toNat_le]
    omega
  · decide

/-- The empty name is in constant case. -/
theorem nil : InConstantCase [] := ⟨by simp, by simp, by simp, .nil⟩

/-- A capital or a digit may come before a name in constant case. -/
theorem cons (sign : c.isUpper = true ∨ c.isDigit = true) (later : InConstantCase key) :
    InConstantCase (c :: key) where
  signs := List.forall_mem_cons.mpr ⟨sign.imp_right .inl, later.signs⟩
  begins := by simpa using ne_underscore sign
  ends := by
    cases key with
    | nil => simpa using ne_underscore sign
    | cons d key => simpa using later.ends
  apart := List.isChain_cons.mpr
    ⟨fun _ _ underscore => absurd underscore (ne_underscore sign), later.apart⟩

/-- A capital or a digit may come before it with an underscore between, unless the name is empty. -/
theorem broken (sign : c.isUpper = true ∨ c.isDigit = true) (nonempty : key ≠ [])
    (later : InConstantCase key) : InConstantCase (c :: '_' :: key) where
  signs := by
    have underscore := List.forall_mem_cons.mpr ⟨.inr (.inr rfl), later.signs⟩
    exact List.forall_mem_cons.mpr ⟨sign.imp_right .inl, underscore⟩
  begins := by simpa using ne_underscore sign
  ends := by
    obtain ⟨d, key, rfl⟩ := List.exists_cons_of_ne_nil nonempty
    simpa using later.ends
  apart := by
    refine List.isChain_cons_cons.mpr
      ⟨fun underscore => absurd underscore (ne_underscore sign), ?_⟩
    refine List.isChain_cons.mpr ⟨?_, later.apart⟩
    intro d first _ underscore
    exact later.begins (underscore ▸ first)

end InConstantCase

namespace Spelled

variable {c d : Char} {rest text key : List Char}

/-- No underscore comes before the first character. -/
theorem exists_cons (spelled : Spelled (c :: rest) key) : ∃ more, key = c.toUpper :: more := by
  cases spelled <;> exact ⟨_, rfl⟩

/-- What is read off a name of letters and digits is in constant case. -/
theorem inConstantCase (spelled : Spelled text key) (alphanumeric : Alphanumeric text) :
    InConstantCase key := by
  induction spelled with
  | nil => exact .nil
  | last c => exact .cons (isUpper_or_isDigit_toUpper (alphanumeric c List.mem_cons_self)) .nil
  | joined _ _ ih =>
    obtain ⟨here, others⟩ := List.forall_mem_cons.mp alphanumeric
    exact .cons (isUpper_or_isDigit_toUpper here) (ih others)
  | broken _ later ih =>
    obtain ⟨here, others⟩ := List.forall_mem_cons.mp alphanumeric
    obtain ⟨more, rfl⟩ := later.exists_cons
    exact .broken (isUpper_or_isDigit_toUpper here) (List.cons_ne_nil _ _) (ih others)

/-- Nothing is lost but case, and nothing is added but underscores. -/
theorem filter_eq (spelled : Spelled text key) (alphanumeric : Alphanumeric text) :
    key.filter (· ≠ '_') = text.map Char.toUpper := by
  have kept {c : Char} (alphanumeric : c.isAlphanum = true) (key : List Char) :
      (c.toUpper :: key).filter (· ≠ '_') = c.toUpper :: key.filter (· ≠ '_') :=
    List.filter_cons_of_pos
      (by simpa using ne_underscore (isUpper_or_isDigit_toUpper alphanumeric))
  induction spelled with
  | nil => rfl
  | last c => exact kept (alphanumeric c List.mem_cons_self) []
  | joined _ _ ih =>
    obtain ⟨here, others⟩ := List.forall_mem_cons.mp alphanumeric
    rw [kept here, ih others]
    rfl
  | broken _ _ ih =>
    obtain ⟨here, others⟩ := List.forall_mem_cons.mp alphanumeric
    rw [kept here, List.filter_cons_of_neg (by simp), ih others]
    rfl

/-- In upper case, words end only between letters and digits, and there they did before. -/
theorem not_breaks_toUpper (unbroken : ¬Breaks c d rest)
    (capitals : ∀ e ∈ key, e.isLower = false) : ¬Breaks c.toUpper d.toUpper key := by
  rintro (⟨small, _⟩ | ⟨letter, digit⟩ | ⟨digit, letter⟩ | ⟨_, _, small⟩)
  · simp at small
  · exact unbroken (.number (by simpa using letter) (by rwa [← isDigit_toUpper d]))
  · exact unbroken (.unit (by rwa [← isDigit_toUpper c]) (by simpa using letter))
  · simp [capitals _ List.mem_cons_self] at small

/-- A name in constant case stays as it is: no rule finds another end of a word in it. -/
theorem again (spelled : Spelled text key) (alphanumeric : Alphanumeric text) :
    Spelled key key := by
  induction spelled with
  | nil => exact .nil
  | last c =>
    have same := Spelled.last c.toUpper
    rwa [Char.toUpper_toUpper_eq_toUpper] at same
  | joined unbroken later ih =>
    obtain ⟨_, others⟩ := List.forall_mem_cons.mp alphanumeric
    have spelling := later.inConstantCase others
    obtain ⟨more, rfl⟩ := later.exists_cons
    have capitals := (List.forall_mem_cons.mp spelling.isLower_eq_false).2
    have same := joined (not_breaks_toUpper unbroken capitals) (ih others)
    rwa [Char.toUpper_toUpper_eq_toUpper] at same
  | @broken c _ _ _ _ later ih =>
    obtain ⟨_, others⟩ := List.forall_mem_cons.mp alphanumeric
    obtain ⟨more, rfl⟩ := later.exists_cons
    -- the underscore that was put in is a character of the text by now
    have same := joined (not_breaks_before_underscore c.toUpper _)
      (joined (not_breaks_after_underscore _ _) (ih others))
    rwa [Char.toUpper_toUpper_eq_toUpper] at same

end Spelled

section Capitalized

variable {name : String}

/-- Of a name of letters and digits, one character becomes one capital. -/
theorem toList_capitalize_of_alphanumeric (alphanumeric : Alphanumeric name.toList) :
    (capitalize name).toList = (name.toList.take 1).map Char.toUpper ++ name.toList.drop 1 := by
  rw [toList_capitalize]
  cases shape : name.toList with
  | nil => rfl
  | cons c rest =>
    rw [shape] at alphanumeric
    have ascii := ascii_of_isPlain (isPlain_of_isAlphanum (alphanumeric c List.mem_cons_self))
    simp [upperOf, ascii]

/-- A capital first letter makes no difference in upper case. -/
theorem map_toUpper_capitalize (alphanumeric : Alphanumeric name.toList) :
    (capitalize name).toList.map Char.toUpper = name.toList.map Char.toUpper := by
  have once : Char.toUpper ∘ Char.toUpper = Char.toUpper := funext Char.toUpper_toUpper_eq_toUpper
  rw [toList_capitalize_of_alphanumeric alphanumeric, List.map_append, List.map_map, once,
    ← List.map_append, List.take_append_drop]

/-- With a capital first letter, a name still has letters and digits only. -/
theorem alphanumeric_capitalize (alphanumeric : Alphanumeric name.toList) :
    Alphanumeric (capitalize name).toList := by
  rw [toList_capitalize_of_alphanumeric alphanumeric]
  refine List.forall_mem_append.mpr ⟨?_, fun c later => alphanumeric c (List.mem_of_mem_drop later)⟩
  rw [List.forall_mem_map]
  intro c first
  rw [isAlphanum_toUpper]
  exact alphanumeric c (List.mem_of_mem_take first)

end Capitalized

end WidgetBuilders.Text

namespace WidgetBuilders.Factory

open Text

variable {name : String}

/-- The key is read off the name with a capital first letter. -/
theorem spelled_keyOf (alphanumeric : Alphanumeric name.toList) :
    Spelled (capitalize name).toList (keyOf name).toList :=
  have plain := fun c member =>
    isPlain_of_isAlphanum (alphanumeric_capitalize alphanumeric c member)
  (constantCase_eq_iff plain).mp rfl

/-- Without its underscores, the key is the name in upper case. -/
theorem filter_keyOf (alphanumeric : Alphanumeric name.toList) :
    (keyOf name).toList.filter (· ≠ '_') = name.toUpper.toList := by
  rw [(spelled_keyOf alphanumeric).filter_eq (alphanumeric_capitalize alphanumeric),
    map_toUpper_capitalize alphanumeric, String.toUpper, String.toList_map]

/-- Keys lose only case and word breaks.

The key of a function name of letters and digits spells the name, with a capital first letter: an
underscore stands exactly where a word ends. The key is in constant case, and it is its own
constant case. Without the underscores it is the name in upper case, so names that have one key
differ at most in case. -/
theorem keyOf_keeps_letters (alphanumeric : Alphanumeric name.toList) :
    Spelled (capitalize name).toList (keyOf name).toList ∧
      InConstantCase (keyOf name).toList ∧
      (keyOf name).toList.filter (· ≠ '_') = name.toUpper.toList ∧
      constantCase (keyOf name) = keyOf name ∧
      ∀ other : String, Alphanumeric other.toList → keyOf name = keyOf other →
        name.toUpper = other.toUpper := by
  have spelled := spelled_keyOf alphanumeric
  have capitalized := alphanumeric_capitalize alphanumeric
  have spelling := spelled.inConstantCase capitalized
  have again := (constantCase_eq_iff spelling.isPlain).mpr (spelled.again capitalized)
  refine ⟨spelled, spelling, filter_keyOf alphanumeric, again, ?_⟩
  intro other alsoAlphanumeric same
  rw [← String.toList_inj, ← filter_keyOf alphanumeric, ← filter_keyOf alsoAlphanumeric, same]

/-- Two spellings of one name, with an acronym and a number. -/
theorem keyOf_keeps_letters_of_server :
    let name : String := "tintedHTTPServer2x"
    let other : String := "TintedHTTPServer2X"
    let key : String := "TINTED_HTTP_SERVER_2_X"
    Alphanumeric name.toList ∧ Alphanumeric other.toList ∧ keyOf name = key ∧ keyOf other = key ∧
      Spelled (capitalize name).toList key.toList ∧ InConstantCase key.toList ∧
      key.toList.filter (· ≠ '_') = name.toUpper.toList ∧ constantCase key = key ∧
      name.toUpper = other.toUpper := by
  intro name other key
  have alphanumeric : Alphanumeric name.toList := by decide +kernel
  have alsoAlphanumeric : Alphanumeric other.toList := by decide +kernel
  have named : keyOf name = key := by decide +kernel
  have alsoNamed : keyOf other = key := by decide +kernel
  obtain ⟨spelled, spelling, letters, again, same⟩ := keyOf_keeps_letters alphanumeric
  rw [named] at spelled spelling letters again
  exact ⟨alphanumeric, alsoAlphanumeric, named, alsoNamed, spelled, spelling, letters, again,
    same other alsoAlphanumeric (named.trans alsoNamed.symm)⟩

/-- Names that differ only in case need not have one key. -/
example : keyOf "textView" = "TEXT_VIEW" ∧ keyOf "textview" = "TEXTVIEW" := by decide +kernel

end WidgetBuilders.Factory
