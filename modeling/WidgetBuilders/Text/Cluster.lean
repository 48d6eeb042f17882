import WidgetBuilders.Text.Cluster.Table
import WidgetBuilders.Text.Parts

/-!
# Clusters: the characters of a text as a reader counts them

A cluster is a letter with its marks, a Hangul syllable, a conjunct, a flag, or a row of pictographs
held together by joiners. Where a text may be cut is decided from left to right: the rules look at
the class of the next character, and of the past they remember only the class of the last character
and whether the cluster so far is an unpaired flag half, a pictograph with marks, or a consonant
with marks that may be waiting for its partner. These are Unicode's extended grapheme clusters.

Every ASCII character stands alone, save that a carriage return and a line feed belong together.
-/

namespace WidgetBuilders.Text.Cluster

/-- How a character behaves at a possible cut. -/
inductive Kind
  | carriageReturn | lineFeed | control
  | extend | joiner | spacing | prepend
  | regional | pictograph
  | leading | vowel | trailing | syllable | closedSyllable
  | other
  deriving DecidableEq

/-- The kind of a character. A precomposed Hangul syllable is closed if it has a trailing
consonant, which 27 of every 28 in their block do. -/
def kind (c : Char) : Kind :=
  let code := c.toNat
  if code < 128 then
    if code = 0x0D then .carriageReturn
    else if code = 0x0A then .lineFeed
    else if code < 0x20 || code = 0x7F then .control
    else .other
  else if 0xAC00 ≤ code && code ≤ 0xD7A3 then
    if (code - 0xAC00) % 28 = 0 then .syllable else .closedSyllable
  else if code = 0x200D then .joiner
  else if extendRanges.contains code then .extend
  else if controlRanges.contains code then .control
  else if spacingRanges.contains code then .spacing
  else if prependRanges.contains code then .prepend
  else if regionalRanges.contains code then .regional
  else if leadingRanges.contains code then .leading
  else if vowelRanges.contains code then .vowel
  else if trailingRanges.contains code then .trailing
  else if pictographRanges.contains code then .pictograph
  else .other

/-- The character may take part in a conjunct as a consonant. -/
def isConsonant (c : Char) : Bool :=
  128 ≤ c.toNat && consonantRanges.contains c.toNat

/-- The character links the consonants of a conjunct. -/
def isLinker (c : Char) : Bool :=
  128 ≤ c.toNat && linkerRanges.contains c.toNat

/-- The character may stand between the consonants of a conjunct: a joiner or any mark that
continues a cluster, except the zero-width non-joiner. -/
def keepsConjunct (c : Char) : Bool :=
  (kind c = .extend || kind c = .joiner) && c.toNat ≠ 0x200C

/-- What the rules remember of the characters already read. -/
structure State where
  /-- The kind of the last character. -/
  last : Kind
  /-- The last characters are regional indicators, and their number is odd. -/
  halfFlag : Bool
  /-- The last characters are a pictograph and marks that continue it. -/
  picture : Bool
  /-- The last characters are a pictograph, marks that continue it, and a joiner. -/
  joined : Bool
  /-- The last characters are a consonant and characters that keep its conjunct open. -/
  consonant : Bool
  /-- As `consonant`, and one of those characters is a linker. -/
  linked : Bool

/-- The state before any character. -/
def State.start : State := ⟨.control, false, false, false, false, false⟩

/-- The state after one more character. -/
def State.next (state : State) (c : Char) : State :=
  let k := kind c
  { last := k
    halfFlag := k = .regional && !state.halfFlag
    picture := k = .pictograph || (k = .extend && state.picture)
    joined := k = .joiner && state.picture
    consonant := isConsonant c || (keepsConjunct c && state.consonant)
    linked := !isConsonant c && keepsConjunct c && state.consonant
      && (state.linked || isLinker c) }

/-- The text may be cut between what was read and `c`. -/
def State.cutsBefore (state : State) (c : Char) : Bool :=
  match state.last, kind c with
  | .carriageReturn, .lineFeed => false
  | .carriageReturn, _ | .lineFeed, _ | .control, _ => true
  | _, .carriageReturn | _, .lineFeed | _, .control => true
  | .leading, .leading | .leading, .vowel => false
  | .leading, .syllable | .leading, .closedSyllable => false
  | .syllable, .vowel | .vowel, .vowel | .syllable, .trailing | .vowel, .trailing => false
  | .closedSyllable, .trailing | .trailing, .trailing => false
  | _, .extend | _, .joiner | _, .spacing => false
  | .prepend, _ => false
  | _, k =>
    !(state.linked && isConsonant c) && !(state.joined && k = .pictograph)
      && !(state.halfFlag && k = .regional)

end Cluster

/-- The clusters of the rest of a text; the first one continues the cluster that is being read. -/
def clustersAfter (state : Cluster.State) : List Char → List (List Char)
  | [] => [[]]
  | c :: rest =>
    let parts := consHead c (clustersAfter (state.next c) rest)
    if state.cutsBefore c then [] :: parts else parts

/-- The clusters of a text, in order. Joined together they are the text, and none is empty. -/
def clusters : List Char → List (List Char)
  | [] => []
  | c :: rest => consHead c (clustersAfter (Cluster.State.start.next c) rest)

/-- No character is lost between the clusters that follow a state. -/
theorem flatten_clustersAfter (state : Cluster.State) (text : List Char) :
    (clustersAfter state text).flatten = text := by
  induction text generalizing state with
  | nil => rfl
  | cons c rest ih =>
    have continued : (consHead c (clustersAfter (state.next c) rest)).flatten = c :: rest := by
      rw [flatten_consHead, ih]
    by_cases cut : state.cutsBefore c = true
    · simp [clustersAfter, cut, continued]
    · simp [clustersAfter, cut, continued]

/-- Joined together, the clusters of a text are the text. -/
theorem flatten_clusters (text : List Char) : (clusters text).flatten = text := by
  cases text with
  | nil => rfl
  | cons c rest => rw [clusters, flatten_consHead, flatten_clustersAfter]

end WidgetBuilders.Text
