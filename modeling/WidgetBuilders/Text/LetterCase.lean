import WidgetBuilders.Text.LetterCase.Table
import WidgetBuilders.Text.LetterCase.Context

/-!
# Letter case

Upper and lower case follow Unicode's full mappings, so one character may become several: the upper
case of `ß` is `SS`. The mappings look at no character but their own, with one exception: in a text,
a capital sigma that ends a word becomes `ς` instead of `σ`.
-/

namespace WidgetBuilders.Text

/-- What a table of runs and expansions makes of a character; one that it does not list stays. -/
def mapCase (runs : List CaseRun) (expansions : List (Nat × List Nat)) (c : Char) : List Char :=
  match expansions.lookup c.toNat with
  | some codes => codes.map Char.ofNat
  | none => [Char.ofNat ((runs.findSome? (·.image? c.toNat)).getD c.toNat)]

/-- The upper case of one character. -/
def upperOf (c : Char) : List Char :=
  if c.toNat < 128 then [c.toUpper] else mapCase upperRuns upperExpansions c

/-- The lower case of one character by itself. -/
def lowerOf (c : Char) : List Char :=
  if c.toNat < 128 then [c.toLower] else mapCase lowerRuns lowerExpansions c

/-- A fact about a character below 128 may be checked for each of these. -/
theorem of_ascii {p : Char → Prop} (all : ∀ code < 128, p (Char.ofNat code)) {c : Char}
    (ascii : c.toNat < 128) : p c := by
  rw [← Char.ofNat_toNat c]
  exact all c.toNat ascii

/-- The upper case of a text: each character by itself. -/
def upper (text : List Char) : List Char :=
  text.flatMap upperOf

/-- Reading away from a sigma, the first character that case does not ignore is cased. -/
def meetsCased (away : List Char) : Bool :=
  match away.dropWhile isCaseIgnorable with
  | [] => false
  | c :: _ => isCased c

/-- The lower case of `text` where `before` stands in front of it, nearest character first. -/
def lowerAfter (before : List Char) : List Char → List Char
  | [] => []
  | c :: rest =>
    let mapped :=
      if c = 'Σ' && meetsCased before && !meetsCased rest then ['ς'] else lowerOf c
    mapped ++ lowerAfter (c :: before) rest

/-- The lower case of a text. A capital sigma becomes `ς` where a cased letter comes before it and
none after it, and `σ` elsewhere. -/
def lower (text : List Char) : List Char :=
  lowerAfter [] text

/-- The text with its first character in upper case, the rest untouched. -/
def capitalize (text : String) : String :=
  match text.toList with
  | [] => ""
  | c :: rest => String.ofList (upperOf c ++ rest)

/-- Only the first character changes, and it may become several. -/
theorem toList_capitalize (text : String) :
    (capitalize text).toList = (text.toList.take 1).flatMap upperOf ++ text.toList.drop 1 := by
  unfold capitalize
  cases text.toList <;> simp

/-- The text with its first character in lower case, the rest untouched. -/
def decapitalize (text : String) : String :=
  match text.toList with
  | [] => ""
  | c :: rest => String.ofList (lowerOf c ++ rest)

end WidgetBuilders.Text
