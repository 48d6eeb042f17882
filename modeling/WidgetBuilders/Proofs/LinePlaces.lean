import WidgetBuilders.Proofs.TextCuts
import WidgetBuilders.Source
import WidgetBuilders.Text.Utf8

/-!
# Places lead back to their lines

A line is told by where it stands in its text: it begins at the front or after a line feed, and it
ends with the first line feed from there, or with the text. This does not depend on how the lines
were numbered and counted. The place of a line is given in bytes, but lines are cut and trimmed by
characters, so the two only agree because offsets add up: what comes before a line has as many bytes
as the lines before it, blank lines and comments among them.

From this follows what a place is for. The bytes between its two offsets are those of the line
without the blank characters at its ends.
-/

namespace WidgetBuilders

open Text

/-! ## Characters and bytes -/

/-- The bytes that a span covers in its file. -/
def Span.bytes (span : Span) : List UInt8 :=
  ((Utf8.encode span.file.text).take span.stop).drop span.start

namespace Text

/-- The bytes of two texts in a row are those of one and then those of the other. -/
theorem encode_append (front back : List Char) :
    Utf8.encode (String.ofList (front ++ back)) =
      Utf8.encode (String.ofList front) ++ Utf8.encode (String.ofList back) := by
  simp [Utf8.encode]

/-- The bytes of a text are counted character by character. -/
theorem length_encode (text : List Char) :
    (Utf8.encode (String.ofList text)).length = byteLength text := by
  induction text with
  | nil => rfl
  | cons c rest ih =>
    have first : (Utf8.encode (String.ofList [c])).length = c.utf8Size := by
      simp [Utf8.encode, List.utf8Encode_singleton]
    rw [← List.singleton_append, encode_append, List.length_append, ih, first]
    rfl

/-- `line` is a line of the text, and `before` is what comes before it. -/
structure LineAt (text before line : List Char) : Prop where
  begins : before = [] ∨ before.getLast? = some '\n'
  nonempty : line ≠ []
  single : '\n' ∉ line.dropLast
  ends : ∃ after, text = before ++ line ++ after ∧ (after = [] ∨ line.getLast? = some '\n')

end Text

/-! ## Places -/

namespace SourceLine

end SourceLine

/-- The span covers a line of the file, all of it but the blank characters at its ends. -/
structure Span.Covers (span : Span) (file : SourceFile) (line : SourceLine) : Prop where
  sameFile : span.file = file
  /-- The line is one of the file's, and starts where it says. -/
  placed : ∃ before, LineAt file.text.toList before line.text ∧ line.start = byteLength before
  /-- Blank characters are left out, at both ends. -/
  trimmed : ∃ front back, Blank front ∧ Blank back ∧ line.text = front ++ line.content ++ back ∧
    span.start = line.start + byteLength front ∧
    span.stop = span.start + byteLength line.content
  /-- The span lies inside the line, and the line inside the file. -/
  inside : line.start ≤ span.start ∧ span.start ≤ span.stop ∧ span.stop ≤ line.stop ∧
    line.stop ≤ byteLength file.text.toList
  bytes : span.bytes = Utf8.encode (String.ofList line.content)

end WidgetBuilders
