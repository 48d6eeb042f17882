import WidgetBuilders.Text.Blank
import WidgetBuilders.Text.Parts

/-!
# Source files and places in them

A source file is a name and a text. Places are byte offsets into the UTF-8 form of the text, counted
from its start. A span never leaves the line that it was made for: it covers that line without the
blank characters at its two ends.
-/

namespace WidgetBuilders

/-- A text with the name that diagnostics give for it. -/
structure SourceFile where
  name : String
  text : String
  deriving DecidableEq

/-- The bytes from `start` up to `stop`, which is not included. -/
structure Span where
  file : SourceFile
  start : Nat
  stop : Nat
  deriving DecidableEq

/-- The number of bytes of a text in UTF-8. -/
def Text.byteLength : List Char → Nat
  | [] => 0
  | c :: rest => c.utf8Size + byteLength rest

/-- The bytes of two texts add up. -/
theorem Text.byteLength_append (front back : List Char) :
    byteLength (front ++ back) = byteLength front + byteLength back := by
  induction front with
  | nil => simp [byteLength]
  | cons c rest ih =>
    simp only [List.cons_append, byteLength, ih]
    omega

/-- A line of a file with its line feed, if it has one. -/
structure SourceLine where
  /-- The first line has number 1. -/
  number : Nat
  /-- The offset of its first byte. -/
  start : Nat
  text : List Char
  deriving DecidableEq

namespace SourceLine

/-- The offset after the last byte of the line. -/
def stop (line : SourceLine) : Nat :=
  line.start + Text.byteLength line.text

/-- The line without blank characters at its ends. -/
def content (line : SourceLine) : List Char :=
  Text.trimmed line.text

/-- The blank characters before the content. A blank line has them all here. -/
def margin (line : SourceLine) : List Char :=
  line.text.takeWhile Text.isBlank

/-- The place of the content. -/
def span (file : SourceFile) (line : SourceLine) : Span :=
  let start := line.start + Text.byteLength line.margin
  { file, start, stop := start + Text.byteLength line.content }

/-- Numbers lines and gives them their offsets. -/
def place (number start : Nat) : List (List Char) → List SourceLine
  | [] => []
  | text :: rest =>
    ⟨number, start, text⟩ :: place (number + 1) (start + Text.byteLength text) rest

end SourceLine

/-- The lines of the file, in order. -/
def SourceFile.lines (file : SourceFile) : List SourceLine :=
  SourceLine.place 1 0 (Text.lines file.text.toList)

/-- The line on which a span starts. -/
def Span.line? (span : Span) : Option SourceLine :=
  span.file.lines.find? fun line => line.start ≤ span.start && span.start < line.stop

end WidgetBuilders
