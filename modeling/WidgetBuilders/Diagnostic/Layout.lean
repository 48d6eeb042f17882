import WidgetBuilders.Diagnostic
import WidgetBuilders.Text.Joined

/-!
# Diagnostics as text

A message without a place is one line. A message with a place is followed by the place and by an
excerpt: the line of the file, and under it a caret for each character of the span.

    error: `1text` is not a valid property name
     --> helpers.txt:3:1
      |
    3 | a.B(1text: int)
      | ^^^^^^^^^^^^^^^

Line numbers of one group are as wide as its largest one. The line under the excerpt repeats the
tabs of the line above it, so that the carets stand where they belong at any width of tabs. An empty
line ends the group.
-/

namespace WidgetBuilders

/-- A span as a reader finds it: on one line, by characters. -/
structure Excerpt where
  file : String
  lineNumber : Nat
  /-- The number of characters before the span on its line. -/
  before : Nat
  /-- The number of characters of the span. -/
  width : Nat
  /-- The line without its line ending. -/
  line : List Char

namespace Excerpt

/-- The number of leading characters that fit into a number of bytes. -/
def charactersIn : (bytes : Nat) → List Char → Nat
  | _, [] => 0
  | bytes, c :: rest =>
    if c.utf8Size ≤ bytes then 1 + charactersIn (bytes - c.utf8Size) rest else 0

/-- The line without carriage returns and line feeds at its end. -/
def withoutEnding (line : List Char) : List Char :=
  (line.reverse.dropWhile fun c => c = '\r' || c = '\n').reverse

/-- The excerpt for a span. -/
def ofSpan (span : Span) : Excerpt :=
  let line := span.line?.getD { number := 1, start := 0, text := [] }
  let before := charactersIn (span.start - line.start) line.text
  { file := span.file.name
    lineNumber := line.number
    before
    width := charactersIn (span.stop - span.start) (line.text.drop before)
    line := withoutEnding line.text }

/-- Puts the tabs of one line where the other has spaces. -/
def copyTabs : (source target : List Char) → List Char
  | '\t' :: source, ' ' :: target => '\t' :: copyTabs source target
  | _ :: source, c :: target => c :: copyTabs source target
  | _, target => target

/-- The carets under the line. -/
def carets (excerpt : Excerpt) : List Char :=
  copyTabs excerpt.line
    (List.replicate excerpt.before ' ' ++ List.replicate excerpt.width '^')

/-- The rows under the message, with room for line numbers of `digits` digits. -/
def rows (digits : Nat) (excerpt : Excerpt) : String :=
  let number := toString excerpt.lineNumber
  let margin := Text.repeated digits " "
  margin ++ "--> " ++ excerpt.file ++ ":" ++ number ++ ":" ++ toString (excerpt.before + 1) ++ "\n"
    ++ margin ++ " |\n"
    ++ number ++ Text.repeated (digits - number.length) " " ++ " | "
    ++ String.ofList excerpt.line ++ "\n"
    ++ margin ++ " | " ++ String.ofList excerpt.carets ++ "\n"

end Excerpt

/-- The word that a diagnostic begins with. -/
def Severity.word : Severity → String
  | .error => "error"
  | .warning => "warning"

namespace Diagnostic

/-- The largest line number in a group; 1 if there is none. -/
def largestLine (group : Group) : Nat :=
  (group.filterMap (·.span)).foldl (fun most span => max most (Excerpt.ofSpan span).lineNumber) 1

/-- A diagnostic, with room for line numbers of `digits` digits. -/
def text (digits : Nat) (diagnostic : Diagnostic) : String :=
  diagnostic.severity.word ++ ": " ++ diagnostic.message ++ "\n"
    ++ match diagnostic.span with
      | none => ""
      | some span => (Excerpt.ofSpan span).rows digits

/-- A group, and the empty line after it. -/
def groupText (group : Group) : String :=
  let digits := (toString (largestLine group)).length
  Text.concat (group.map (text digits)) ++ "\n"

/-- All groups, in the order in which they were reported. -/
def groupsText (groups : List Group) : String :=
  Text.concat (groups.map groupText)

end Diagnostic

end WidgetBuilders
