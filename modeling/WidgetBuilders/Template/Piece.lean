import WidgetBuilders.Source
import WidgetBuilders.Text.Joined

/-!
# Placeholders in a template

A template is text with placeholders: a key between two opening and two closing braces. It is
scanned once, from the left. Outside a placeholder, the first two opening braces in a row begin one;
inside, the first two closing braces in a row end it. Blank characters around the key do not count.
A brace by itself is text.
-/

namespace WidgetBuilders.Template

/-- What a template is written from. -/
inductive Piece
  | literal (text : String)
  /-- A placeholder, with all that stands between its braces. -/
  | placeholder (raw : String)
  deriving DecidableEq

/-- A piece as it stands in a template: a literal as it is, a placeholder within double braces. -/
def Piece.written : Piece → String
  | .literal text => text
  | .placeholder raw => "\x7b\x7b" ++ raw ++ "\x7d\x7d"

/-- The text of a template made of these pieces. -/
def written (pieces : List Piece) : String :=
  Text.concat (pieces.map Piece.written)

/-- What a scan finds. -/
inductive Segment
  | literal (text : String)
  /-- A placeholder for the value of `key`. -/
  | value (key : String)
  /-- The end of a template, inside the placeholder that begins at byte `offset`. -/
  | unclosed (offset : Nat)
  deriving DecidableEq

/-- Where a scan stands. The characters of the part that is being read are kept, last one first. -/
inductive Reading
  | literal (read : List Char)
  /-- In a placeholder that began at byte `opened`. -/
  | key (opened : Nat) (read : List Char)

/-- Scans the rest of a template, which starts at byte `offset`. -/
def scanFrom (offset : Nat) : Reading → List Char → List Segment
  | .literal read, [] => [.literal (String.ofList read.reverse)]
  | .literal read, '\x7b' :: '\x7b' :: rest =>
    .literal (String.ofList read.reverse) :: scanFrom (offset + 2) (.key offset []) rest
  | .literal read, c :: rest => scanFrom (offset + c.utf8Size) (.literal (c :: read)) rest
  | .key opened _, [] => [.unclosed opened]
  | .key _ read, '\x7d' :: '\x7d' :: rest =>
    .value (String.ofList (Text.trimmed read.reverse))
      :: scanFrom (offset + 2) (.literal []) rest
  | .key opened read, c :: rest => scanFrom (offset + c.utf8Size) (.key opened (c :: read)) rest

/-- The segments of a template. -/
def segments (text : String) : List Segment :=
  scanFrom 0 (.literal []) text.toList

end WidgetBuilders.Template
