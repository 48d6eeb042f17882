/-!
# Blank characters

Text is trimmed of the characters with the Unicode property `White_Space`, at both ends. Among them
are the line and paragraph separators and the no-break spaces; zero-width characters are not.
-/

namespace WidgetBuilders.Text

/-- The Unicode property `White_Space`. -/
def isBlank (c : Char) : Bool :=
  let code := c.toNat
  code = 0x20 || (0x09 ≤ code && code ≤ 0x0D) || code = 0x85 || code = 0xA0 || code = 0x1680
    || (0x2000 ≤ code && code ≤ 0x200A) || code = 0x2028 || code = 0x2029 || code = 0x202F
    || code = 0x205F || code = 0x3000

/-- Drops blank characters from the front. -/
def trimFront (text : List Char) : List Char :=
  text.dropWhile isBlank

/-- Drops blank characters from the back. -/
def trimBack (text : List Char) : List Char :=
  (text.reverse.dropWhile isBlank).reverse

/-- Drops blank characters from both ends. A blank text becomes empty. -/
def trimmed (text : List Char) : List Char :=
  trimBack (trimFront text)

/-- Drops blank characters from both ends. -/
def trim (text : String) : String :=
  String.ofList (trimmed text.toList)

end WidgetBuilders.Text
