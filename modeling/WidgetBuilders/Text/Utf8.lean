/-!
# Text as bytes

UTF-8 bytes are read strictly: surrogates, overlong forms and code points above the last are no
text. Bytes that are no text are explained by the place of the first sequence that is ill formed,
and by how many of its bytes could not be continued. A sequence that the end of the input cuts
short, and that could have gone on, is incomplete instead.
-/

namespace WidgetBuilders.Text.Utf8

/-- Why bytes are not text. -/
inductive Fault
  /-- At `index` stand `length` bytes that no character begins with. -/
  | invalid (index length : Nat)
  /-- The input ends inside the character at `index`. -/
  | incomplete (index : Nat)
  deriving DecidableEq

/-- The fault in words. -/
def Fault.message : Fault → String
  | .invalid index length =>
    "invalid utf-8 sequence of " ++ toString length ++ " bytes from index " ++ toString index
  | .incomplete index => "incomplete utf-8 byte sequence from index " ++ toString index

/-- What stands at the front of some bytes. -/
inductive Front
  /-- A character of `length` bytes. -/
  | character (length : Nat)
  /-- `length` bytes, at least one, that no character begins with. -/
  | invalid (length : Nat)
  /-- Nothing, or a character cut short by the end. -/
  | incomplete
  deriving DecidableEq

/-- The byte may follow the first one of a character. -/
def isContinuation (byte : UInt8) : Bool :=
  0x80 ≤ byte && byte ≤ 0xBF

/-- Reads the `missing` last bytes of a character of which `seen` bytes were read. -/
def continuations (seen missing : Nat) (bytes : List UInt8) : Front :=
  match missing, bytes with
  | 0, _ => .character seen
  | _ + 1, [] => .incomplete
  | missing + 1, byte :: rest =>
    if isContinuation byte then continuations (seen + 1) missing rest else .invalid seen

/-- Reads a second byte between `low` and `high` and then the `missing` last bytes. -/
def secondByte (low high : UInt8) (missing : Nat) : List UInt8 → Front
  | [] => .incomplete
  | byte :: rest =>
    if low ≤ byte && byte ≤ high then continuations 2 missing rest else .invalid 1

/-- The front of some bytes. The range of the second byte keeps out overlong forms, surrogates and
numbers above the last code point. -/
def front : List UInt8 → Front
  | [] => .incomplete
  | first :: rest =>
    if first < 0x80 then .character 1
    else if 0xC2 ≤ first && first ≤ 0xDF then secondByte 0x80 0xBF 0 rest
    else if first = 0xE0 then secondByte 0xA0 0xBF 1 rest
    else if first = 0xED then secondByte 0x80 0x9F 1 rest
    else if 0xE1 ≤ first && first ≤ 0xEF then secondByte 0x80 0xBF 1 rest
    else if first = 0xF0 then secondByte 0x90 0xBF 2 rest
    else if 0xF1 ≤ first && first ≤ 0xF3 then secondByte 0x80 0xBF 2 rest
    else if first = 0xF4 then secondByte 0x80 0x8F 2 rest
    else .invalid 1

/-- The first fault of bytes that start at `index` of a longer input. The fuel is at least their
number; bytes without a fault are taken to be incomplete at their end. -/
def faultFrom : Nat → Nat → List UInt8 → Fault
  | 0, index, _ => .incomplete index
  | fuel + 1, index, bytes =>
    match front bytes with
    | .character length => faultFrom fuel (index + length) (bytes.drop length)
    | .invalid length => .invalid index length
    | .incomplete => .incomplete index

/-- The UTF-8 form of a text. -/
def encode (text : String) : List UInt8 :=
  text.toByteArray.data.toList

/-- The text that has these bytes as its UTF-8 form, or the first fault. -/
def decode (bytes : List UInt8) : Except Fault String :=
  match String.fromUTF8? ⟨bytes.toArray⟩ with
  | some text => .ok text
  | none => .error (faultFrom bytes.length 0 bytes)

/-- The UTF-8 form of the replacement character. -/
def replacement : List UInt8 := [0xEF, 0xBF, 0xBD]

/-- The bytes with each ill-formed sequence replaced. The fuel is at least their number. -/
def repairFrom : Nat → List UInt8 → List UInt8
  | 0, _ => []
  | fuel + 1, bytes =>
    match bytes, front bytes with
    | [], _ => []
    | _ :: _, .character length => bytes.take length ++ repairFrom fuel (bytes.drop length)
    | _ :: _, .invalid length => replacement ++ repairFrom fuel (bytes.drop length)
    | _ :: _, .incomplete => replacement

/-- The text of the bytes, with a replacement character for each ill-formed sequence. -/
def decodeLossy (bytes : List UInt8) : String :=
  match decode bytes with
  | .ok text => text
  | .error _ => (String.fromUTF8? ⟨(repairFrom bytes.length bytes).toArray⟩).getD ""

/-- A text is read back from its bytes. -/
theorem decode_encode (text : String) : decode (encode text) = .ok text := by
  have bytes : (⟨(encode text).toArray⟩ : ByteArray) = text.toByteArray := by
    simp [encode]
  have valid : text.toByteArray.IsValidUTF8 := text.isValidUTF8
  simp [decode, bytes, String.fromUTF8?, valid, String.fromUTF8]

/-- Only its own bytes are read as a text. -/
theorem eq_encode_of_decode {bytes : List UInt8} {text : String}
    (read : decode bytes = .ok text) : bytes = encode text := by
  unfold decode String.fromUTF8? at read
  split at read
  · next same =>
    split at same
    · cases same
      cases read
      simp [encode, String.fromUTF8]
    · cases same
  · cases read

end WidgetBuilders.Text.Utf8
