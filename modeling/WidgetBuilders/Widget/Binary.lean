import WidgetBuilders.Text.Utf8
import WidgetBuilders.Widget

/-!
# The binary form of a widget library

A number is eight bytes, the lowest first. A text is its number of bytes and then those bytes, in
UTF-8. A list is its number of elements and then the elements. A truth value is one byte, 0 or 1. A
record is its fields in a fixed order, with nothing between them.

A format is a writer together with a reader. The reader takes what the writer would have written off
the front of the input and leaves the rest, so the formats of records and lists are put together
from those of their parts. The first fault met from the left decides.
-/

namespace WidgetBuilders.Binary

/-- Why bytes are not the binary form of a value. -/
inductive Fault
  /-- The input ends where a number or a truth value is due. -/
  | endOfInput
  /-- The input ends inside a text. -/
  | endOfText
  /-- A truth value is neither 0 nor 1. -/
  | notBool (byte : UInt8)
  /-- The bytes of a text are not UTF-8. -/
  | notText (fault : Text.Utf8.Fault)
  deriving DecidableEq

/-- The fault in words. Those of the input itself are told as faults of reading. -/
def Fault.message : Fault → String
  | .endOfInput => "io error: unexpected end of file"
  | .endOfText => "io error: "
  | .notBool byte =>
    "invalid u8 while decoding bool, expected 0 or 1, found " ++ toString byte.toNat
  | .notText fault => "string is not valid utf8: " ++ fault.message

/-- A writer and the reader that undoes it. -/
structure Format (α : Type) where
  write : α → List UInt8
  read : List UInt8 → Except Fault (α × List UInt8)

/-- The lowest `width` bytes of a number, the lowest first. -/
def littleEndian : Nat → Nat → List UInt8
  | 0, _ => []
  | width + 1, number => UInt8.ofNat number :: littleEndian width (number / 256)

/-- The number with these bytes, the lowest first. -/
def ofLittleEndian : List UInt8 → Nat
  | [] => 0
  | byte :: rest => byte.toNat + 256 * ofLittleEndian rest

/-- A number takes the bytes that it is given, however small it is. -/
theorem length_littleEndian (width number : Nat) : (littleEndian width number).length = width := by
  induction width generalizing number with
  | zero => rfl
  | succ width ih => simp [littleEndian, ih]

/-- A number that fits into the bytes is read back from them. -/
theorem ofLittleEndian_littleEndian {width number : Nat} (fits : number < Nat.pow 256 width) :
    ofLittleEndian (littleEndian width number) = number := by
  induction width generalizing number with
  | zero =>
    have zero : number = 0 := Nat.lt_one_iff.mp fits
    subst zero
    rfl
  | succ width ih =>
    have rest : number / 256 < Nat.pow 256 width := by
      apply (Nat.div_lt_iff_lt_mul (by decide : 0 < 256)).mpr
      exact fits
    have low : (UInt8.ofNat number).toNat = number % 256 := UInt8.toNat_ofNat'
    rw [littleEndian, ofLittleEndian, ih rest, low]
    exact Nat.mod_add_div number 256

/-- Bytes are written again as they were read. -/
theorem littleEndian_ofLittleEndian (bytes : List UInt8) :
    littleEndian bytes.length (ofLittleEndian bytes) = bytes := by
  induction bytes with
  | nil => rfl
  | cons byte rest ih =>
    have bound := byte.toNat_lt
    have quotient : (byte.toNat + 256 * ofLittleEndian rest) / 256 = ofLittleEndian rest := by
      omega
    have low : UInt8.ofNat (byte.toNat + 256 * ofLittleEndian rest) = byte := by
      apply UInt8.toNat_inj.mp
      rw [UInt8.toNat_ofNat']
      omega
    rw [List.length_cons, ofLittleEndian, littleEndian, quotient, low, ih]

/-- The first `count` bytes and the rest; none if there are fewer. -/
def takeBytes : Nat → List UInt8 → Option (List UInt8 × List UInt8)
  | 0, bytes => some ([], bytes)
  | _ + 1, [] => none
  | count + 1, byte :: rest => (takeBytes count rest).map fun cut => (byte :: cut.1, cut.2)

/-- There are enough bytes exactly when they are the ones taken and then the rest. -/
theorem takeBytes_eq_some_iff {count : Nat} {bytes taken rest : List UInt8} :
    takeBytes count bytes = some (taken, rest) ↔ bytes = taken ++ rest ∧ taken.length = count := by
  induction count generalizing bytes taken with
  | zero => cases taken <;> simp [takeBytes, eq_comm]
  | succ count ih =>
    cases bytes with
    | nil => cases taken <;> simp [takeBytes]
    | cons byte bytes =>
      cases taken with
      | nil => simp [takeBytes]
      | cons head tail =>
        simp only [takeBytes, Option.map_eq_some_iff, Prod.exists, Prod.mk.injEq, List.cons.injEq,
          List.cons_append, List.length_cons, Nat.add_right_cancel_iff]
        constructor
        · rintro ⟨front, back, found, ⟨rfl, rfl⟩, rfl⟩
          exact ⟨⟨rfl, (ih.mp found).1⟩, (ih.mp found).2⟩
        · rintro ⟨⟨rfl, shape⟩, length⟩
          exact ⟨tail, rest, ih.mpr ⟨shape, length⟩, ⟨rfl, rfl⟩, rfl⟩

namespace Format

/-- A number below 2^64. -/
def size : Format Nat where
  write := littleEndian 8
  read bytes :=
    match takeBytes 8 bytes with
    | none => .error .endOfInput
    | some (number, rest) => .ok (ofLittleEndian number, rest)

/-- A truth value is one byte, 0 or 1. -/
def bool : Format Bool where
  write value := [if value then 1 else 0]
  read
    | [] => .error .endOfInput
    | byte :: rest =>
      if byte = 0 then .ok (false, rest)
      else if byte = 1 then .ok (true, rest)
      else .error (.notBool byte)

/-- Reads a text of a given number of bytes. -/
def readText (length : Nat) (bytes : List UInt8) : Except Fault (String × List UInt8) :=
  match takeBytes length bytes with
  | none => .error .endOfText
  | some (taken, rest) =>
    match Text.Utf8.decode taken with
    | .ok text => .ok (text, rest)
    | .error fault => .error (.notText fault)

/-- A text is the number of its bytes and then these. -/
def text : Format String where
  write value := size.write (Text.Utf8.encode value).length ++ Text.Utf8.encode value
  read bytes := do
    let (length, rest) ← size.read bytes
    readText length rest

/-- Reads a given number of elements one after another. -/
def readMany {α : Type} (element : Format α) :
    Nat → List UInt8 → Except Fault (List α × List UInt8)
  | 0, bytes => .ok ([], bytes)
  | count + 1, bytes => do
    let (head, bytes) ← element.read bytes
    let (tail, bytes) ← readMany element count bytes
    return (head :: tail, bytes)

/-- A list of values in one format. -/
def list {α : Type} (element : Format α) : Format (List α) where
  write values := size.write values.length ++ values.flatMap element.write
  read bytes := do
    let (count, rest) ← size.read bytes
    readMany element count rest

/-- Two values, one after the other. -/
def pair {α β : Type} (first : Format α) (second : Format β) : Format (α × β) where
  write value := first.write value.1 ++ second.write value.2
  read bytes := do
    let (one, bytes) ← first.read bytes
    let (two, bytes) ← second.read bytes
    return ((one, two), bytes)

/-- A format for values that stand one to one for those of another format. -/
def via {α β : Type} (parts : β → α) (whole : α → β) (format : Format α) : Format β where
  write value := format.write (parts value)
  read bytes := do
    let (value, bytes) ← format.read bytes
    return (whole value, bytes)

/-- A method is its name and its parameters. -/
def method : Format Method :=
  via (fun m => (m.name, m.parameters)) (fun (name, parameters) => ⟨name, parameters⟩)
    (pair text (list text))

/-- A class is its fields in the order of their declaration. -/
def widgetClass : Format WidgetClass :=
  via
    (fun c => (c.qualifiedName, c.simpleName, c.isAbstract, c.constructors, c.methods))
    (fun (qualifiedName, simpleName, isAbstract, constructors, methods) =>
      ⟨qualifiedName, simpleName, isAbstract, constructors, methods⟩)
    (pair text (pair text (pair bool (pair (list (list text)) (list method)))))

/-- A widget is its class and whether it is a container. -/
def widget : Format Widget :=
  via (fun w => (w.toWidgetClass, w.isContainer)) (fun (c, isContainer) => { c with isContainer })
    (pair widgetClass bool)

/-- A library is its views and then its view groups. -/
def library : Format Library :=
  via (fun l => (l.views, l.viewGroups)) (fun (views, viewGroups) => ⟨views, viewGroups⟩)
    (pair (list widget) (list widget))

end Format

end WidgetBuilders.Binary

namespace WidgetBuilders.Library

/-- The binary form of a library. -/
def toBytes (library : Library) : List UInt8 :=
  Binary.Format.library.write library

/-- The library at the front of the bytes; what follows it does not matter. -/
def ofBytes (bytes : List UInt8) : Except Binary.Fault Library :=
  (Binary.Format.library.read bytes).map Prod.fst

end WidgetBuilders.Library
