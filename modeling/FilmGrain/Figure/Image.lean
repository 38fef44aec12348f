/-
**Images of figures.**

A figure is drawn as a grey image: the frame of the axes and the line through the points of the
curve, from the first point to the last.  The image is encoded in the portable network format
without compression: a signature and chunks, each with its length and a check sum over its type and
its bytes, around one stream of stored blocks.

Main definitions:

* `FilmGrain.GreyImage` — images as functions of column and row;
* `Figure.draw` — the image of a figure;
* `GreyImage.encode` — **the bytes of an image**.

Main results:

* `GreyImage.row_size` — a row of an image has one byte for each column, and one for its filter.
-/

import FilmGrain.Figure.Basic

set_option autoImplicit false

namespace FilmGrain

/-- A grey image; zero is black. -/
structure GreyImage where
  /-- The number of columns. -/
  width : Nat
  /-- The number of rows. -/
  height : Nat
  /-- The shade at a column and a row, counted from the upper left corner. -/
  shade : Nat → Nat → UInt8

/-! ### Drawing -/

namespace Figure

/-- The number of rows above the lower axis. -/
def drawnRows : Nat := 255

/-- The number of columns for one step of the encoded value. -/
def drawnColumns : Nat := 3

/-- The height of a line through points above the lower axis, where the line is drawn. -/
def heightAt : List (Nat × Nat) → Nat → Option Nat
  | (x, y) :: (x', y') :: rest, column =>
      if column < x then none
      else if column ≤ x' then some ((y * (x' - column) + y' * (column - x)) / (x' - x))
      else heightAt ((x', y') :: rest) column
  | [(x, y)], column => if column = x then some y else none
  | [], _ => none

/-- Whether a line meets a pixel: its height there or the one in the next column is on the other
side, or at the pixel itself. -/
def meets (line : Nat → Option Nat) (column level : Nat) : Bool :=
  match line column with
  | none => false
  | some here =>
      let next := (line (column + 1)).getD here
      decide (min here next ≤ level ∧ level ≤ max here next)

/-- **The image of a figure.** -/
def draw (figure : Figure) : GreyImage :=
  let top := Nat.max 8 (figure.points.foldl (fun n p => Nat.max n p.2) 0 + 1)
  let line := heightAt (figure.points.map fun p => (drawnColumns * p.1, p.2 * drawnRows / top))
  let right := drawnColumns * 255
  { width := right + 1
    height := drawnRows + 1
    shade := fun column row =>
      let onFrame := column == 0 || column == right || row == 0 || row == drawnRows
      if meets line column (drawnRows - row) then 0 else if onFrame then 128 else 255 }

end Figure

/-! ### Encoding -/

namespace GreyImage

/-- A number in four bytes, the most significant first. -/
def bigEndian (n : UInt32) : List UInt8 :=
  [(n >>> 24).toUInt8, (n >>> 16).toUInt8, (n >>> 8).toUInt8, n.toUInt8]

/-- A remainder after one more bit. -/
def shiftRemainder (remainder : UInt32) : UInt32 :=
  if remainder &&& 1 = 1 then (remainder >>> 1) ^^^ 0xEDB88320 else remainder >>> 1

/-- A remainder after one more byte. -/
def addByte (remainder : UInt32) (byte : UInt8) : UInt32 :=
  (List.range 8).foldl (fun r _ => shiftRemainder r) (remainder ^^^ byte.toUInt32)

/-- The check sum of a chunk. -/
def cyclicSum (bytes : List UInt8) : UInt32 := bytes.foldl addByte 0xFFFFFFFF ^^^ 0xFFFFFFFF

/-- The check sum of a stream: the sum of the bytes and the sum of those sums. -/
def streamSum (bytes : List UInt8) : UInt32 :=
  let (low, high) := bytes.foldl
    (fun (sums : Nat × Nat) byte =>
      let low := (sums.1 + byte.toNat) % 65521
      (low, (sums.2 + low) % 65521))
    (1, 0)
  UInt32.ofNat (high * 65536 + low)

/-- A chunk of a given type. -/
def chunk (type : String) (bytes : List UInt8) : List UInt8 :=
  let body := type.toUTF8.toList ++ bytes
  bigEndian (UInt32.ofNat bytes.length) ++ body ++ bigEndian (cyclicSum body)

/-- A number in two bytes, the least significant first. -/
def littleEndian (n : Nat) : List UInt8 := [UInt8.ofNat n, UInt8.ofNat (n / 256)]

/-- A stored block. -/
def storedBlock (last : Bool) (bytes : List UInt8) : List UInt8 :=
  (if last then 1 else 0) :: littleEndian bytes.length ++ littleEndian (65535 - bytes.length)
    ++ bytes

/-- The bytes of a row: the filter that changes nothing, and the shades. -/
def row (image : GreyImage) (index : Nat) : List UInt8 :=
  0 :: (List.range image.width).map fun column => image.shade column index

/-- A row has one byte for each column, and one for its filter. -/
theorem row_size (image : GreyImage) (index : Nat) :
    (image.row index).length = image.width + 1 := by
  simp [row]

/-- The stream of the rows, one block for each. -/
def stream (image : GreyImage) : List UInt8 :=
  let rows := (List.range image.height).map image.row
  let blocks := (List.range image.height).flatMap fun index =>
    storedBlock (index + 1 == image.height) (image.row index)
  [0x78, 0x01] ++ blocks ++ bigEndian (streamSum rows.flatten)

/-- The signature of the format. -/
def signature : List UInt8 := [0x89, 0x50, 0x4E, 0x47, 0x0D, 0x0A, 0x1A, 0x0A]

/-- The sizes of the image, the depth of its shades, and the fields for what is not used. -/
def header (image : GreyImage) : List UInt8 :=
  bigEndian (UInt32.ofNat image.width) ++ bigEndian (UInt32.ofNat image.height) ++ [8, 0, 0, 0, 0]

/-- **The bytes of an image.** -/
def encode (image : GreyImage) : ByteArray :=
  ByteArray.mk (signature ++ chunk "IHDR" image.header ++ chunk "IDAT" image.stream
    ++ chunk "IEND" []).toArray

end GreyImage

end FilmGrain
