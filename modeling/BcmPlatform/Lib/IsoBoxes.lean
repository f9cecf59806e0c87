import BcmPlatform.Lib.Bytes

/-! Boxes of the ISO base media file format as they are written: a size that counts the header, a type, and the payload. -/

namespace BcmPlatform.Lib

/-- A box; its size has 64 bits where it is wide. -/
structure RawBox where
  wide : Bool := false
  type : Nat
  payload : List UInt8
  deriving DecidableEq, Repr

namespace RawBox

def headerLength (b : RawBox) : Nat := if b.wide then 16 else 8

/-- The coded size. -/
def size (b : RawBox) : Nat := b.headerLength + b.payload.length

def header (b : RawBox) : List UInt8 :=
  if b.wide then beBytes 4 1 ++ (beBytes 4 b.type ++ beBytes 8 b.size) else beBytes 4 b.size ++ beBytes 4 b.type

def bytes (b : RawBox) : List UInt8 := b.header ++ b.payload

/-- The type and the size can be coded. -/
def Coded (b : RawBox) : Prop := b.type < 2 ^ 32 ∧ b.size < if b.wide then 2 ^ 64 else 2 ^ 32

instance (b : RawBox) : Decidable b.Coded := inferInstanceAs (Decidable (_ ∧ _))

theorem length_header (b : RawBox) : b.header.length = b.headerLength := by
  rw [header, headerLength]
  split_ifs <;> simp

theorem length_bytes (b : RawBox) : b.bytes.length = b.size := by rw [bytes, List.length_append, length_header, size]

theorem headerLength_le (b : RawBox) : b.headerLength ≤ b.size := Nat.le_add_right _ _

theorem eight_le_headerLength (b : RawBox) : 8 ≤ b.headerLength := by
  rw [headerLength]
  split_ifs <;> decide

end RawBox

/-- The bytes of boxes, one behind the other. -/
def boxesBytes (boxes : List RawBox) : List UInt8 := boxes.flatMap RawBox.bytes

theorem boxesBytes_cons (b : RawBox) (boxes : List RawBox) : boxesBytes (b :: boxes) = b.bytes ++ boxesBytes boxes := rfl

theorem boxesBytes_append (boxes boxes' : List RawBox) :
    boxesBytes (boxes ++ boxes') = boxesBytes boxes ++ boxesBytes boxes' := List.flatMap_append

theorem length_boxesBytes (boxes : List RawBox) : (boxesBytes boxes).length = (boxes.map RawBox.size).sum := by
  induction boxes with
  | nil => rfl
  | cons b boxes ih => rw [boxesBytes_cons, List.length_append, b.length_bytes, ih, List.map_cons, List.sum_cons]

end BcmPlatform.Lib
