import BcmPlatform.Bomx.Omx
import BcmPlatform.Lib.Bytes
import BcmPlatform.Lib.Runs

/-! `piff_parser_seek_box`: the search of a file for the next box of a type. -/

namespace BcmPlatform.Piff
open Bomx Lib

/-- `PIFF_BOX_HEADER_SIZE` -/
def piffBoxHeaderSize : Nat := 8

/-- A file behind `bfile_io_read_t`: its bytes, the conversion to an `off_t`, and the position after a seek from a position by
    an offset. How wide an `off_t` is, and what a seek to a place outside of the file does, depends on the platform. -/
structure BoxFile where
  bytes : List UInt8
  toOff : Int → Int
  seekCur : Nat → Int → Nat
  toOff_eq : ∀ x : Int, 0 ≤ x → x ≤ bytes.length → toOff x = x
  seekCur_eq : ∀ (pos : Nat) (offset : Int), 0 ≤ pos + offset → pos + offset ≤ bytes.length →
    seekCur pos offset = pos + offset

/-- What the caller asks for: a box type, and a buffer of at least a header. -/
structure BoxRequest where
  boxType : Nat
  capacity : Nat
  boxType_ne_zero : boxType ≠ 0
  header_le_capacity : piffBoxHeaderSize ≤ capacity
  capacity_lt : capacity < u32

namespace BoxFile
variable (f : BoxFile)

/-- `read` at a position -/
def readAt (pos size : Nat) : List UInt8 := (f.bytes.drop pos).take size

/-- The type and the coded size of the box at a position, if its header lies in the file. -/
def header (pos : Nat) : Option (Nat × Nat) :=
  if (f.readAt pos piffBoxHeaderSize).length ≠ piffBoxHeaderSize then none
  else some (beValue ((f.readAt pos piffBoxHeaderSize).drop 4), beValue ((f.readAt pos piffBoxHeaderSize).take 4))

end BoxFile

/-- The position in the file, `last`, and what is written to `pBuf`. -/
structure SeekState where
  pos : Nat
  last : Int
  pBuf : List UInt8 := []
  deriving DecidableEq, Repr

/-- What the search returns, `*box_size`, and what is written to `pBuf`. -/
structure SeekResult where
  found : Bool
  boxSize : Nat
  pBuf : List UInt8
  deriving DecidableEq, Repr

/-- A write of bytes at a place of the buffer. -/
def overwrite (buf : List UInt8) (place : Nat) (bytes : List UInt8) : List UInt8 :=
  buf.take place ++ bytes ++ buf.drop (place + bytes.length)

theorem overwrite_nil_place (buf bytes : List UInt8) : overwrite buf 0 bytes = bytes ++ buf.drop bytes.length := by
  rw [overwrite, List.take_zero, List.nil_append, Nat.zero_add]

/-- One iteration of the search. -/
def seekStep (f : BoxFile) (boxType : Nat) (s : SeekState) : SeekState ⊕ SeekResult :=
  let read := f.readAt s.pos piffBoxHeaderSize
  let pBuf := overwrite s.pBuf 0 read
  match f.header s.pos with
  | none => .inr { found := false, boxSize := read.length, pBuf }
  | some (currBoxType, currBoxSize) =>
    let pos := s.pos + piffBoxHeaderSize
    -- `*box_size` takes the coded size before it is compared
    let boxSize := currBoxSize
    let sizeToRead := sub32 currBoxSize piffBoxHeaderSize
    if currBoxType ≠ boxType then
      let last := f.toOff (s.last - currBoxSize)
      if last = 0 then .inr { found := false, boxSize := piffBoxHeaderSize, pBuf }
      else .inl { pos := f.seekCur pos (f.toOff sizeToRead), last, pBuf }
    else if boxSize < currBoxSize then .inr { found := false, boxSize, pBuf }
    else
      let payload := f.readAt pos sizeToRead
      .inr {
        found := payload.length = sizeToRead
        boxSize := (piffBoxHeaderSize + payload.length) % u32
        pBuf := overwrite pBuf piffBoxHeaderSize payload }

/-- The search from a position, within a number of iterations. -/
def piffParserSeekBox (f : BoxFile) (boxType pos fuel : Nat) : Option SeekResult :=
  if f.bytes.length < piffBoxHeaderSize then some { found := false, boxSize := 0, pBuf := [] }
  else runLoop (seekStep f boxType) fuel { pos, last := f.bytes.length }

end BcmPlatform.Piff
