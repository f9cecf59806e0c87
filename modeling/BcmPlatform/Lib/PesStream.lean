import Mathlib.Data.List.Basic
import BcmPlatform.Lib.Bytes

/-! Packetised elementary streams as a receiver reads them. A packet starts with the code `00 00 01`, a stream
    id and a 16-bit length that counts the bytes after it; these are two flag bytes, the length of the
    optional fields, the optional fields and the body. -/

namespace BcmPlatform.Lib

/-- A packet as read: the value of its length field, the bytes of its time stamp field if it has one, and the
    body. -/
structure PesPacket where
  streamId : UInt8
  length : Nat
  pts : Option (List UInt8)
  body : List UInt8
  deriving DecidableEq, Repr

/-- The time stamp field, from the flags and the optional fields: flags `10` announce a PTS of five bytes,
    flags `00` none. -/
def parsePts (flags : UInt8) (optionalFields : List UInt8) : Option (Option (List UInt8)) :=
  if flags / 64 = 2 then if optionalFields.length < 5 then none else some (some (optionalFields.take 5))
  else if flags / 64 = 0 then some none else none

/-- A time stamp field as read: its first four bits, the 33-bit time stamp, and the marker bits behind its three parts. -/
structure PtsField where
  start : Nat
  pts : Nat
  markers : List Nat
  deriving DecidableEq, Repr

/-- The five bytes of a time stamp field: `0010`, PTS[32..30], marker, PTS[29..15], marker, PTS[14..0], marker. -/
def readPtsField (bytes : List UInt8) : PtsField :=
  let v := beValue bytes
  { start := bitField 39 36 v
    pts := bitField 35 33 v * 2 ^ 30 + bitField 31 17 v * 2 ^ 15 + bitField 15 1 v
    markers := [bitField 32 32 v, bitField 16 16 v, bitField 0 0 v] }

/-- What follows the length field. -/
def parseContent (streamId : UInt8) (length : Nat) : List UInt8 → Option PesPacket
  | flags₁ :: flags₂ :: headerLength :: content =>
    if flags₁ / 64 ≠ 2 ∨ content.length < headerLength.toNat then none
    else (parsePts flags₂ (content.take headerLength.toNat)).map fun pts =>
      { streamId, length, pts, body := content.drop headerLength.toNat }
  | _ => none

/-- The first packet of a stream and what follows it. -/
def parsePacket : List UInt8 → Option (PesPacket × List UInt8)
  | a :: b :: c :: streamId :: hi :: lo :: rest =>
    let length := hi.toNat * 256 + lo.toNat
    if a ≠ 0 ∨ b ≠ 0 ∨ c ≠ 1 ∨ length = 0 ∨ rest.length < length then none
    else (parseContent streamId length (rest.take length)).map fun p => (p, rest.drop length)
  | _ => none

/-- At most `fuel` packets, which must take up the whole stream. -/
def parsePackets : Nat → List UInt8 → Option (List PesPacket)
  | 0, bytes => if bytes.isEmpty then some [] else none
  | fuel + 1, bytes =>
    if bytes.isEmpty then some []
    else (parsePacket bytes).bind fun r => (parsePackets fuel r.2).map (r.1 :: ·)

/-- The packets of a stream; `none` if it is not a sequence of packets. -/
def parsePes (bytes : List UInt8) : Option (List PesPacket) := parsePackets bytes.length bytes

theorem parsePacket_content (streamId : UInt8) {hi lo : UInt8} {content : List UInt8}
    (hlen : hi.toNat * 256 + lo.toNat = content.length) (hpos : 0 < content.length) (rest : List UInt8) :
    parsePacket (0 :: 0 :: 1 :: streamId :: hi :: lo :: (content ++ rest)) =
      (parseContent streamId content.length content).map fun p => (p, rest) := by
  have hne : content.length ≠ 0 := Nat.ne_of_gt hpos
  have hfit : ¬ (content ++ rest).length < content.length := by simp
  simp only [parsePacket, hlen, hne, hfit]
  simp

theorem parsePackets_flatMap {β : Type} (encode : β → List UInt8) (packet : β → PesPacket) :
    ∀ (l : List β) (fuel : Nat), l.length ≤ fuel →
      (∀ x ∈ l, encode x ≠ [] ∧ ∀ rest, parsePacket (encode x ++ rest) = some (packet x, rest)) →
      parsePackets fuel (l.flatMap encode) = some (l.map packet)
  | [], 0, _, _ => by simp [parsePackets]
  | [], _ + 1, _, _ => by simp [parsePackets]
  | x :: l, 0, h, _ => by simp at h
  | x :: l, fuel + 1, h, hp => by
    obtain ⟨hne, hx⟩ := hp x (by simp)
    have ih := parsePackets_flatMap encode packet l fuel (by simpa using h) fun y hy =>
      hp y (List.mem_cons_of_mem _ hy)
    have hempty : (encode x ++ l.flatMap encode).isEmpty = false := by simp [hne]
    simp only [List.flatMap_cons, parsePackets, hempty, hx, Option.bind_some, ih]
    simp

theorem length_le_length_flatMap {β : Type} {encode : β → List UInt8} :
    ∀ {l : List β}, (∀ x ∈ l, encode x ≠ []) → l.length ≤ (l.flatMap encode).length
  | [], _ => by simp
  | x :: l, h => by
    have ih : l.length ≤ (l.flatMap encode).length :=
      length_le_length_flatMap fun y hy => h y (List.mem_cons_of_mem _ hy)
    have hx : 0 < (encode x).length := List.length_pos_iff.mpr (h x (by simp))
    simp only [List.flatMap_cons, List.length_append, List.length_cons]
    omega

theorem parsePes_flatMap {β : Type} {encode : β → List UInt8} {packet : β → PesPacket} {l : List β}
    (h : ∀ x ∈ l, encode x ≠ [] ∧ ∀ rest, parsePacket (encode x ++ rest) = some (packet x, rest)) :
    parsePes (l.flatMap encode) = some (l.map packet) :=
  parsePackets_flatMap encode packet l _ (length_le_length_flatMap fun x hx => (h x hx).1) h

end BcmPlatform.Lib
