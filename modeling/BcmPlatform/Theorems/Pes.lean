import BcmPlatform.Lib.Segments
import BcmPlatform.Lib.PesStream
import BcmPlatform.Bomx.Pes

/-! Frame packetisation: what one packet puts into the header buffer and the descriptor list, what the loop
    over the residual data adds, and from both that the descriptors spell out the frame as a PES stream. -/

namespace BcmPlatform.Bomx
open Lib

/-! ### One packet -/

/-- The bytes of the packet that carries `body`. -/
def pesBytes (streamId : UInt8) (pts : Option Nat) (body : List UInt8) : List UInt8 :=
  pesHeader streamId pts (pesHeaderLength pts - pesHeaderStartBytes + body.length) ++ body

/-- The packet a receiver reads from `pesBytes`. -/
def pesPacket (streamId : UInt8) (pts : Option Nat) (body : List UInt8) : PesPacket :=
  { streamId, length := pesHeaderLength pts - pesHeaderStartBytes + body.length, pts := pts.map ptsField, body }

@[simp] theorem length_ptsField (pts : Nat) : (ptsField pts).length = 5 := rfl

@[simp] theorem length_pesHeader (streamId : UInt8) (pts : Option Nat) (len : Nat) :
    (pesHeader streamId pts len).length = pesHeaderLength pts := by
  cases pts <;> simp [pesHeader, pesHeaderLength]

theorem pesHeaderLength_cases (pts : Option Nat) : pesHeaderLength pts = 9 ∨ pesHeaderLength pts = 14 := by
  cases pts <;> simp [pesHeaderLength]

theorem pesBytes_ne_nil (streamId : UInt8) (pts : Option Nat) (body : List UInt8) :
    pesBytes streamId pts body ≠ [] := by
  simp [pesBytes, pesHeader]

theorem length_field_value {len : Nat} (h : len < 65536) :
    (UInt8.ofNat (len / 256)).toNat * 256 + (UInt8.ofNat (len % 256)).toNat = len := by
  rw [UInt8.toNat_ofNat_of_lt' (show len / 256 < 256 by omega), UInt8.toNat_ofNat_of_lt' (show len % 256 < 256 by omega)]
  omega

/-- The part of the header that the length field counts. -/
def pesHeaderTail (pts : Option Nat) : List UInt8 :=
  0x81 :: match pts with
    | some pts => [0x80, 0x05] ++ ptsField pts
    | none => [0x00, 0x00]

theorem pesHeader_eq (streamId : UInt8) (pts : Option Nat) (len : Nat) :
    pesHeader streamId pts len =
      [0x00, 0x00, 0x01, streamId] ++ [UInt8.ofNat (len / 256), UInt8.ofNat (len % 256)] ++ pesHeaderTail pts := by
  cases pts <;> rfl

theorem length_pesHeaderTail (pts : Option Nat) :
    (pesHeaderTail pts).length = pesHeaderLength pts - pesHeaderStartBytes := by
  cases pts <;> rfl

theorem parseContent_pesHeaderTail (streamId : UInt8) (len : Nat) (pts : Option Nat) (body : List UInt8) :
    parseContent streamId len (pesHeaderTail pts ++ body) =
      some { streamId, length := len, pts := pts.map ptsField, body } := by
  cases pts with
  | none =>
    have hflags : ((0x81 : UInt8) / 64 = 2) ∧ ((0x00 : UInt8) / 64 ≠ 2) ∧ ((0x00 : UInt8) / 64 = 0) := by decide
    simp [pesHeaderTail, parseContent, parsePts, hflags]
  | some pts =>
    have hflags : ((0x81 : UInt8) / 64 = 2) ∧ ((0x80 : UInt8) / 64 = 2) := by decide
    have htake : (ptsField pts ++ body).take 5 = ptsField pts := List.take_left' (length_ptsField pts)
    have hdrop : (ptsField pts ++ body).drop 5 = body := List.drop_left' (length_ptsField pts)
    have hall : (ptsField pts).take 5 = ptsField pts := List.take_of_length_le (Nat.le_of_eq (length_ptsField pts))
    simp [pesHeaderTail, parseContent, parsePts, hflags, htake, hdrop, hall]

theorem parsePacket_pesBytes {streamId : UInt8} {pts : Option Nat} {body : List UInt8}
    (h : pesHeaderLength pts - pesHeaderStartBytes + body.length ≤ maxPesPacketLength) (rest : List UInt8) :
    parsePacket (pesBytes streamId pts body ++ rest) = some (pesPacket streamId pts body, rest) := by
  have hlen : (pesHeaderTail pts ++ body).length = pesHeaderLength pts - pesHeaderStartBytes + body.length := by
    rw [List.length_append, length_pesHeaderTail]
  have hpos : 0 < (pesHeaderTail pts ++ body).length := by simp [pesHeaderTail]
  have hv := length_field_value (Nat.lt_succ_of_le h)
  rw [← hlen] at hv
  have hp := parsePacket_content streamId hv hpos rest
  rw [parseContent_pesHeaderTail, Option.map_some, hlen] at hp
  rw [pesBytes, pesHeader_eq]
  simpa [pesPacket] using hp

/-! ### The header buffer -/

theorem read_setPayloadLength {m : Memory UInt8} {streamId : UInt8} (pts : Option Nat) {off len len' : Nat}
    (hlen : len ≤ maxPesPacketLength) (h : m.read off (pesHeaderLength pts) = pesHeader streamId pts len') :
    (setPayloadLength m off len).read off (pesHeaderLength pts) = pesHeader streamId pts len := by
  have hmod : len % 65536 = len := Nat.mod_eq_of_lt (Nat.lt_succ_of_le hlen)
  have hsize : pesHeaderLength pts = 4 + 2 + (pesHeaderTail pts).length := by
    rw [length_pesHeaderTail]
    rcases pesHeaderLength_cases pts with h | h <;> simp [h]
  rw [pesHeader_eq, hsize] at h
  rw [pesHeader_eq, hsize, setPayloadLength, hmod]
  exact Memory.read_write_middle (a := [0x00, 0x00, 0x01, streamId])
    (b := [UInt8.ofNat (len' / 256), UInt8.ofNat (len' % 256)]) rfl h

theorem setPayloadLength_frame (m : Memory UInt8) (off len : Nat) {off' n : Nat}
    (h : off' + n ≤ off ∨ off + pesHeaderStartBytes ≤ off') :
    (setPayloadLength m off len).read off' n = m.read off' n := by
  rcases h with h | h
  · exact Memory.read_write_below _ _ (by omega)
  · exact Memory.read_write_above _ _ (by simpa using h)

theorem payloadPiece_eq_min (room left : Nat) : payloadPiece room left = min room left := by
  unfold payloadPiece
  split <;> omega

/-! ### The residual data -/

/-- The payload bytes of a packet without a time stamp. -/
@[simp] def residualRoom : Nat := maxPesPacketLength - (pesHeaderLengthWithoutPts - pesHeaderStartBytes)

/-- The descriptors of one further packet. -/
def packetDescriptors (c : PesCursor) : List Descriptor :=
  [{ region := .header, addr := c.headerLen, length := 9 },
   { region := .payload, addr := c.pPayload, length := min residualRoom c.bufferBytesRemaining }]

/-- The cursor after one further packet. -/
def packetCursor (streamId : UInt8) (c : PesCursor) : PesCursor :=
  let piece := min residualRoom c.bufferBytesRemaining
  { header := setPayloadLength (c.header.write c.headerLen (pesHeader streamId none 0)) c.headerLen (3 + piece)
    headerLen := c.headerLen + 9
    descriptors := c.descriptors ++ packetDescriptors c
    pPayload := c.pPayload + piece
    bufferBytesRemaining := c.bufferBytesRemaining - piece }

theorem nextPacket_eq (streamId : UInt8) (maxHeaderLen maxDescriptors : Nat) (c : PesCursor) :
    nextPacket streamId maxHeaderLen maxDescriptors c =
      if maxDescriptors - c.descriptors.length < 2 ∨ sub32 maxHeaderLen c.headerLen < 9 then .error .badParameter
      else .ok (packetCursor streamId c) := by
  by_cases hd : maxDescriptors - c.descriptors.length < 2
  · simp [nextPacket, hd]
  · by_cases hh : sub32 maxHeaderLen c.headerLen < 9
    · simp [nextPacket, hd, hh, initHeader, pesHeaderLength]
    · have hpiece : 65535 - (65532 - min 65532 c.bufferBytesRemaining) = 3 + min 65532 c.bufferBytesRemaining := by
        omega
      simp [nextPacket, hd, hh, initHeader, pesHeaderLength, payloadPiece_eq_min, packetCursor, packetDescriptors, hpiece]

theorem residualPackets_done {streamId : UInt8} {maxHeaderLen maxDescriptors fuel : Nat} {c : PesCursor}
    (h : c.bufferBytesRemaining = 0) :
    residualPackets streamId maxHeaderLen maxDescriptors fuel c = (c, .none) := by
  cases fuel <;> simp [residualPackets, h]

theorem residualPackets_step {streamId : UInt8} {maxHeaderLen maxDescriptors fuel : Nat} {c : PesCursor}
    (h : c.bufferBytesRemaining ≠ 0) :
    residualPackets streamId maxHeaderLen maxDescriptors (fuel + 1) c =
      if maxDescriptors - c.descriptors.length < 2 ∨ sub32 maxHeaderLen c.headerLen < 9 then (c, .badParameter)
      else residualPackets streamId maxHeaderLen maxDescriptors fuel (packetCursor streamId c) := by
  rw [residualPackets, if_neg h, nextPacket_eq]
  by_cases hroom : maxDescriptors - c.descriptors.length < 2 ∨ sub32 maxHeaderLen c.headerLen < 9
  · simp only [if_pos hroom]
  · simp only [if_neg hroom]

/-- What the loop keeps of the cursor it started from, and what its new descriptors `ds` address. -/
structure Appended (streamId : UInt8) (config payload : List UInt8) (bodies : List (List UInt8)) (c c' : PesCursor)
    (ds : List Descriptor) : Prop where
  descriptors : c'.descriptors = c.descriptors ++ ds
  headerLen : c.headerLen ≤ c'.headerLen
  frame : ∀ off n, off + n ≤ c.headerLen → c'.header.read off n = c.header.read off n
  bytes : descriptorBytes c'.header config payload ds = bodies.flatMap (pesBytes streamId none)

theorem descriptorBytes_append (m : Memory UInt8) (config payload : List UInt8) (ds ds' : List Descriptor) :
    descriptorBytes m config payload (ds ++ ds') =
      descriptorBytes m config payload ds ++ descriptorBytes m config payload ds' :=
  List.flatMap_append

theorem packetCursor_bytes {streamId : UInt8} {config payload : List UInt8} {c : PesCursor} {m : Memory UInt8}
    (hm : m.read c.headerLen 9 = (packetCursor streamId c).header.read c.headerLen 9)
    (hlen : payload.length = c.pPayload + c.bufferBytesRemaining) :
    descriptorBytes m config payload (packetDescriptors c) =
      pesBytes streamId none ((payload.drop c.pPayload).take residualRoom) := by
  have hpiece : ((payload.drop c.pPayload).take residualRoom).length = min residualRoom c.bufferBytesRemaining := by
    rw [List.length_take, List.length_drop, hlen, Nat.add_sub_cancel_left]
  have hsame : (payload.drop c.pPayload).take (min residualRoom c.bufferBytesRemaining) =
      (payload.drop c.pPayload).take residualRoom := by
    rw [List.take_eq_take_iff, List.length_drop, hlen]
    omega
  have hread : m.read c.headerLen 9 = pesHeader streamId none (3 + min residualRoom c.bufferBytesRemaining) := by
    rw [hm]
    refine read_setPayloadLength none ?_ (Memory.read_write_same _ _ (pesHeader streamId none 0))
    simp only [residualRoom, maxPesPacketLength, pesHeaderLengthWithoutPts, pesHeaderStartBytes]
    omega
  simp only [descriptorBytes, packetDescriptors, List.flatMap_cons, List.flatMap_nil, Descriptor.bytes,
    List.append_nil, hread, hsame]
  rw [pesBytes, hpiece]
  rfl

theorem packetCursor_frame {streamId : UInt8} {c : PesCursor} {off n : Nat} (h : off + n ≤ c.headerLen) :
    (packetCursor streamId c).header.read off n = c.header.read off n := by
  simp only [packetCursor]
  rw [setPayloadLength_frame _ _ _ (.inl h), Memory.read_write_below _ _ h]

theorem packetCursor_lt {streamId : UInt8} {c : PesCursor} (h : c.bufferBytesRemaining ≠ 0) :
    (packetCursor streamId c).bufferBytesRemaining < c.bufferBytesRemaining := by
  have hroom : 0 < residualRoom := by decide
  have hpos := Nat.pos_of_ne_zero h
  exact Nat.sub_lt hpos (Nat.lt_min.mpr ⟨hroom, hpos⟩)

theorem residualPackets_bytes {streamId : UInt8} {maxHeaderLen maxDescriptors : Nat} (config payload : List UInt8) :
    ∀ (fuel : Nat) (c c' : PesCursor), c.bufferBytesRemaining ≤ fuel →
      payload.length = c.pPayload + c.bufferBytesRemaining →
      residualPackets streamId maxHeaderLen maxDescriptors fuel c = (c', .none) →
      ∃ ds, Appended streamId config payload (chunks residualRoom fuel (payload.drop c.pPayload)) c c' ds := by
  intro fuel
  induction fuel with
  | zero =>
    intro c c' _ _ h
    obtain rfl : c = c' := by simpa [residualPackets] using h
    exact ⟨[], by simp, Nat.le_refl _, fun _ _ _ => rfl, by simp [descriptorBytes, chunks]⟩
  | succ fuel ih =>
    intro c c' hfuel hlen h
    have hdrop : (payload.drop c.pPayload).length = c.bufferBytesRemaining := by
      rw [List.length_drop, hlen, Nat.add_sub_cancel_left]
    by_cases h0 : c.bufferBytesRemaining = 0
    · rw [residualPackets_done h0] at h
      obtain rfl : c = c' := by simpa using h
      have hnil : payload.drop c.pPayload = [] := List.length_eq_zero_iff.mp (hdrop.trans h0)
      exact ⟨[], by simp, Nat.le_refl _, fun _ _ _ => rfl, by simp [descriptorBytes, chunks, hnil]⟩
    · rw [residualPackets_step h0] at h
      split at h
      · cases h
      · have hleft : (packetCursor streamId c).bufferBytesRemaining ≤ fuel :=
          Nat.le_of_lt_succ (Nat.lt_of_lt_of_le (packetCursor_lt h0) hfuel)
        have hlen' : payload.length =
            (packetCursor streamId c).pPayload + (packetCursor streamId c).bufferBytesRemaining := by
          rw [packetCursor, Nat.add_assoc, Nat.add_sub_cancel' (Nat.min_le_right _ _)]
          exact hlen
        obtain ⟨ds, happ⟩ := ih (packetCursor streamId c) c' hleft hlen' h
        have hrest : payload.drop (packetCursor streamId c).pPayload =
            (payload.drop c.pPayload).drop residualRoom := by
          rw [List.drop_drop, List.drop_eq_drop_iff, packetCursor, hlen, Nat.add_min_add_left, Nat.add_min_add_left,
            Nat.min_assoc, Nat.min_self]
        have hne : (payload.drop c.pPayload).isEmpty = false := by
          rw [List.isEmpty_eq_false_iff, ← List.length_pos_iff, hdrop]
          omega
        have hframe : ∀ off n, off + n ≤ c.headerLen → c'.header.read off n = c.header.read off n :=
          fun off n hoff => (happ.frame off n (Nat.le_add_right_of_le hoff)).trans (packetCursor_frame hoff)
        refine ⟨packetDescriptors c ++ ds, ?_, Nat.le_trans (Nat.le_add_right _ 9) happ.headerLen, hframe, ?_⟩
        · rw [happ.descriptors]
          simp [packetCursor]
        · rw [descriptorBytes_append, packetCursor_bytes (happ.frame _ _ (Nat.le_refl _)) hlen, happ.bytes, hrest]
          simp [chunks, hne]

/-! ### The first packet -/

/-- The payload bytes of the first packet. -/
def firstPiece (pts : Option Nat) (config codecHeader : List UInt8) (payloadLength : Nat) : Nat :=
  min (maxPesPacketLength - (pesHeaderLength pts - pesHeaderStartBytes) - config.length - codecHeader.length)
    payloadLength

/-- The config and the codec header fit into the first packet, as `BuildInputFrame` asserts. -/
def HeadersFit (pts : Option Nat) (config codecHeader : List UInt8) : Prop :=
  pesHeaderLength pts - pesHeaderStartBytes + config.length + codecHeader.length ≤ maxPesPacketLength

section
variable {streamId : UInt8} {pts : Option Nat} {config codecHeader payload : List UInt8}

/-- The value of the first packet's length field. -/
def firstLength (pts : Option Nat) (config codecHeader : List UInt8) (payloadLength : Nat) : Nat :=
  pesHeaderLength pts - pesHeaderStartBytes +
    (config.length + codecHeader.length + firstPiece pts config codecHeader payloadLength)

theorem firstLength_le (hfit : HeadersFit pts config codecHeader) (n : Nat) :
    firstLength pts config codecHeader n ≤ maxPesPacketLength := by
  unfold HeadersFit at hfit
  unfold firstLength firstPiece
  omega

theorem firstPacket_header (hfit : HeadersFit pts config codecHeader) (n : Nat) (m : Memory UInt8) (off : Nat) :
    (firstPacket config codecHeader n m off (pesHeaderLength pts)).header =
      setPayloadLength (m.write (off + pesHeaderLength pts) codecHeader) off
        (firstLength pts config codecHeader n) := by
  unfold HeadersFit at hfit
  simp only [firstPacket, payloadPiece_eq_min]
  congr 1
  unfold firstLength firstPiece
  omega

theorem firstPacket_read (hfit : HeadersFit pts config codecHeader) {m : Memory UInt8} {off : Nat} (n : Nat)
    (hm : m.read off (pesHeaderLength pts) = pesHeader streamId pts 0) :
    (firstPacket config codecHeader n m off (pesHeaderLength pts)).header.read off
        (pesHeaderLength pts + codecHeader.length) =
      pesHeader streamId pts (firstLength pts config codecHeader n) ++ codecHeader := by
  have hsix : off + pesHeaderStartBytes ≤ off + pesHeaderLength pts := by
    rcases pesHeaderLength_cases pts with h | h <;> simp [h]
  rw [firstPacket_header hfit, Memory.read_add, setPayloadLength_frame _ _ _ (.inr hsix), Memory.read_write_same,
    read_setPayloadLength pts (firstLength_le hfit n) ((Memory.read_write_below _ _ (Nat.le_refl _)).trans hm)]

theorem optionalDescriptor_bytes (m : Memory UInt8) (config payload : List UInt8) (region : Region)
    (addr length : Nat) :
    descriptorBytes m config payload (optionalDescriptor region addr length) =
      Descriptor.bytes m config payload { region, addr, length } := by
  unfold optionalDescriptor
  split
  · simp [descriptorBytes]
  · obtain rfl : length = 0 := by omega
    cases region <;> simp [descriptorBytes, Descriptor.bytes, Memory.read_zero]

theorem payloadDescriptor_bytes (m : Memory UInt8) (config payload : List UInt8) (length : Nat) :
    descriptorBytes m config payload (if payload.length > 0 then [⟨.payload, 0, length⟩] else []) =
      payload.take length := by
  split
  · simp [descriptorBytes, Descriptor.bytes]
  · next h =>
    have hnil : payload = [] := List.length_eq_zero_iff.mp (by omega)
    simp [descriptorBytes, hnil]

/-- The descriptors of the first packet spell out the packet, also after later headers; the config is at the
    start of the config buffer `area`. -/
theorem firstPacket_bytes (hfit : HeadersFit pts config codecHeader) {area : List UInt8} {m m' : Memory UInt8}
    {off : Nat} (harea : area.take config.length = config)
    (hm : m.read off (pesHeaderLength pts) = pesHeader streamId pts 0)
    (hm' : m'.read off (pesHeaderLength pts + codecHeader.length) =
      (firstPacket config codecHeader payload.length m off (pesHeaderLength pts)).header.read off
        (pesHeaderLength pts + codecHeader.length)) :
    descriptorBytes m' area payload
        (firstPacket config codecHeader payload.length m off (pesHeaderLength pts)).descriptors =
      pesBytes streamId pts
        (config ++ codecHeader ++ payload.take (firstPiece pts config codecHeader payload.length)) := by
  rw [firstPacket_read hfit _ hm, Memory.read_add] at hm'
  obtain ⟨hpes, hcodec⟩ := List.append_inj hm' (by simp)
  have hbody : (config ++ codecHeader ++ payload.take (firstPiece pts config codecHeader payload.length)).length =
      config.length + codecHeader.length + firstPiece pts config codecHeader payload.length := by
    have : firstPiece pts config codecHeader payload.length ≤ payload.length := Nat.min_le_right _ _
    simp [Nat.min_eq_left this, Nat.add_assoc]
  rw [pesBytes, hbody]
  simp only [firstPacket, payloadPiece_eq_min]
  rw [← List.singleton_append, descriptorBytes_append, descriptorBytes_append, descriptorBytes_append,
    optionalDescriptor_bytes, optionalDescriptor_bytes, payloadDescriptor_bytes]
  simp only [descriptorBytes, List.flatMap_singleton, Descriptor.bytes, hpes, hcodec, List.drop_zero,
    harea, firstLength, firstPiece, List.append_assoc]

end

/-! ### The whole frame -/

/-- Where the first packet's header goes. -/
def FrameBuilder.start (first : Bool) (s : FrameBuilder) : Nat := if first then 0 else s.headerLen

/-- The cursor after the first packet. -/
def FrameBuilder.firstCursor (streamId : UInt8) (first : Bool) (pts : Option Nat) (codecHeader : List UInt8)
    (payloadLength : Nat) (s : FrameBuilder) : PesCursor :=
  firstPacket s.pendingConfig codecHeader payloadLength (s.header.write (s.start first) (pesHeader streamId pts 0))
    (s.start first) (pesHeaderLength pts)

/-- The packets of the whole frame, and whether there was room for them. -/
def FrameBuilder.packets (streamId : UInt8) (first : Bool) (pts : Option Nat) (codecHeader : List UInt8)
    (payloadLength maxDescriptors : Nat) (s : FrameBuilder) : PesCursor × OmxError :=
  let c := s.firstCursor streamId first pts codecHeader payloadLength
  residualPackets streamId s.maxHeaderLen maxDescriptors c.bufferBytesRemaining c

theorem buildInputFrame_eq (streamId : UInt8) (first : Bool) (pts : Option Nat) (codecHeader payload : List UInt8)
    (maxDescriptors : Nat) (s : FrameBuilder) :
    buildInputFrame streamId first pts codecHeader payload maxDescriptors s =
      if maxDescriptors < 4 then (s, .error .badParameter)
      else if sub32 s.maxHeaderLen (s.start first) < pesHeaderLength pts then
        ({ s with headerLen := s.start first }, .error .badParameter)
      else
        let r := s.packets streamId first pts codecHeader payload.length maxDescriptors
        ({ s with
            header := r.1.header
            headerLen := r.1.headerLen
            configBufferState :=
              if r.2 = .none then .submitted
              else if s.configBufferState ≠ .submitted then .accumulating else s.configBufferState },
          if r.2 = .none then .ok r.1.descriptors else .error r.2) := by
  have hpos : pesHeaderLength pts ≠ 0 := by
    rcases pesHeaderLength_cases pts with h | h <;> simp [h]
  by_cases hd : maxDescriptors < 4
  · simp [buildInputFrame, hd]
  · by_cases hh : sub32 s.maxHeaderLen (s.start first) < pesHeaderLength pts
    · simp only [FrameBuilder.start] at hh ⊢
      simp [buildInputFrame, initHeader, hd, hh]
    · rcases hr : s.packets streamId first pts codecHeader payload.length maxDescriptors with ⟨c, err⟩
      simp only [FrameBuilder.packets, FrameBuilder.firstCursor, FrameBuilder.start] at hh hr
      by_cases herr : err = .none <;>
        simp [buildInputFrame, initHeader, hd, FrameBuilder.start, hh, hpos, hr, herr]

/-- The bytes are a stream of packets that carry `content` in order; the first has the time stamp `pts`, the
    others none. -/
def SpellsFrame (streamId : UInt8) (pts : Option Nat) (content bytes : List UInt8) : Prop :=
  ∃ p ps, parsePes bytes = some (p :: ps) ∧
    (∀ q ∈ p :: ps, q.streamId = streamId ∧ q.length = 3 + (q.pts.getD []).length + q.body.length ∧
      1 ≤ q.length ∧ q.length ≤ maxPesPacketLength) ∧
    p.pts = pts.map ptsField ∧ (∀ q ∈ ps, q.pts = none) ∧ (p :: ps).flatMap (·.body) = content

theorem pesPacket_wellFormed {streamId : UInt8} {pts : Option Nat} {body : List UInt8}
    (h : pesHeaderLength pts - pesHeaderStartBytes + body.length ≤ maxPesPacketLength) :
    (pesPacket streamId pts body).streamId = streamId ∧
      (pesPacket streamId pts body).length =
        3 + ((pesPacket streamId pts body).pts.getD []).length + (pesPacket streamId pts body).body.length ∧
      1 ≤ (pesPacket streamId pts body).length ∧ (pesPacket streamId pts body).length ≤ maxPesPacketLength := by
  refine ⟨rfl, ?_, ?_, h⟩ <;> cases pts <;> simp [pesPacket, pesHeaderLength] <;> omega

theorem spellsFrame_of_bodies {streamId : UInt8} {pts : Option Nat} {body : List UInt8} {bodies : List (List UInt8)}
    (hbody : pesHeaderLength pts - pesHeaderStartBytes + body.length ≤ maxPesPacketLength)
    (hbodies : ∀ b ∈ bodies, b.length ≤ residualRoom) :
    SpellsFrame streamId pts (body ++ bodies.flatten)
      (pesBytes streamId pts body ++ bodies.flatMap (pesBytes streamId none)) := by
  have hrest : ∀ b ∈ bodies, pesHeaderLength none - pesHeaderStartBytes + b.length ≤ maxPesPacketLength := by
    intro b hb
    have := hbodies b hb
    simp [pesHeaderLength] at this ⊢
    omega
  let all := (pts, body) :: bodies.map fun b => (none, b)
  have hall : ∀ x ∈ all, pesHeaderLength x.1 - pesHeaderStartBytes + x.2.length ≤ maxPesPacketLength := by
    intro x hx
    rcases List.mem_cons.mp hx with rfl | hx
    · exact hbody
    · obtain ⟨b, hb, rfl⟩ := List.mem_map.mp hx
      exact hrest b hb
  have hparse : parsePes (all.flatMap fun x => pesBytes streamId x.1 x.2) =
      some (all.map fun x => pesPacket streamId x.1 x.2) :=
    parsePes_flatMap fun x hx => ⟨pesBytes_ne_nil _ _ _, parsePacket_pesBytes (hall x hx)⟩
  refine ⟨pesPacket streamId pts body, bodies.map (pesPacket streamId none), ?_, ?_, rfl, ?_, ?_⟩
  · simpa [all, List.flatMap_map, Function.comp_def] using hparse
  · intro q hq
    rcases List.mem_cons.mp hq with rfl | hq
    · exact pesPacket_wellFormed hbody
    · obtain ⟨b, hb, rfl⟩ := List.mem_map.mp hq
      exact pesPacket_wellFormed (hrest b hb)
  · intro q hq
    obtain ⟨b, -, rfl⟩ := List.mem_map.mp hq
    rfl
  · simp [pesPacket, List.flatMap_map, List.flatMap_id']

/-- The bodies of the packets after the first. -/
def residualBodies (pts : Option Nat) (config codecHeader payload : List UInt8) : List (List UInt8) :=
  let piece := firstPiece pts config codecHeader payload.length
  chunks residualRoom (payload.length - piece) (payload.drop piece)

section
variable {streamId : UInt8} {first : Bool} {pts : Option Nat} {codecHeader payload : List UInt8}
  {maxDescriptors : Nat} {s s' : FrameBuilder}

theorem firstCursor_pPayload : (s.firstCursor streamId first pts codecHeader payload.length).pPayload =
    firstPiece pts s.pendingConfig codecHeader payload.length := by
  simp only [FrameBuilder.firstCursor, firstPacket, payloadPiece_eq_min, firstPiece]

theorem firstCursor_bufferBytesRemaining :
    (s.firstCursor streamId first pts codecHeader payload.length).bufferBytesRemaining =
      payload.length - firstPiece pts s.pendingConfig codecHeader payload.length := by
  simp only [FrameBuilder.firstCursor, firstPacket, payloadPiece_eq_min, firstPiece]

theorem firstPiece_le (config : List UInt8) (n : Nat) : firstPiece pts config codecHeader n ≤ n := Nat.min_le_right _ _

theorem packets_bytes {c : PesCursor} (hfit : HeadersFit pts s.pendingConfig codecHeader)
    (h : s.packets streamId first pts codecHeader payload.length maxDescriptors = (c, .none)) :
    descriptorBytes c.header s.configBuffer payload c.descriptors =
      pesBytes streamId pts (s.pendingConfig ++ codecHeader ++
          payload.take (firstPiece pts s.pendingConfig codecHeader payload.length)) ++
        (residualBodies pts s.pendingConfig codecHeader payload).flatMap (pesBytes streamId none) := by
  have hrem : payload.length = (s.firstCursor streamId first pts codecHeader payload.length).pPayload +
      (s.firstCursor streamId first pts codecHeader payload.length).bufferBytesRemaining := by
    rw [firstCursor_pPayload, firstCursor_bufferBytesRemaining, Nat.add_sub_cancel' (firstPiece_le _ _)]
  obtain ⟨ds, happ⟩ := residualPackets_bytes s.configBuffer payload _ _ c (Nat.le_refl _) hrem h
  have harea : s.configBuffer.take s.pendingConfig.length = s.pendingConfig := by
    unfold FrameBuilder.pendingConfig
    split <;> simp
  have hhead : (s.header.write (s.start first) (pesHeader streamId pts 0)).read (s.start first)
      (pesHeaderLength pts) = pesHeader streamId pts 0 := by
    have := Memory.read_write_same s.header (s.start first) (pesHeader streamId pts 0)
    rwa [length_pesHeader] at this
  have hfirst : descriptorBytes c.header s.configBuffer payload
      (s.firstCursor streamId first pts codecHeader payload.length).descriptors = _ :=
    firstPacket_bytes hfit harea hhead (happ.frame _ _ (Nat.le_of_eq (Nat.add_assoc _ _ _).symm))
  rw [happ.descriptors, descriptorBytes_append, hfirst, happ.bytes, firstCursor_pPayload,
    firstCursor_bufferBytesRemaining]
  rfl

theorem flatten_residualBodies (pts : Option Nat) (config codecHeader payload : List UInt8) :
    config ++ codecHeader ++ payload.take (firstPiece pts config codecHeader payload.length) ++
      (residualBodies pts config codecHeader payload).flatten = config ++ codecHeader ++ payload := by
  rw [residualBodies, flatten_chunks (by decide) _ _ (by rw [List.length_drop]), List.append_assoc _ _ (payload.drop _),
    List.take_append_drop]

theorem buildInputFrame_spells {ds : List Descriptor} (hfit : HeadersFit pts s.pendingConfig codecHeader)
    (h : buildInputFrame streamId first pts codecHeader payload maxDescriptors s = (s', .ok ds)) :
    SpellsFrame streamId pts (s.pendingConfig ++ codecHeader ++ payload)
      (descriptorBytes s'.header s'.configBuffer payload ds) := by
  rw [buildInputFrame_eq] at h
  split at h
  · cases h
  split at h
  · cases h
  rcases hr : s.packets streamId first pts codecHeader payload.length maxDescriptors with ⟨c, err⟩
  rw [hr] at h
  by_cases herr : err = .none
  · subst herr
    simp only [if_true, Prod.mk.injEq, Except.ok.injEq] at h
    obtain ⟨rfl, rfl⟩ := h
    rw [packets_bytes hfit hr, ← flatten_residualBodies pts]
    refine spellsFrame_of_bodies ?_ fun b hb => (length_of_mem_chunks (by decide) _ _ b hb).2
    simpa [firstLength, Nat.min_eq_left (firstPiece_le s.pendingConfig payload.length), Nat.add_assoc] using
      firstLength_le hfit payload.length
  · simp [herr] at h

end

/-! ### Both decoders -/

/-- What the largest config and a header with a PTS leave for the codec header; the decoders' own codec headers
    have at most 26 bytes. -/
@[simp] def codecHeaderLimit : Nat :=
  maxPesPacketLength - (pesHeaderLengthWithPts - pesHeaderStartBytes) - codecConfigBufferSize

/-- The first packet's time stamp in the video decoder. -/
def videoPts (codec : VideoCodec) (ptsReceived : Bool) (pts : Nat) : Option Nat :=
  if isFragment codec ptsReceived pts then none else some pts

theorem videoBuildInputFrame_snd (codec : VideoCodec) (ptsReceived first : Bool) (pts maxDescriptors : Nat)
    (codecHeader payload : List UInt8) (s : FrameBuilder) :
    (videoBuildInputFrame codec ptsReceived first pts codecHeader payload maxDescriptors s).2 =
      buildInputFrame 0xe0 first (videoPts codec ptsReceived pts) codecHeader payload maxDescriptors s := by
  unfold videoBuildInputFrame videoPts
  split <;> rfl

theorem headersFit_of_limits {s : FrameBuilder} {codecHeader : List UInt8}
    (hconfig : s.configBuffer.length ≤ codecConfigBufferSize) (hcodec : codecHeader.length ≤ codecHeaderLimit)
    (pts : Option Nat) : HeadersFit pts s.pendingConfig codecHeader := by
  have hpending : s.pendingConfig.length ≤ s.configBuffer.length := by
    unfold FrameBuilder.pendingConfig
    split <;> simp
  have hhead : pesHeaderLength pts ≤ 14 := by
    rcases pesHeaderLength_cases pts with h | h <;> omega
  simp only [codecHeaderLimit, maxPesPacketLength, pesHeaderLengthWithPts, pesHeaderStartBytes,
    codecConfigBufferSize] at hconfig hcodec
  simp only [HeadersFit, maxPesPacketLength, pesHeaderStartBytes]
  omega

/-- Packetisation loses nothing: whenever a decoder builds a frame, the descriptors address a sequence of PES
    packets whose bodies are the pending config, the codec header and the payload, and only the first packet
    can have a time stamp. -/
theorem buildInputFrame_lossless (codec : VideoCodec) (ptsReceived first : Bool) (pts maxDescriptors : Nat)
    (codecHeader payload : List UInt8) (s : FrameBuilder)
    (hconfig : s.configBuffer.length ≤ codecConfigBufferSize) (hcodec : codecHeader.length ≤ codecHeaderLimit) :
    (∀ r s' ds, videoBuildInputFrame codec ptsReceived first pts codecHeader payload maxDescriptors s =
        (r, s', .ok ds) →
      SpellsFrame 0xe0 (videoPts codec ptsReceived pts) (s.pendingConfig ++ codecHeader ++ payload)
        (descriptorBytes s'.header s'.configBuffer payload ds)) ∧
    (∀ s' ds, audioBuildInputFrame first pts codecHeader payload maxDescriptors s = (s', .ok ds) →
      SpellsFrame 0xc0 (some pts) (s.pendingConfig ++ codecHeader ++ payload)
        (descriptorBytes s'.header s'.configBuffer payload ds)) := by
  constructor
  · intro r s' ds h
    have hsnd := congrArg Prod.snd h
    rw [videoBuildInputFrame_snd] at hsnd
    exact buildInputFrame_spells (headersFit_of_limits hconfig hcodec _) hsnd
  · intro s' ds h
    exact buildInputFrame_spells (headersFit_of_limits hconfig hcodec _) h

/-- A three byte frame behind a two byte config. -/
def smallFrame : FrameBuilder :=
  { header := fun _ => 0, maxHeaderLen := 32, headerLen := 0, configBuffer := [7, 8],
    configBufferState := .accumulating }

theorem buildInputFrame_lossless_smallFrame :
    (∃ r s' ds, videoBuildInputFrame .avc false true 90 [] [1, 2, 3] 6 smallFrame = (r, s', .ok ds) ∧
      SpellsFrame 0xe0 (some 90) [7, 8, 1, 2, 3] (descriptorBytes s'.header s'.configBuffer [1, 2, 3] ds)) ∧
    (∃ s' ds, audioBuildInputFrame true 90 [] [1, 2, 3] 6 smallFrame = (s', .ok ds) ∧
      SpellsFrame 0xc0 (some 90) [7, 8, 1, 2, 3] (descriptorBytes s'.header s'.configBuffer [1, 2, 3] ds)) := by
  have h := buildInputFrame_lossless .avc false true 90 6 [] [1, 2, 3] smallFrame (by decide) (by decide)
  constructor
  · have hok : (videoBuildInputFrame .avc false true 90 [] [1, 2, 3] 6 smallFrame).2.2.toBool = true := by decide
    rcases hv : videoBuildInputFrame .avc false true 90 [] [1, 2, 3] 6 smallFrame with ⟨r, s', _ | ds⟩
    · simp [hv, Except.toBool] at hok
    · exact ⟨r, s', ds, rfl, h.1 r s' ds hv⟩
  · have hok : (audioBuildInputFrame true 90 [] [1, 2, 3] 6 smallFrame).2.toBool = true := by decide
    rcases ha : audioBuildInputFrame true 90 [] [1, 2, 3] 6 smallFrame with ⟨s', _ | ds⟩
    · simp [ha, Except.toBool] at hok
    · exact ⟨s', ds, rfl, h.2 s' ds ha⟩

end BcmPlatform.Bomx
