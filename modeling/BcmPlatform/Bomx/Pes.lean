import Mathlib.Algebra.GroupWithZero.Nat
import BcmPlatform.Lib.Memory
import BcmPlatform.Bomx.Omx

/-! `BOMX_PesFormatter` and the packetisation of an input frame, `BuildInputFrame`, which the video and the
    audio decoder share up to the choice of the first packet's time stamp. The PES and codec headers are
    built in a header buffer of their own, and the frame is handed to the playpump as a list of descriptors
    into the header buffer, the cached codec config and the payload. -/

namespace BcmPlatform.Bomx
open Lib

/-- `B_MAX_PES_PACKET_LENGTH` -/
@[simp] def maxPesPacketLength : Nat := 65535

/-- `B_PES_HEADER_START_BYTES`: the bytes that the packet length field does not count. -/
@[simp] def pesHeaderStartBytes : Nat := 6

/-- `B_PES_HEADER_LENGTH_WITH_PTS` -/
@[simp] def pesHeaderLengthWithPts : Nat := 14

/-- `B_PES_HEADER_LENGTH_WITHOUT_PTS` -/
@[simp] def pesHeaderLengthWithoutPts : Nat := 9

/-- `BOMX_VIDEO_CODEC_CONFIG_BUFFER_SIZE`; the audio decoder's buffer is half as large. -/
@[simp] def codecConfigBufferSize : Nat := 2048

/-! ### The formatter -/

/-- `B_GET_BITS(w, e, b)`: bits `e` down to `b` of `w`. -/
def getBits (w e b : Nat) : Nat := (w >>> b) % 2 ^ (e + 1 - b)

/-- The five bytes of the PTS field. -/
def ptsField (pts : Nat) : List UInt8 :=
  [UInt8.ofNat ((0x02 <<< 4) ||| (getBits pts 31 29 <<< 1) ||| 1),
   UInt8.ofNat (getBits pts 28 21),
   UInt8.ofNat ((getBits pts 20 14 <<< 1) ||| 1),
   UInt8.ofNat (getBits pts 13 6),
   UInt8.ofNat ((getBits pts 5 0 <<< 2) ||| (0 <<< 1) ||| 1)]

/-- The header that `InitHeader` writes, with a packet length of `len`; the flags byte `0x80` announces a
    PTS and the next byte is the length of the optional fields. -/
def pesHeader (streamId : UInt8) (pts : Option Nat) (len : Nat) : List UInt8 :=
  [0x00, 0x00, 0x01, streamId, UInt8.ofNat (len / 256), UInt8.ofNat (len % 256), 0x81] ++
    match pts with
    | some pts => [0x80, 0x05] ++ ptsField pts
    | none => [0x00, 0x00]

/-- The size of a header with or without a PTS. -/
def pesHeaderLength (pts : Option Nat) : Nat :=
  if pts.isSome then pesHeaderLengthWithPts else pesHeaderLengthWithoutPts

/-- `BOMX_PesFormatter::InitHeader`. Returns the header size, 0 when the room does not suffice. -/
def initHeader (streamId : UInt8) (m : Memory UInt8) (pHeaderBuf maxHeaderBytes : Nat) (pts : Option Nat) :
    Nat × Memory UInt8 :=
  let headerSize := pesHeaderLength pts
  if headerSize > maxHeaderBytes then (0, m) else (headerSize, m.write pHeaderBuf (pesHeader streamId pts 0))

/-- `BOMX_PesFormatter::SetPayloadLength`; the length is passed as a `uint16_t`. -/
def setPayloadLength (m : Memory UInt8) (pHeaderBuf payloadLen : Nat) : Memory UInt8 :=
  let payloadLen := payloadLen % 65536
  m.write (pHeaderBuf + 4) [UInt8.ofNat (payloadLen / 256), UInt8.ofNat (payloadLen % 256)]

/-! ### Descriptors -/

/-- The buffers that descriptors address. -/
inductive Region where
  | header
  | config
  | payload
  deriving DecidableEq, Repr

/-- `NEXUS_PlaypumpScatterGatherDescriptor` -/
structure Descriptor where
  region : Region
  addr : Nat
  length : Nat
  deriving DecidableEq, Repr

/-- The bytes a descriptor addresses. -/
def Descriptor.bytes (header : Memory UInt8) (config payload : List UInt8) (d : Descriptor) : List UInt8 :=
  match d.region with
  | .header => header.read d.addr d.length
  | .config => (config.drop d.addr).take d.length
  | .payload => (payload.drop d.addr).take d.length

/-- The bytes the playpump sees for a list of descriptors. -/
def descriptorBytes (header : Memory UInt8) (config payload : List UInt8) (ds : List Descriptor) : List UInt8 :=
  ds.flatMap (Descriptor.bytes header config payload)

/-! ### Building a frame -/

inductive ConfigBufferState where
  | accumulating
  | flushed
  | submitted
  deriving DecidableEq, Repr

/-- What `BuildInputFrame` keeps from call to call: the buffer's header memory, and the component's cached
    codec config. `m_configBufferSize` is the length of `configBuffer`. -/
structure FrameBuilder where
  header : Memory UInt8
  maxHeaderLen : Nat
  headerLen : Nat
  configBuffer : List UInt8
  configBufferState : ConfigBufferState

/-- The codec config that the next frame carries. -/
def FrameBuilder.pendingConfig (s : FrameBuilder) : List UInt8 :=
  if s.configBufferState = .submitted then [] else s.configBuffer

/-- The running counters of `BuildInputFrame`. -/
structure PesCursor where
  header : Memory UInt8
  headerLen : Nat
  descriptors : List Descriptor
  pPayload : Nat
  bufferBytesRemaining : Nat

/-- As much payload as the packet has room for. -/
def payloadPiece (chunkBytesAvailable bufferBytesRemaining : Nat) : Nat :=
  if chunkBytesAvailable ≥ bufferBytesRemaining then bufferBytesRemaining else chunkBytesAvailable

/-- A descriptor for a block, none when the block is empty. -/
def optionalDescriptor (region : Region) (addr length : Nat) : List Descriptor :=
  if length > 0 then [{ region, addr, length }] else []

/-- The first packet: PES header, codec config, codec header and payload. `m` holds the PES header at `off`. -/
def firstPacket (config codecHeader : List UInt8) (payloadLength : Nat) (m : Memory UInt8) (off headerBytes : Nat) :
    PesCursor :=
  let headerLen := off + headerBytes
  let chunkBytesAvailable := maxPesPacketLength - (headerBytes - pesHeaderStartBytes)
  let chunkBytesAvailable := chunkBytesAvailable - config.length
  let chunkBytesAvailable := chunkBytesAvailable - codecHeader.length
  let m := m.write headerLen codecHeader
  let piece := payloadPiece chunkBytesAvailable payloadLength
  let chunkBytesAvailable := chunkBytesAvailable - piece
  { header := setPayloadLength m off (maxPesPacketLength - chunkBytesAvailable)
    headerLen := headerLen + codecHeader.length
    descriptors :=
      { region := .header, addr := off, length := headerBytes } ::
        (optionalDescriptor .config 0 config.length ++
          optionalDescriptor .header headerLen codecHeader.length ++
          (if payloadLength > 0 then [{ region := .payload, addr := 0, length := piece }] else []))
    pPayload := piece
    bufferBytesRemaining := payloadLength - piece }

/-- One further packet without a time stamp, or the reason why there is no room for it. -/
def nextPacket (streamId : UInt8) (maxHeaderLen maxDescriptors : Nat) (c : PesCursor) : Except OmxError PesCursor :=
  if maxDescriptors - c.descriptors.length < 2 then .error .badParameter
  else
    let (headerBytes, m) := initHeader streamId c.header c.headerLen (sub32 maxHeaderLen c.headerLen) none
    if headerBytes = 0 then .error .badParameter
    else
      let chunkBytesAvailable := maxPesPacketLength - (headerBytes - pesHeaderStartBytes)
      let piece := payloadPiece chunkBytesAvailable c.bufferBytesRemaining
      let chunkBytesAvailable := chunkBytesAvailable - piece
      .ok
        { header := setPayloadLength m c.headerLen (maxPesPacketLength - chunkBytesAvailable)
          headerLen := c.headerLen + headerBytes
          descriptors := c.descriptors ++
            [{ region := .header, addr := c.headerLen, length := headerBytes },
             { region := .payload, addr := c.pPayload, length := piece }]
          pPayload := c.pPayload + piece
          bufferBytesRemaining := c.bufferBytesRemaining - piece }

/-- The loop over the residual data. A packet takes at least one byte, so as many rounds as there are bytes
    suffice. -/
def residualPackets (streamId : UInt8) (maxHeaderLen maxDescriptors : Nat) :
    Nat → PesCursor → PesCursor × OmxError
  | 0, c => (c, .none)
  | fuel + 1, c =>
    if c.bufferBytesRemaining = 0 then (c, .none)
    else
      match nextPacket streamId maxHeaderLen maxDescriptors c with
      | .error e => (c, e)
      | .ok c' => residualPackets streamId maxHeaderLen maxDescriptors fuel c'

/-- `BuildInputFrame` of both decoders, for the first packet's time stamp `pts`. A failure in the residual
    loop puts the config back to `accumulating`, from whichever state it was taken. -/
def buildInputFrame (streamId : UInt8) (first : Bool) (pts : Option Nat) (codecHeader payload : List UInt8)
    (maxDescriptors : Nat) (s : FrameBuilder) : FrameBuilder × Except OmxError (List Descriptor) :=
  if maxDescriptors < 4 then (s, .error .badParameter)
  else
    let off := if first then 0 else s.headerLen
    let (headerBytes, m) := initHeader streamId s.header off (sub32 s.maxHeaderLen off) pts
    if headerBytes = 0 then ({ s with headerLen := off }, .error .badParameter)
    else
      let configSubmitted := s.configBufferState ≠ .submitted
      let c := firstPacket s.pendingConfig codecHeader payload.length m off headerBytes
      let (c, err) := residualPackets streamId s.maxHeaderLen maxDescriptors c.bufferBytesRemaining c
      let s' := { s with header := c.header, headerLen := c.headerLen }
      if err = .none then ({ s' with configBufferState := .submitted }, .ok c.descriptors)
      else
        ({ s' with configBufferState := if configSubmitted then .accumulating else s.configBufferState },
          .error err)

/-! ### The two decoders -/

/-- A frame without a time stamp that continues the previous one; such a frame gets no PTS. -/
def isFragment (codec : VideoCodec) (ptsReceived : Bool) (pts : Nat) : Bool :=
  pts = 0 && ptsReceived && codec.allowsFragments

/-- `BOMX_VideoDecoder::BuildInputFrame`, with `m_ptsReceived` before and after. -/
def videoBuildInputFrame (codec : VideoCodec) (ptsReceived first : Bool) (pts : Nat)
    (codecHeader payload : List UInt8) (maxDescriptors : Nat) (s : FrameBuilder) :
    Bool × FrameBuilder × Except OmxError (List Descriptor) :=
  if isFragment codec ptsReceived pts then
    (ptsReceived, buildInputFrame 0xe0 first none codecHeader payload maxDescriptors s)
  else
    (ptsReceived || 4 ≤ maxDescriptors, buildInputFrame 0xe0 first (some pts) codecHeader payload maxDescriptors s)

/-- `BOMX_AudioDecoder::BuildInputFrame` -/
def audioBuildInputFrame (first : Bool) (pts : Nat) (codecHeader payload : List UInt8) (maxDescriptors : Nat)
    (s : FrameBuilder) : FrameBuilder × Except OmxError (List Descriptor) :=
  buildInputFrame 0xc0 first (some pts) codecHeader payload maxDescriptors s

end BcmPlatform.Bomx
