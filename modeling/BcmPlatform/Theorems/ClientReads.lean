import BcmPlatform.Bomx.ClientReads
import BcmPlatform.Theorems.ConfigState

/-! The bounds of a buffer header. The check of `EmptyThisBuffer` and `GetBuffer` adds two 32-bit numbers of the client.
    Where the sum does not wrap, all that is read lies inside the buffer; where it does, every consumer reads behind
    its end. -/

namespace BcmPlatform.Bomx

/-! ### Blocks -/

@[simp] theorem bytes_filled (h : BufferHeader) : h.filled.bytes h.pBuffer = h.payload := rfl

theorem ByteRange.within_of_le {n : Nat} {r : ByteRange} (h : r.start + r.length ≤ n) : r.Within n :=
  fun _ _ hi => Nat.lt_of_lt_of_le hi h

theorem ByteRange.not_within_of_lt {n : Nat} {r : ByteRange} (hpos : 0 < r.length) (h : n < r.start + r.length) :
    ¬r.Within n := by
  intro hin
  have := hin (r.start + r.length - 1) (by omega) (by omega)
  omega

/-! ### The payload's descriptors -/

/-- The payload is split between the descriptors so far and what remains. -/
structure PesCursor.CutsPayload (n : Nat) (c : PesCursor) : Prop where
  position : c.pPayload + c.bufferBytesRemaining = n
  inside : ∀ d ∈ c.descriptors, d.region = .payload → d.addr + d.length ≤ n

theorem optionalDescriptor_region {region : Region} {addr length : Nat} {d : Descriptor}
    (h : d ∈ optionalDescriptor region addr length) : d.region = region := by
  unfold optionalDescriptor at h
  split at h
  · rw [List.mem_singleton.mp h]
  · cases h

theorem firstPacket_cutsPayload (config codecHeader : List UInt8) (n : Nat) (m : Lib.Memory UInt8)
    (off headerBytes : Nat) : (firstPacket config codecHeader n m off headerBytes).CutsPayload n := by
  have hpiece := Nat.min_le_right
    (maxPesPacketLength - (headerBytes - pesHeaderStartBytes) - config.length - codecHeader.length) n
  constructor
  · simp only [firstPacket, payloadPiece_eq_min]
    omega
  · intro d hd hr
    simp only [firstPacket, payloadPiece_eq_min, List.mem_cons, List.mem_append] at hd
    rcases hd with rfl | (hd | hd) | hd
    · cases hr
    · rw [optionalDescriptor_region hd] at hr
      cases hr
    · rw [optionalDescriptor_region hd] at hr
      cases hr
    · split at hd
      · rw [List.mem_singleton.mp hd, Nat.zero_add]
        exact hpiece
      · cases hd

theorem packetCursor_cutsPayload {streamId : UInt8} {n : Nat} {c : PesCursor} (h : c.CutsPayload n) :
    (packetCursor streamId c).CutsPayload n := by
  have hpiece := Nat.min_le_right residualRoom c.bufferBytesRemaining
  have hpos := h.position
  constructor
  · simp only [packetCursor]
    omega
  · intro d hd hr
    simp only [packetCursor, packetDescriptors, List.mem_append, List.mem_cons, List.not_mem_nil, or_false] at hd
    rcases hd with hd | rfl | rfl
    · exact h.inside d hd hr
    · cases hr
    · simp only
      omega

theorem residualPackets_cutsPayload {streamId : UInt8} {maxHeaderLen maxDescriptors n : Nat} (fuel : Nat) {c : PesCursor}
    (h : c.CutsPayload n) : (residualPackets streamId maxHeaderLen maxDescriptors fuel c).1.CutsPayload n := by
  induction fuel generalizing c with
  | zero => exact h
  | succ fuel ih =>
    by_cases hrem : c.bufferBytesRemaining = 0
    · rw [residualPackets_done hrem]
      exact h
    · rw [residualPackets_step hrem]
      split
      · exact h
      · exact ih (packetCursor_cutsPayload h)

theorem buildInputFrame_inside {streamId : UInt8} {first : Bool} {pts : Option Nat} {codecHeader payload : List UInt8}
    {maxDescriptors : Nat} {s : FrameBuilder} {descs : List Descriptor}
    (h : (buildInputFrame streamId first pts codecHeader payload maxDescriptors s).2 = .ok descs) :
    ∀ d ∈ descs, d.region = .payload → d.addr + d.length ≤ payload.length := by
  rw [buildInputFrame_eq] at h
  split at h
  · cases h
  split at h
  · cases h
  have hcut : (s.packets streamId first pts codecHeader payload.length maxDescriptors).1.CutsPayload payload.length :=
    residualPackets_cutsPayload _ (firstPacket_cutsPayload _ _ _ _ _ _)
  by_cases herr : (s.packets streamId first pts codecHeader payload.length maxDescriptors).2 = .none
  · simp only [herr, if_true, Except.ok.injEq] at h
    rw [← h]
    exact hcut.inside
  · simp [herr] at h

/-! ### What is read -/

theorem within_of_frameReads {copied : Bool} {maxDescriptors : Nat} {built : Except OmxError (List Descriptor)}
    {h : BufferHeader} (hbuilt : ∀ descs, built = .ok descs →
      ∀ d ∈ descs, d.region = .payload → d.addr + d.length ≤ h.nFilledLen)
    (hin : h.nOffset + h.nFilledLen ≤ h.nAllocLen) :
    ∀ r ∈ frameReads copied maxDescriptors built h, r.Within h.nAllocLen := by
  intro r hr
  unfold frameReads at hr
  cases copied with
  | true =>
    simp only [if_true] at hr
    split at hr
    · cases hr
    · rw [List.mem_singleton.mp hr]
      exact ByteRange.within_of_le hin
  | false =>
    cases built with
    | error err => cases hr
    | ok descs =>
      simp only [Bool.false_eq_true, if_false, List.mem_filterMap] at hr
      obtain ⟨d, hd, hclient⟩ := hr
      unfold Descriptor.clientBytes at hclient
      split at hclient
      case isFalse => cases hclient
      case isTrue hregion =>
        obtain rfl := Option.some.inj hclient
        have := hbuilt descs rfl d hd hregion
        exact ByteRange.within_of_le (by simp only; omega)

namespace InputSide

theorem configReads_eq (size : Nat) (b : BufferId) (s : InputSide) :
    s.configReads size b =
      if size < s.startConfig.configBuffer.length + (s.buffer b).header.nFilledLen then []
      else [(s.buffer b).header.filled] := by
  have hbuffer : s.startConfig.buffer = s.buffer := by
    unfold startConfig
    split <;> rfl
  simp only [configReads]
  rw [← startConfig, hbuffer]

theorem within_of_emptyReads {size : Nat} {frame : List ByteRange} {b : BufferId} {s : InputSide}
    (hin : (s.buffer b).header.nOffset + (s.buffer b).header.nFilledLen ≤ (s.buffer b).header.nAllocLen)
    (hframe : ∀ r ∈ frame, r.Within (s.buffer b).header.nAllocLen) :
    ∀ r ∈ s.emptyReads size frame b, r.Within (s.buffer b).header.nAllocLen := by
  intro r hr
  simp only [emptyReads] at hr
  split at hr
  · cases hr
  split at hr
  · rw [configReads_eq] at hr
    split at hr
    · cases hr
    · rw [List.mem_singleton.mp hr]
      exact ByteRange.within_of_le hin
  split at hr
  · exact hframe r hr
  · cases hr

end InputSide

/-! ### `UpdateBuffer` -/

theorem updates_end {h h' : BufferHeader} (hu : h.Updates h') (hsum : h.nOffset + h.nFilledLen < u32) :
    h'.nOffset + h'.nFilledLen = h.nOffset + h.nFilledLen ∧ h'.nAllocLen = h.nAllocLen := by
  obtain ⟨amountUsed, hle, rfl⟩ := hu
  refine ⟨?_, rfl⟩
  simp only [BufferHeader.updateBuffer]
  rw [add32_of_lt (by omega), sub32_of_le hle]
  omega

theorem updates_run {h h' : BufferHeader} (hu : Relation.ReflTransGen BufferHeader.Updates h h')
    (hsum : h.nOffset + h.nFilledLen < u32) :
    h'.nOffset + h'.nFilledLen = h.nOffset + h.nFilledLen ∧ h'.nAllocLen = h.nAllocLen := by
  induction hu with
  | refl => exact ⟨rfl, rfl⟩
  | tail _ hstep ih =>
    have hnext := updates_end hstep (by omega)
    omega

/-! ### The bounds -/

theorem staysInside_of_le {h : BufferHeader} (hsum : h.nOffset + h.nFilledLen < u32)
    (hin : h.nOffset + h.nFilledLen ≤ h.nAllocLen) : StaysInside h where
  video := by
    rintro s codec copied b rfl
    refine InputSide.within_of_emptyReads hin (within_of_frameReads (fun descs hok => ?_) hin)
    rw [InputSide.builtFrame, videoBuildInputFrame_snd] at hok
    simpa using buildInputFrame_inside hok
  audio := by
    rintro s codecHeader copied b rfl
    refine InputSide.within_of_emptyReads hin (within_of_frameReads (fun descs hok => ?_) hin)
    rw [InputSide.audioBuiltFrame, audioBuildInputFrame] at hok
    simpa using buildInputFrame_inside hok
  getBuffer := by
    intro h' hu r hr
    have hrun := updates_run hu hsum
    unfold BufferHeader.getBuffer at hr
    split at hr
    · obtain rfl := Option.some.inj hr
      exact ByteRange.within_of_le (by simp only [BufferHeader.filled]; omega)
    · cases hr
  filled := by
    intro h' hu
    have hrun := updates_run hu hsum
    omega

theorem filled_not_within {h : BufferHeader} (hoffset : h.nOffset < u32) (halloc : h.nAllocLen < u32)
    (hwrap : u32 ≤ h.nOffset + h.nFilledLen) : ¬h.filled.Within h.nAllocLen :=
  ByteRange.not_within_of_lt (by simp only [BufferHeader.filled]; omega) (by simp only [BufferHeader.filled]; omega)

/-- The bounds hold exactly for headers whose `nOffset + nFilledLen` is no 32-bit overflow. -/
theorem header_staysInside_iff (h : BufferHeader) (halloc : h.nAllocLen < u32)
    (hcheck : add32 h.nFilledLen h.nOffset ≤ h.nAllocLen) : StaysInside h ↔ h.nOffset + h.nFilledLen < u32 := by
  constructor
  · intro hs
    have := hs.filled h .refl
    omega
  · intro hsum
    rw [add32_of_lt (by omega)] at hcheck
    exact staysInside_of_le hsum (by omega)

/-- 8 bytes at offset 4 of a buffer of 16 bytes. -/
theorem header_staysInside_within : StaysInside { nAllocLen := 16, nOffset := 4, nFilledLen := 8 } :=
  (header_staysInside_iff { nAllocLen := 16, nOffset := 4, nFilledLen := 8 } (by decide) (by decide)).mpr (by decide)

/-- 4 bytes at an offset just below 2^32: with a buffer of 16 bytes the check sees a sum of 2. -/
def wrappingHeader (codecConfig : Bool) : BufferHeader :=
  { nAllocLen := 16, nOffset := 4294967294, nFilledLen := 4, nFlags := { codecConfig } }

/-- An input side whose buffer 0 has that header. -/
def wrappingInput (codecConfig : Bool) : InputSide :=
  let s := InputSide.init 6 { nPortIndex := 0, nBufferCountActual := 2, nBufferCountMin := 2, nBufferSize := 16 }
  s.setBuffer 0 { s.buffer 0 with header := wrappingHeader codecConfig, maxHeaderLen := 64 }

/-- The header passes the check, and the config, the copy, the descriptors and `GetBuffer` of both decoders all read
    behind the end of the buffer. -/
theorem header_not_staysInside :
    InputSide.headerAccepted (wrappingHeader false) ∧ InputSide.headerAccepted (wrappingHeader true) ∧
    ¬StaysInside (wrappingHeader false) ∧ ¬StaysInside (wrappingHeader true) ∧
    (wrappingInput true).videoReads .avc false 0 = [(wrappingHeader true).filled] ∧
    (wrappingInput true).audioReads [] false 0 = [(wrappingHeader true).filled] ∧
    (wrappingInput false).videoReads .avc true 0 = [(wrappingHeader false).filled] ∧
    (wrappingInput false).audioReads [] true 0 = [(wrappingHeader false).filled] ∧
    (wrappingInput false).videoReads .avc false 0 = [(wrappingHeader false).filled] ∧
    (wrappingInput false).audioReads [] false 0 = [(wrappingHeader false).filled] ∧
    (wrappingHeader false).getBuffer = some (wrappingHeader false).filled ∧
    ¬(wrappingHeader false).filled.Within (wrappingHeader false).nAllocLen := by
  have hnot : ∀ codecConfig, ¬StaysInside (wrappingHeader codecConfig) := by
    intro codecConfig hs
    have hle := hs.filled _ .refl
    revert hle
    cases codecConfig <;> decide
  refine ⟨by decide, by decide, hnot false, hnot true, by decide, by decide, by decide, by decide, by decide, by decide,
    by decide, filled_not_within (by decide) (by decide) (by decide)⟩

end BcmPlatform.Bomx
