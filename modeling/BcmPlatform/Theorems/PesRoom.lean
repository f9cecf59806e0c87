import BcmPlatform.Theorems.Pes
import BcmPlatform.Bomx.Input

/-! Room for a frame: exactly when the descriptors and the header space of an input buffer suffice. -/

namespace BcmPlatform.Bomx
open Lib

/-- The loop over the residual data succeeds exactly when both the descriptors and the header space hold one
    further packet for each piece. -/
theorem residualPackets_ok_iff (streamId : UInt8) (maxHeaderLen maxDescriptors : Nat) :
    ∀ (fuel : Nat) (c : PesCursor), c.bufferBytesRemaining ≤ fuel → c.descriptors.length ≤ maxDescriptors →
      c.headerLen ≤ maxHeaderLen →
      ((residualPackets streamId maxHeaderLen maxDescriptors fuel c).2 = .none ↔
        c.descriptors.length + 2 * chunkCount residualRoom c.bufferBytesRemaining ≤ maxDescriptors ∧
          c.headerLen + 9 * chunkCount residualRoom c.bufferBytesRemaining ≤ maxHeaderLen) := by
  intro fuel
  induction fuel with
  | zero =>
    intro c hfuel hd hh
    rw [Nat.le_zero.mp hfuel, chunkCount_zero (by decide), residualPackets_done (Nat.le_zero.mp hfuel)]
    simpa using ⟨hd, hh⟩
  | succ fuel ih =>
    intro c hfuel hd hh
    by_cases h0 : c.bufferBytesRemaining = 0
    · rw [h0, chunkCount_zero (by decide), residualPackets_done h0]
      simpa using ⟨hd, hh⟩
    · rw [residualPackets_step h0, sub32_of_le hh, chunkCount_of_pos (by decide) (Nat.pos_of_ne_zero h0)]
      split
      · next hroom =>
        constructor
        · intro h
          cases h
        · intro h
          omega
      · have hdes : (packetCursor streamId c).descriptors.length = c.descriptors.length + 2 := by
          simp [packetCursor, packetDescriptors]
        have hhead : (packetCursor streamId c).headerLen = c.headerLen + 9 := rfl
        have hrem : (packetCursor streamId c).bufferBytesRemaining = c.bufferBytesRemaining - residualRoom := by
          simp only [packetCursor]
          omega
        have hlt : (packetCursor streamId c).bufferBytesRemaining ≤ fuel := by
          simp only [hrem, residualRoom, maxPesPacketLength, pesHeaderLengthWithoutPts, pesHeaderStartBytes]
          omega
        rw [ih _ hlt (by omega) (by omega), hdes, hhead, hrem]
        constructor <;> intro h <;> omega

section
variable {streamId : UInt8} {pts : Option Nat} {codecHeader payload : List UInt8} {k : Nat} {s : FrameBuilder}

theorem firstCursor_headerLen : (s.firstCursor streamId true pts codecHeader payload.length).headerLen =
    pesHeaderLength pts + codecHeader.length := by
  simp [FrameBuilder.firstCursor, firstPacket, FrameBuilder.start]

theorem firstCursor_descriptors_le (streamId : UInt8) (pts : Option Nat) (codecHeader payload : List UInt8)
    (s : FrameBuilder) :
    (s.firstCursor streamId true pts codecHeader payload.length).descriptors.length ≤ 4 := by
  simp only [FrameBuilder.firstCursor, firstPacket, List.length_cons, List.length_append, optionalDescriptor]
  split <;> split <;> split <;> simp

theorem residual_le_iff (hfit : HeadersFit pts s.pendingConfig codecHeader) :
    payload.length - firstPiece pts s.pendingConfig codecHeader payload.length ≤ residualRoom * k ↔
      payload.length + (pesHeaderLength pts - pesHeaderStartBytes) + s.pendingConfig.length + codecHeader.length ≤
        maxPesPacketLength + residualRoom * k := by
  unfold HeadersFit at hfit
  unfold firstPiece
  omega

/-- With descriptors and header space for `k` packets beside the first, a frame is built exactly when it takes no
    more. The header space is the tighter bound: without config and codec header there are descriptors for one
    packet more. -/
theorem buildInputFrame_ok_iff (hfit : HeadersFit pts s.pendingConfig codecHeader)
    (hheader : s.maxHeaderLen = pesHeaderLengthWithPts + codecHeader.length + 9 * k) :
    (∃ ds, (buildInputFrame streamId true pts codecHeader payload (4 + 2 * k) s).2 = .ok ds) ↔
      payload.length + (pesHeaderLength pts - pesHeaderStartBytes) + s.pendingConfig.length + codecHeader.length ≤
        maxPesPacketLength + residualRoom * k := by
  have hpes : pesHeaderLength pts ≤ 14 := by
    rcases pesHeaderLength_cases pts with h | h <;> omega
  have hlow : 9 ≤ pesHeaderLength pts := by
    rcases pesHeaderLength_cases pts with h | h <;> omega
  simp only [pesHeaderLengthWithPts] at hheader
  have hstart : ¬ sub32 s.maxHeaderLen (s.start true) < pesHeaderLength pts := by
    rw [FrameBuilder.start, if_pos rfl, sub32_of_le (Nat.zero_le _)]
    omega
  have hdesc := firstCursor_descriptors_le streamId pts codecHeader payload s
  have hloop := residualPackets_ok_iff streamId s.maxHeaderLen (4 + 2 * k) _
    (s.firstCursor streamId true pts codecHeader payload.length) (Nat.le_refl _) (by omega)
    (by rw [firstCursor_headerLen]; omega)
  rw [firstCursor_headerLen, firstCursor_bufferBytesRemaining] at hloop
  rw [buildInputFrame_eq, if_neg (by omega), if_neg hstart, ← residual_le_iff hfit, ← chunkCount_le_iff (by decide)]
  have hcount : (s.packets streamId true pts codecHeader payload.length (4 + 2 * k)).2 = .none ↔
      chunkCount residualRoom (payload.length - firstPiece pts s.pendingConfig codecHeader payload.length) ≤ k := by
    rw [FrameBuilder.packets, firstCursor_bufferBytesRemaining, hloop]
    constructor <;> intro h <;> omega
  rw [← hcount]
  by_cases herr : (s.packets streamId true pts codecHeader payload.length (4 + 2 * k)).2 = .none <;> simp [herr]

end

/-! ### The video decoder's input buffers -/

theorem verifyInputPortBuffers_ok {p p' : Port} {m : Nat} (h : verifyInputPortBuffers p = .ok (p', m)) :
    m = maxDescriptorsPerBuffer p'.definition.nBufferSize ∧ p'.definition.nBufferSize ≤ 18874368 := by
  unfold verifyInputPortBuffers at h
  by_cases hsize : p.definition.nBufferSize > dataBufferSizeHighres
  · by_cases hcount : dataBufferSizeHighres * numInputBuffers / p.definition.nBufferSize < 2
    · simp only [hsize, hcount, and_self, if_true] at h
      cases h
    · have hlarge : ¬ p.definition.nBufferSize < dataBufferSizeDefault := by
        simp only [dataBufferSizeHighres, dataBufferSizeDefault] at hsize ⊢
        omega
      simp only [hsize, hcount, and_false, if_false, if_true, hlarge, Except.ok.injEq, Prod.mk.injEq] at h
      obtain ⟨rfl, rfl⟩ := h
      refine ⟨rfl, ?_⟩
      have hpos : 0 < p.definition.nBufferSize := by omega
      have := (Nat.le_div_iff_mul_le hpos).mp (Nat.not_lt.mp hcount)
      simp only [Port.setDefinition, dataBufferSizeHighres, numInputBuffers] at this ⊢
      omega
  · simp only [hsize, false_and, if_false, Except.ok.injEq, Prod.mk.injEq] at h
    obtain ⟨rfl, rfl⟩ := h
    refine ⟨rfl, ?_⟩
    by_cases hsmall : p.definition.nBufferSize < dataBufferSizeDefault
    · simp only [Port.setDefinition, if_pos hsmall]
      decide
    · simp only [Port.setDefinition, if_neg hsmall]
      simp only [dataBufferSizeHighres] at hsize
      omega

theorem maxDescriptorsPerBuffer_pred (size : Nat) :
    maxDescriptorsPerBuffer size - 1 = 4 + 2 * (size / residualRoom) := by
  simp only [maxDescriptorsPerBuffer, residualRoom]
  omega

theorem headerBufferSize_eq (codec : VideoCodec) (size : Nat) :
    headerBufferSize codec (maxDescriptorsPerBuffer size) =
      pesHeaderLengthWithPts + codecHeaderSize codec + 9 * (size / residualRoom) := by
  simp only [headerBufferSize, maxDescriptorsPerBuffer, residualRoom, pesHeaderLengthWithoutPts]
  omega

/-- A frame in a buffer of an accepted size is built exactly when the frame, its config and codec header and what
    the first PES header adds to the packet fit into one packet beside those that the buffer size counts. -/
theorem videoBuildInputFrame_ok_iff {p p' : Port} {m : Nat} (codec : VideoCodec) (ptsReceived : Bool) (pts : Nat)
    (codecHeader payload : List UInt8) (s : FrameBuilder) (hverify : verifyInputPortBuffers p = .ok (p', m))
    (hconfig : s.configBuffer.length ≤ codecConfigBufferSize) (hcodec : codecHeader.length = codecHeaderSize codec)
    (hheader : s.maxHeaderLen = headerBufferSize codec m) :
    (∃ ds, (videoBuildInputFrame codec ptsReceived true pts codecHeader payload (m - 1) s).2.2 = .ok ds) ↔
      payload.length + (pesHeaderLength (videoPts codec ptsReceived pts) - pesHeaderStartBytes) +
          s.pendingConfig.length + codecHeader.length ≤
        maxPesPacketLength + residualRoom * (p'.definition.nBufferSize / residualRoom) := by
  obtain ⟨rfl, hsize⟩ := verifyInputPortBuffers_ok hverify
  have hsmall : codecHeaderSize codec ≤ 10 := by
    unfold codecHeaderSize
    split <;> simp
  have hfit : HeadersFit (videoPts codec ptsReceived pts) s.pendingConfig codecHeader :=
    headersFit_of_limits hconfig (by simp; omega) _
  rw [headerBufferSize_eq, ← hcodec] at hheader
  rw [videoBuildInputFrame_snd, maxDescriptorsPerBuffer_pred]
  exact buildInputFrame_ok_iff hfit hheader

/-- The header buffer of an input buffer before its first frame, without config. -/
def emptyBuilder (maxHeaderLen : Nat) : FrameBuilder :=
  { header := fun _ => 0, maxHeaderLen, headerLen := 0, configBuffer := [], configBufferState := .accumulating }

theorem videoBuildInputFrame_ok_iff_default :
    (∃ ds, (videoBuildInputFrame .vp9 false true 90 (List.replicate 10 0) [1, 2, 3] 76
        (emptyBuilder (headerBufferSize .vp9 77))).2.2 = .ok ds) ↔
      3 + 8 + 0 + 10 ≤ maxPesPacketLength + residualRoom * (dataBufferSizeDefault / residualRoom) :=
  videoBuildInputFrame_ok_iff (p := Port.new 0 12 65536) (m := 77) .vp9 false 90 (List.replicate 10 0) [1, 2, 3]
    (emptyBuilder (headerBufferSize .vp9 77)) rfl (by decide) rfl rfl

/-- In a buffer of 2424683 bytes a full AVC frame with a time stamp needs one packet more than the buffer has
    descriptors and header space for. -/
theorem videoBuildInputFrame_fails_full_buffer :
    ∃ p', verifyInputPortBuffers (Port.new 0 12 2424683) = .ok (p', 77) ∧
      p'.definition.nBufferSize = 2424683 ∧
      ¬ ∃ ds, (videoBuildInputFrame .avc false true 90 [] (List.replicate 2424683 0) (77 - 1)
        (emptyBuilder (headerBufferSize .avc 77))).2.2 = .ok ds := by
  refine ⟨_, rfl, rfl, ?_⟩
  rw [videoBuildInputFrame_snd, show (77 - 1 : Nat) = 4 + 2 * 36 by decide,
    buildInputFrame_ok_iff (headersFit_of_limits (by decide) (by decide) _) (by decide), List.length_replicate]
  decide

end BcmPlatform.Bomx
