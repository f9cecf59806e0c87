import BcmPlatform.Bomx.Pes
import BcmPlatform.Lib.Runs
import BcmPlatform.Theorems.AvSyncStream

/-! A write finds its way through the stream by the markers alone. It goes wrong where a call ends inside a marker, where a
    frame has no payload, and where a call of the playpump fails behind a header that is not written yet. -/

namespace BcmPlatform.Audio
open Lib

variable {m : TunnelFormat} {frames rest : List AvFrame} {n k : Nat} {tail buffer : List UInt8}

/-- The marker is only where a header begins. -/
def MarkersAtHeaders (frames : List AvFrame) : Prop :=
  ∀ p < (encode frames).length, avSyncMarker <+: (encode frames).drop p → p ∈ headerStarts frames

instance (frames : List AvFrame) : Decidable (MarkersAtHeaders frames) := Nat.decidableBallLT _ _

theorem Position.no_marker (h : Position frames n tail rest) (hmarkers : MarkersAtHeaders frames) (hk : k < tail.length) :
    ¬ avSyncMarker <+: (encode frames).drop (n + k) := by
  intro hmarker
  refine h.not_mem_headerStarts hk (hmarkers _ ?_ hmarker)
  have hlength := hmarker.length_le
  rw [List.length_drop] at hlength
  have hpos : 0 < avSyncMarker.length := Nat.succ_pos _
  omega

/-! ### The buffer of a call -/

/-- The place is not inside a marker. -/
def CutOk (frames : List AvFrame) (e : Nat) : Prop := ∀ h ∈ headerStarts frames, ¬ (h < e ∧ e < h + avSyncMarker.length)

/-- The buffer is the stream from `n` on, up to an end that is not inside a marker. -/
structure Slice (frames : List AvFrame) (n : Nat) (buffer : List UInt8) : Prop where
  isPrefix : buffer <+: (encode frames).drop n
  cutOk : buffer ≠ [] → CutOk frames (n + buffer.length)

theorem Slice.nil (frames : List AvFrame) (n : Nat) : Slice frames n [] := ⟨List.nil_prefix, absurd rfl⟩

theorem Slice.drop (h : Slice frames n buffer) (hk : k ≤ buffer.length) : Slice frames (n + k) (buffer.drop k) := by
  refine ⟨?_, fun hne => ?_⟩
  · rw [← List.drop_drop]
    exact h.isPrefix.drop k
  · have hbuffer : buffer ≠ [] := by
      rintro rfl
      exact hne List.drop_nil
    rw [List.length_drop, Nat.add_assoc, Nat.add_sub_cancel' hk]
    exact h.cutOk hbuffer

theorem Slice.take_eq (h : Slice frames n buffer) (hposition : Position frames n tail rest) (hk : k ≤ tail.length)
    (hbuffer : k ≤ buffer.length) : buffer.take k = tail.take k := by
  obtain ⟨more, hmore⟩ := h.isPrefix
  rw [hposition.drop_eq] at hmore
  have htail : (tail ++ encode rest).take k = tail.take k := List.take_append_of_le_length hk
  rw [← htail, ← hmore, List.take_append_of_le_length hbuffer]

theorem Slice.front (h : Slice frames n buffer) {l : List UInt8} (hl : l <+: (encode frames).drop (n + k))
    (hlength : k + l.length ≤ buffer.length) : l <+: buffer.drop k := by
  rw [← List.drop_drop] at hl
  refine List.prefix_of_prefix_length_le hl (h.isPrefix.drop k) ?_
  rw [List.length_drop]
  omega

theorem Slice.memmem_some (h : Slice frames n buffer) {f : AvFrame} (hposition : Position frames n tail (f :: rest))
    (hmarkers : MarkersAtHeaders frames) (hlength : tail.length < buffer.length) :
    memmem avSyncMarker buffer = some tail.length := by
  have hcut := h.cutOk (List.ne_nil_of_length_pos (Nat.zero_lt_of_lt hlength)) _ hposition.mem_headerStarts
  refine memmem_eq_some (List.cons_ne_nil _ _) (h.front ?_ (by omega)) fun p hp hmarker => ?_
  · have hnext := hposition.skip (Nat.le_refl _)
    rw [List.drop_length] at hnext
    rw [hnext.drop_eq, List.nil_append, encode, List.flatMap_cons, AvFrame.bytes, AvFrame.header, List.append_assoc,
      List.append_assoc]
    exact List.prefix_append _ _
  · refine hposition.no_marker hmarkers hp (hmarker.trans ?_)
    rw [← List.drop_drop]
    exact h.isPrefix.drop p

theorem Slice.memmem_none (h : Slice frames n buffer) (hposition : Position frames n tail rest)
    (hmarkers : MarkersAtHeaders frames) (hlength : buffer.length ≤ tail.length) : memmem avSyncMarker buffer = none := by
  refine memmem_eq_none fun p hmarker => ?_
  have hle := hmarker.length_le
  have hpos : 0 < avSyncMarker.length := Nat.succ_pos _
  rw [List.length_drop] at hle
  refine hposition.no_marker hmarkers (k := p) (by omega) (hmarker.trans ?_)
  rw [← List.drop_drop]
  exact h.isPrefix.drop p

theorem Slice.exists_frame (h : Slice frames n buffer) (hposition : Position frames n tail rest)
    (hlength : tail.length < buffer.length) : ∃ f rest', rest = f :: rest' := by
  have hle := h.isPrefix.length_le
  rw [hposition.drop_eq, List.length_append] at hle
  cases rest with
  | nil =>
    rw [encode, List.flatMap_nil, List.length_nil] at hle
    omega
  | cons f rest' => exact ⟨f, rest', rfl⟩

/-! ### A call -/

/-- No header is pending: the buffer goes on at `n`, and what the inner loop wants to deliver is payload. -/
structure Between (frames : List AvFrame) (n : Nat) (tail : List UInt8) (c : WriteCall) : Prop where
  slice : Slice frames n c.buffer
  frame : ∀ f, c.frame = some f → f.writeHeader = false ∧ 0 < f.frameBytes ∧ f.frameBytes ≤ tail.length ∧
    f.frameBytes ≤ c.buffer.length

/-- The header at `n` is pending: the buffer goes on behind it. -/
structure Pending (frames : List AvFrame) (n : Nat) (f : AvFrame) (c : WriteCall) : Prop where
  slice : Slice frames (n + hwAvSyncHdrLen) c.buffer
  frame : c.frame = some { frameBytes := f.payload.length, writeHeader := true, pts := f.pts }

/-- A call is at a place of the stream, and everything before it is delivered. -/
structure CallOk (m : TunnelFormat) (frames : List AvFrame) (counted : Nat) (delivered : List UInt8) (c : WriteCall)
    (tail : List UInt8) (rest : List AvFrame) : Prop where
  position : Position frames (counted + c.bytesWritten) tail rest
  delivered : delivered = outputUpTo m frames (counted + c.bytesWritten)
  place : Between frames (counted + c.bytesWritten) tail c ∨
    ∃ f rest', tail = [] ∧ rest = f :: rest' ∧ Pending frames (counted + c.bytesWritten) f c
  ret : c.bytesWritten = 0 → 0 < c.ret → tail ≠ [] ∧ c.buffer ≠ []

/-- Everything that is counted is delivered. -/
def WriterOk (m : TunnelFormat) (frames : List AvFrame) (s : TunnelWriter) : Prop :=
  match s.call with
  | none => (∃ tail rest, Position frames s.counted tail rest) ∧ s.delivered = outputUpTo m frames s.counted
  | some c => ∃ tail rest, CallOk m frames s.counted s.delivered c tail rest

variable {s s' : TunnelWriter} {c : WriteCall}

theorem CallOk.between (h : CallOk m frames s.counted s.delivered c tail rest) (hframe : c.frame = none) :
    Between frames (s.counted + c.bytesWritten) tail c := by
  refine h.place.resolve_right ?_
  rintro ⟨f, rest', -, -, hpending⟩
  rw [hpending.frame] at hframe
  cases hframe

theorem returned_counted (s : TunnelWriter) (hret : c.bytesWritten = 0 → c.ret ≤ 0) :
    s.returned c.returnValue = { s with counted := s.counted + c.bytesWritten, call := none } := by
  have hvalue : c.returnValue.toNat = c.bytesWritten := by
    unfold WriteCall.returnValue
    split
    · next hzero => rw [hzero, Int.toNat_of_nonpos (hret hzero)]
    · exact Int.toNat_natCast _
  rw [TunnelWriter.returned, hvalue]

theorem CallOk.returned (h : CallOk m frames s.counted s.delivered c tail rest) (hret : c.bytesWritten = 0 → c.ret ≤ 0) :
    WriterOk m frames (s.returned c.returnValue) := by
  rw [returned_counted s hret]
  exact ⟨⟨tail, rest, h.position⟩, h.delivered⟩

theorem Slice.header_prefix (h : Slice frames n buffer) {f : AvFrame} (hposition : Position frames n [] (f :: rest))
    (hlength : hwAvSyncHdrLen ≤ buffer.length) : ∃ more, buffer = f.header ++ more := by
  have hfront : f.header <+: buffer.drop 0 := by
    refine h.front ?_ (by rw [AvFrame.length_header]; omega)
    rw [Nat.add_zero, hposition.drop_eq, List.nil_append, encode, List.flatMap_cons, AvFrame.bytes, List.append_assoc]
    exact List.prefix_append _ _
  obtain ⟨more, hmore⟩ := hfront
  exact ⟨more, hmore.symm⟩

theorem WriteCall.search_header (h : memmem avSyncMarker c.buffer = some 0) (hbuffer : c.buffer ≠ []) :
    c.search = if c.buffer.length < hwAvSyncHdrLen then none
      else some { c with
        buffer := c.buffer.drop hwAvSyncHdrLen
        frame := if loadUint32Be c.buffer 4 = 0 then none
          else some { frameBytes := loadUint32Be c.buffer 4, writeHeader := true, pts := headerPts c.buffer } } := by
  rw [search, if_neg hbuffer, h]
  rfl

theorem WriteCall.search_next (h : memmem avSyncMarker c.buffer = some (k + 1)) (hbuffer : c.buffer ≠ []) :
    c.search = some { c with frame := some { frameBytes := k + 1 } } := by
  rw [search, if_neg hbuffer, h]
  rfl

theorem WriteCall.search_rest (h : memmem avSyncMarker c.buffer = none) (hbuffer : c.buffer ≠ []) :
    c.search = some { c with frame := some { frameBytes := c.buffer.length } } := by
  rw [search, if_neg hbuffer, h]

/-- The state after the outer loop came to its next piece. -/
def TunnelWriter.searched (s : TunnelWriter) (c : WriteCall) : TunnelWriter :=
  match c.search with
  | none => s.returned c.returnValue
  | some c => { s with call := some c }

/-- The outer loop comes to its next piece, which is payload up to the next header or the end of the buffer, or a header;
    or the call returns, when it has nothing left or not all of a header. -/
theorem CallOk.search (h : CallOk m frames s.counted s.delivered c tail rest) (hframe : c.frame = none)
    (hmarkers : MarkersAtHeaders frames) (hfits : ∀ f ∈ frames, f.Fits) (hpayload : ∀ f ∈ frames, f.payload ≠ []) :
    (c.search = none ∧ (c.bytesWritten = 0 → c.ret ≤ 0) ∧ (c.buffer = [] ∨ c.buffer.length < hwAvSyncHdrLen ∧
      s.counted + c.bytesWritten + hwAvSyncHdrLen ≤ (encode frames).length)) ∨
    ∃ c' tail rest, c.search = some c' ∧ c'.frame ≠ none ∧ CallOk m frames s.counted s.delivered c' tail rest := by
  have hbetween := h.between hframe
  by_cases hbuffer : c.buffer = []
  · exact .inl ⟨if_pos hbuffer, fun hzero => Int.not_lt.mp fun hpos => (h.ret hzero hpos).2 hbuffer, .inl hbuffer⟩
  have hpos : 0 < c.buffer.length := List.length_pos_iff.mpr hbuffer
  rcases Nat.lt_or_ge tail.length c.buffer.length with hlonger | hshorter
  · obtain ⟨f, rest', rfl⟩ := hbetween.slice.exists_frame h.position hlonger
    have hnext := hbetween.slice.memmem_some h.position hmarkers hlonger
    cases tail with
    | nil =>
      have hret : c.bytesWritten = 0 → c.ret ≤ 0 := fun hzero => Int.not_lt.mp fun hpos => (h.ret hzero hpos).1 rfl
      have hsearch := WriteCall.search_header hnext hbuffer
      rcases Nat.lt_or_ge c.buffer.length hwAvSyncHdrLen with hshort | hlength
      · exact .inl ⟨hsearch.trans (if_pos hshort), hret, .inr ⟨hshort, h.position.header_le⟩⟩
      · obtain ⟨more, hmore⟩ := hbetween.slice.header_prefix h.position hlength
        have hf : f ∈ frames := h.position.mem_frames f List.mem_cons_self
        have hload : loadUint32Be c.buffer 4 = f.payload.length := hmore ▸ AvFrame.load_size (hfits f hf)
        have hpts : headerPts c.buffer = f.pts := hmore ▸ AvFrame.header_pts (hfits f hf)
        rw [if_neg (Nat.not_lt.mpr hlength), hload, hpts, if_neg (mt List.length_eq_zero_iff.mp (hpayload f hf))] at hsearch
        exact .inr ⟨_, [], f :: rest', hsearch, nofun, h.position, h.delivered,
          .inr ⟨f, rest', rfl, rfl, hbetween.slice.drop hlength, rfl⟩,
          fun hzero hpos => absurd (hret hzero) (Int.not_le.mpr hpos)⟩
    | cons b tail =>
      refine .inr ⟨_, b :: tail, f :: rest', WriteCall.search_next hnext hbuffer, nofun, h.position, h.delivered,
        .inl ⟨hbetween.slice, fun g hg => ?_⟩, fun _ _ => ⟨List.cons_ne_nil _ _, hbuffer⟩⟩
      cases hg
      exact ⟨rfl, Nat.succ_pos _, Nat.le_refl _, Nat.le_of_lt hlonger⟩
  · have hnone := hbetween.slice.memmem_none h.position hmarkers hshorter
    refine .inr ⟨_, tail, rest, WriteCall.search_rest hnone hbuffer, nofun, h.position, h.delivered,
      .inl ⟨hbetween.slice, fun g hg => ?_⟩, h.ret⟩
    cases hg
    exact ⟨rfl, hpos, hshorter, Nat.le_refl _⟩

/-! ### The inner loop -/

/-- What an iteration of the inner loop fails with; 0 when it does not. -/
def PumpAnswer.error (a : PumpAnswer) (spaceRequired : Nat) : Int :=
  if !a.getBuffer then enosys
  else if spaceRequired ≤ a.space || a.bufferEnd then a.writeComplete
  else if a.waited then 0 else enosys

/-- How much of the buffer is delivered. -/
def FrameLoop.taken (f : FrameLoop) (c : WriteCall) : Nat :=
  if f.writeHeader then min f.frameBytes c.buffer.length else f.frameBytes

theorem WriteCall.pump_failed {a : PumpAnswer} {f : FrameLoop} (h : a.error (c.spaceRequired m f) ≠ 0) :
    c.pump m a f = ({ c with ret := a.error (c.spaceRequired m f), frame := none }, []) := by
  revert h
  unfold PumpAnswer.error WriteCall.pump
  cases a.getBuffer with
  | false => exact fun _ => rfl
  | true =>
    by_cases hspace : c.spaceRequired m f ≤ a.space
    · simp only [hspace, decide_true, Bool.true_or, if_true, Bool.not_true, Bool.false_eq_true, if_false]
      exact fun h => if_pos h
    · cases hend : a.bufferEnd <;> cases hwaited : a.waited <;>
        simp +contextual [hspace]

theorem WriteCall.pump_succeeded {a : PumpAnswer} {f : FrameLoop} (h : a.error (c.spaceRequired m f) = 0) :
    a.space < c.spaceRequired m f ∧ c.pump m a f = ({ c with ret := 0 }, []) ∨
      c.spaceRequired m f ≤ a.space ∧
      c.pump m a f = ({ buffer := c.buffer.drop (f.taken c)
                        bytesWritten := c.bytesWritten + f.taken c + if f.writeHeader then hwAvSyncHdrLen else 0
                        ret := 0
                        frame := none },
        (if f.writeHeader then m.header f.frameBytes f.pts else []) ++ c.buffer.take (f.taken c)) := by
  revert h
  unfold PumpAnswer.error WriteCall.pump
  cases a.getBuffer with
  | false => exact nofun
  | true =>
    by_cases hspace : c.spaceRequired m f ≤ a.space
    · simp only [hspace, decide_true, Bool.true_or, if_true, Bool.not_true, Bool.false_eq_true, if_false]
      exact fun h => .inr ⟨trivial, if_neg (not_not.mpr h)⟩
    · have hless : a.space < c.spaceRequired m f := Nat.lt_of_not_le hspace
      cases hend : a.bufferEnd <;> cases hwaited : a.waited <;> simp +contextual [hspace, hless, enosys]

theorem CallOk.delivered_payload {f : FrameLoop} (h : CallOk m frames s.counted s.delivered c tail rest)
    (hbetween : Between frames (s.counted + c.bytesWritten) tail c) (hframe : c.frame = some f) :
    CallOk m frames s.counted (s.delivered ++ c.buffer.take f.frameBytes)
      { buffer := c.buffer.drop f.frameBytes, bytesWritten := c.bytesWritten + f.frameBytes, ret := 0, frame := none }
      (tail.drop f.frameBytes) rest := by
  obtain ⟨-, -, htail, hbuffer⟩ := hbetween.frame f hframe
  have hposition := h.position.skip htail
  have hslice := hbetween.slice.drop hbuffer
  have houtput := h.position.output_skip (m := m) htail
  rw [Nat.add_assoc] at hposition hslice houtput
  refine ⟨hposition, ?_, .inl ⟨hslice, nofun⟩, fun _ hpos => absurd hpos (Int.lt_irrefl 0)⟩
  rw [houtput, ← h.delivered, hbetween.slice.take_eq h.position htail hbuffer]

theorem CallOk.delivered_header {f : AvFrame} {rest : List AvFrame}
    (h : CallOk m frames s.counted s.delivered c [] (f :: rest))
    (hpending : Pending frames (s.counted + c.bytesWritten) f c) :
    CallOk m frames s.counted
      (s.delivered ++ (m.header f.payload.length f.pts ++ c.buffer.take (min f.payload.length c.buffer.length)))
      { buffer := c.buffer.drop (min f.payload.length c.buffer.length)
        bytesWritten := c.bytesWritten + min f.payload.length c.buffer.length + hwAvSyncHdrLen, ret := 0, frame := none }
      (f.payload.drop (min f.payload.length c.buffer.length)) rest := by
  have hpayload : min f.payload.length c.buffer.length ≤ f.payload.length := Nat.min_le_left _ _
  have hbuffer : min f.payload.length c.buffer.length ≤ c.buffer.length := Nat.min_le_right _ _
  generalize min f.payload.length c.buffer.length = k at hpayload hbuffer ⊢
  have hheader := h.position.header
  have hplace : s.counted + c.bytesWritten + hwAvSyncHdrLen + k = s.counted + (c.bytesWritten + k + hwAvSyncHdrLen) := by
    omega
  have hposition := hheader.skip hpayload
  have hslice := hpending.slice.drop hbuffer
  have houtput := hheader.output_skip (m := m) hpayload
  rw [h.position.output_header, hplace, ← h.delivered] at houtput
  rw [hplace] at hposition hslice
  refine ⟨hposition, ?_, .inl ⟨hslice, nofun⟩, fun _ hpos => absurd hpos (Int.lt_irrefl 0)⟩
  rw [houtput, hpending.slice.take_eq hheader hpayload hbuffer, List.append_assoc]

/-- An iteration that does not fail behind a pending header, or only where the call has nothing more and returns what it
    had before. -/
def pumpKept (m : TunnelFormat) (a : PumpAnswer) (f : FrameLoop) (c : WriteCall) : Bool :=
  !f.writeHeader || a.error (c.spaceRequired m f) = 0 ||
    c.buffer = [] && (c.bytesWritten ≠ 0 || a.error (c.spaceRequired m f) ≤ 0)

theorem CallOk.pump {a : PumpAnswer} {f : FrameLoop} (h : CallOk m frames s.counted s.delivered c tail rest) (hframe : c.frame = some f)
    (hkept : pumpKept m a f c = true) : ∃ tail rest,
      CallOk m frames s.counted (s.delivered ++ (c.pump m a f).2) (c.pump m a f).1 tail rest := by
  by_cases hfails : a.error (c.spaceRequired m f) = 0
  · rcases WriteCall.pump_succeeded hfails with ⟨-, heq⟩ | ⟨-, heq⟩
    · rw [heq, List.append_nil]
      refine ⟨tail, rest, h.position, h.delivered, h.place.imp (fun hbetween => ⟨hbetween.slice, hbetween.frame⟩) ?_,
        fun _ hpos => absurd hpos (Int.lt_irrefl 0)⟩
      rintro ⟨g, rest', htail, hrest, hpending⟩
      exact ⟨g, rest', htail, hrest, hpending.slice, hpending.frame⟩
    · rw [heq]
      rcases h.place with hbetween | ⟨g, rest', rfl, rfl, hpending⟩
      · obtain ⟨hheader, -⟩ := hbetween.frame f hframe
        simp only [FrameLoop.taken, hheader, Bool.false_eq_true, if_false, List.nil_append, Nat.add_zero]
        exact ⟨_, _, h.delivered_payload hbetween hframe⟩
      · obtain rfl : f = _ := Option.some.inj (hframe.symm.trans hpending.frame)
        simp only [FrameLoop.taken, if_true]
        exact ⟨_, _, h.delivered_header hpending⟩
  · rw [WriteCall.pump_failed hfails, List.append_nil]
    rcases h.place with hbetween | ⟨g, rest', rfl, rfl, hpending⟩
    · obtain ⟨-, hpos, htail, hbuffer⟩ := hbetween.frame f hframe
      refine ⟨tail, rest, h.position, h.delivered, .inl ⟨hbetween.slice, nofun⟩, fun _ _ => ⟨?_, ?_⟩⟩
      · exact List.ne_nil_of_length_pos (Nat.lt_of_lt_of_le hpos htail)
      · exact List.ne_nil_of_length_pos (Nat.lt_of_lt_of_le hpos hbuffer)
    · -- The header is not written, and there is nothing behind it: the call returns what it had before.
      obtain rfl : f = _ := Option.some.inj (hframe.symm.trans hpending.frame)
      simp only [pumpKept, Bool.not_true, Bool.false_or, hfails, decide_false, Bool.and_eq_true, Bool.or_eq_true,
        decide_eq_true_eq] at hkept
      obtain ⟨hnothing, hret⟩ := hkept
      refine ⟨[], g :: rest', h.position, h.delivered, .inl ⟨?_, nofun⟩, fun hzero hpos => ?_⟩
      · dsimp only
        rw [hnothing]
        exact .nil _ _
      · exact absurd (hret.resolve_left (not_not.mpr hzero)) (Int.not_le.mpr hpos)

/-! ### Runs -/

/-- A call does not end inside a marker, and no call of the playpump fails behind a pending header. -/
def writeKept (m : TunnelFormat) (frames : List AvFrame) (s : TunnelWriter) : WriteAction → Bool
  | .call bytes ready => !ready || (headerStarts frames).all fun h =>
      !(h < min (s.counted + bytes) (encode frames).length &&
        min (s.counted + bytes) (encode frames).length < h + avSyncMarker.length)
  | .search => true
  | .pump a => s.call.all fun c => c.frame.all fun f => pumpKept m a f c

theorem WriterOk.call {bytes : Nat} (hidle : s.call = none) (h : WriterOk m frames s)
    (hkept : writeKept m frames s (.call bytes true) = true) :
    WriterOk m frames { s with call := some { buffer := ((encode frames).drop s.counted).take bytes } } := by
  rw [WriterOk, hidle] at h
  obtain ⟨⟨tail, rest, hposition⟩, hdelivered⟩ := h
  refine ⟨tail, rest, hposition, hdelivered, .inl ⟨⟨List.take_prefix _ _, fun hne p hp => ?_⟩, nofun⟩,
    fun _ hpos => absurd hpos (Int.lt_irrefl 0)⟩
  have hlt : s.counted < (encode frames).length := by
    by_contra hge
    rw [List.drop_eq_nil_of_le (Nat.not_lt.mp hge), List.take_nil] at hne
    exact hne rfl
  have hend : s.counted + 0 + (((encode frames).drop s.counted).take bytes).length =
      min (s.counted + bytes) (encode frames).length := by
    rw [List.length_take, List.length_drop]
    omega
  simp only [writeKept, Bool.not_true, Bool.false_or, List.all_eq_true, Bool.not_eq_true', Bool.and_eq_false_iff,
    decide_eq_false_iff_not] at hkept
  rw [hend]
  exact not_and_or.mpr (hkept p hp)

theorem WriterOk.step (h : WriterOk m frames s) {a : WriteAction} (hmarkers : MarkersAtHeaders frames)
    (hfits : ∀ f ∈ frames, f.Fits) (hpayload : ∀ f ∈ frames, f.payload ≠ []) (hkept : writeKept m frames s a = true)
    (hstep : s.step m (encode frames) a = some s') : WriterOk m frames s' := by
  cases hcall : s.call with
  | none =>
    cases a with
    | call bytes ready =>
      simp only [TunnelWriter.step, hcall, Option.some.injEq] at hstep
      subst hstep
      cases ready with
      | true => exact h.call hcall hkept
      | false =>
        rw [WriterOk, hcall] at h
        exact h
    | search => simp [TunnelWriter.step, hcall] at hstep
    | pump a => simp [TunnelWriter.step, hcall] at hstep
  | some c =>
    have hc := h
    rw [WriterOk, hcall] at hc
    obtain ⟨tail, rest, hc⟩ := hc
    cases a with
    | call bytes ready => simp [TunnelWriter.step, hcall] at hstep
    | search =>
      cases hframe : c.frame with
      | some f => simp [TunnelWriter.step, hcall, hframe] at hstep
      | none =>
        simp only [TunnelWriter.step, hcall, hframe, Option.isSome_none, Bool.false_eq_true, if_false,
          Option.some.injEq] at hstep
        subst hstep
        rcases hc.search hframe hmarkers hfits hpayload with ⟨hnone, hret, -⟩ | ⟨c', tail', rest', hsome, -, hc'⟩
        · rw [hnone]
          exact hc.returned hret
        · rw [hsome]
          exact ⟨tail', rest', hc'⟩
    | pump a =>
      cases hframe : c.frame with
      | none => simp [TunnelWriter.step, hcall, hframe] at hstep
      | some f =>
        simp only [TunnelWriter.step, hcall, hframe, Option.some.injEq] at hstep
        subst hstep
        simp only [writeKept, hcall, Option.all_some, hframe] at hkept
        exact hc.pump hframe hkept

/-! ### The end of the stream -/

/-- The bytes of the stream that the call has and has not counted. -/
def WriteCall.open (c : WriteCall) : Nat := c.buffer.length + if c.frame.any (·.writeHeader) then hwAvSyncHdrLen else 0

theorem WriteCall.search_open {c' : WriteCall} (hframe : c.frame = none) (hsearch : c.search = some c')
    (hframe' : c'.frame ≠ none) : c'.open = c.open ∧ c'.bytesWritten = c.bytesWritten := by
  by_cases hbuffer : c.buffer = []
  · rw [search, if_pos hbuffer] at hsearch
    cases hsearch
  have hopen : c.open = c.buffer.length := by rw [WriteCall.open, hframe]; rfl
  rcases hm : memmem avSyncMarker c.buffer with - | (- | k)
  · rw [search_rest hm hbuffer] at hsearch
    cases hsearch
    exact ⟨hopen.symm, rfl⟩
  · rw [search_header hm hbuffer] at hsearch
    by_cases hsize : loadUint32Be c.buffer 4 = 0
    · rw [if_pos hsize] at hsearch
      split at hsearch <;> cases hsearch
      exact absurd rfl hframe'
    · rw [if_neg hsize] at hsearch
      split at hsearch <;> cases hsearch
      next hlength =>
        refine ⟨?_, rfl⟩
        rw [hopen, WriteCall.open, List.length_drop]
        exact Nat.sub_add_cancel (Nat.not_lt.mp hlength)
  · rw [search_next hm hbuffer] at hsearch
    cases hsearch
    exact ⟨hopen.symm, rfl⟩

theorem WriteCall.pump_open {a : PumpAnswer} {f : FrameLoop} (hframe : c.frame = some f)
    (hpos : f.writeHeader = true ∨ 0 < f.frameBytes ∧ f.frameBytes ≤ c.buffer.length)
    (hpump : (c.pump m a f).1 = { buffer := c.buffer.drop (f.taken c)
                                  bytesWritten := c.bytesWritten + f.taken c + if f.writeHeader then hwAvSyncHdrLen else 0
                                  ret := 0
                                  frame := none }) :
    ∃ k, 0 < k ∧ (c.pump m a f).1.bytesWritten = c.bytesWritten + k ∧
      (c.pump m a f).1.open + k = c.open ∧ (c.pump m a f).1.frame = none := by
  have htaken : f.taken c ≤ c.buffer.length := by
    unfold FrameLoop.taken
    split
    · exact Nat.min_le_right _ _
    · next hheader => exact (hpos.resolve_left hheader).2
  have hopen : c.open = c.buffer.length + if f.writeHeader then hwAvSyncHdrLen else 0 := by
    rw [WriteCall.open, hframe]
    rfl
  rw [hpump]
  refine ⟨f.taken c + if f.writeHeader then hwAvSyncHdrLen else 0, ?_, Nat.add_assoc _ _ _, ?_, rfl⟩
  · rcases hpos with hheader | ⟨hpos, -⟩
    · rw [if_pos hheader]
      exact Nat.add_pos_right _ (Nat.succ_pos _)
    · unfold FrameLoop.taken
      split
      · exact Nat.add_pos_right _ (Nat.succ_pos _)
      · exact hpos
  · rw [hopen, WriteCall.open, List.length_drop]
    simp only [Option.any_none, Bool.false_eq_true, if_false]
    omega

/-- There is room for everything. -/
def PumpAnswer.room (m : TunnelFormat) (f : FrameLoop) (c : WriteCall) : PumpAnswer := { space := c.spaceRequired m f }

theorem WriteCall.pump_room {f : FrameLoop} (hframe : c.frame = some f)
    (hpos : f.writeHeader = true ∨ 0 < f.frameBytes ∧ f.frameBytes ≤ c.buffer.length) :
    ∃ k, 0 < k ∧ (c.pump m (.room m f c) f).1.bytesWritten = c.bytesWritten + k ∧
      (c.pump m (.room m f c) f).1.open + k = c.open ∧ (c.pump m (.room m f c) f).1.frame = none :=
  WriteCall.pump_open hframe hpos (by simp [WriteCall.pump, PumpAnswer.room, FrameLoop.taken])

theorem PumpAnswer.room_kept (m : TunnelFormat) (f : FrameLoop) (c : WriteCall) : pumpKept m (.room m f c) f c = true := by
  simp [pumpKept, PumpAnswer.room, PumpAnswer.error]

/-- What the steps may do in a run. -/
def Writes (m : TunnelFormat) (frames : List AvFrame) : TunnelWriter → TunnelWriter → Prop :=
  Reaches (TunnelWriter.step m (encode frames)) fun s a => writeKept m frames s a = true

theorem step_search (hcall : s.call = some c) (hframe : c.frame = none) :
    s.step m (encode frames) .search = some (s.searched c) := by
  simp only [TunnelWriter.step, hcall, hframe, Option.isSome_none, Bool.false_eq_true, if_false]
  rfl

theorem step_pump {f : FrameLoop} (hcall : s.call = some c) (hframe : c.frame = some f) (a : PumpAnswer) :
    s.step m (encode frames) (.pump a) =
      some { s with call := some (c.pump m a f).1, delivered := s.delivered ++ (c.pump m a f).2 } := by
  simp only [TunnelWriter.step, hcall, hframe]

theorem CallOk.frame_pos {f : FrameLoop} (h : CallOk m frames s.counted s.delivered c tail rest) (hframe : c.frame = some f) :
    f.writeHeader = true ∨ 0 < f.frameBytes ∧ f.frameBytes ≤ c.buffer.length := by
  rcases h.place with hbetween | ⟨g, rest', -, -, hpending⟩
  · obtain ⟨-, hpos, -, hbuffer⟩ := hbetween.frame f hframe
    exact .inr ⟨hpos, hbuffer⟩
  · obtain rfl : f = _ := Option.some.inj (hframe.symm.trans hpending.frame)
    exact .inl rfl

theorem CallOk.returns (hmarkers : MarkersAtHeaders frames) (hfits : ∀ f ∈ frames, f.Fits)
    (hpayload : ∀ f ∈ frames, f.payload ≠ []) (hcall : s.call = some c)
    (h : CallOk m frames s.counted s.delivered c tail rest) (hframe : c.frame = none) :
    ∃ s', Writes m frames s s' ∧ s'.call = none ∧ WriterOk m frames s' ∧
      (s.counted + c.bytesWritten + c.open = (encode frames).length → s'.counted = (encode frames).length) := by
  induction hopen : c.open using Nat.strong_induction_on generalizing s c tail rest with
  | h k ih =>
    have hstep : s.step m (encode frames) .search = some (s.searched c) := step_search hcall hframe
    rcases h.search hframe hmarkers hfits hpayload with ⟨hnone, hret, hend⟩ | ⟨c', tail', rest', hsome, hne, h'⟩
    · have hdone : s.searched c = s.returned c.returnValue := by rw [TunnelWriter.searched, hnone]
      rw [hdone] at hstep
      refine ⟨_, .step .init rfl hstep, rfl, h.returned hret, fun hall => ?_⟩
      have hlength : c.open = c.buffer.length := by rw [WriteCall.open, hframe]; rfl
      rw [returned_counted s hret]
      rcases hend with hnil | ⟨hshort, hle⟩
      · rw [hnil, List.length_nil] at hlength
        rwa [← hopen, hlength] at hall
      · omega
    · obtain ⟨f, hf⟩ := Option.ne_none_iff_exists'.mp hne
      obtain ⟨hopen', hwritten'⟩ := WriteCall.search_open hframe hsome hne
      have hsearched : s.searched c = { s with call := some c' } := by rw [TunnelWriter.searched, hsome]
      rw [hsearched] at hstep
      obtain ⟨j, hj, hwritten, hless, hnone⟩ := WriteCall.pump_room (m := m) hf (h'.frame_pos hf)
      obtain ⟨tail'', rest'', h''⟩ := h'.pump hf (PumpAnswer.room_kept m f c')
      have hpump : TunnelWriter.step m (encode frames) { s with call := some c' } (.pump (.room m f c')) = _ :=
        step_pump rfl hf (.room m f c')
      let t : TunnelWriter := { s with
        call := some (c'.pump m (.room m f c') f).1
        delivered := s.delivered ++ (c'.pump m (.room m f c') f).2 }
      obtain ⟨s', hrun, hidle, hok, hall⟩ := ih _ (by omega) (s := t) rfl h'' hnone rfl
      have hsteps : Writes m frames s t := by
        refine .step (.step .init rfl hstep) ?_ hpump
        simp only [writeKept, Option.all_some, hf]
        exact PumpAnswer.room_kept m f c'
      refine ⟨s', hsteps.trans hrun, hidle, hok, fun htotal => hall ?_⟩
      change s.counted + _ + _ = _
      omega

theorem WriterOk.completes (hmarkers : MarkersAtHeaders frames) (hfits : ∀ f ∈ frames, f.Fits)
    (hpayload : ∀ f ∈ frames, f.payload ≠ []) (h : WriterOk m frames s) :
    ∃ s', Writes m frames s s' ∧ s'.call = none ∧ s'.counted = (encode frames).length := by
  -- From between two calls: everything that is left, with enough room.
  have hidle : ∀ s, WriterOk m frames s → s.call = none →
      ∃ s', Writes m frames s s' ∧ s'.call = none ∧ s'.counted = (encode frames).length := by
    intro s h hcall
    have hle : s.counted ≤ (encode frames).length := by
      rw [WriterOk, hcall] at h
      obtain ⟨⟨tail, rest, hposition⟩, -⟩ := h
      exact hposition.le
    have hkept : writeKept m frames s (.call ((encode frames).length - s.counted) true) = true := by
      rw [writeKept, Nat.add_sub_cancel' hle, Nat.min_self, Bool.or_eq_true]
      refine .inr (List.all_eq_true.mpr fun p hp => ?_)
      have hend := headerStarts_le hp
      have hmarker : avSyncMarker.length ≤ hwAvSyncHdrLen := by decide
      simp only [Bool.not_eq_true', Bool.and_eq_false_iff, decide_eq_false_iff_not]
      exact .inr (by omega)
    obtain ⟨tail, rest, hc⟩ := h.call hcall hkept
    obtain ⟨s', hrun, hidle, -, hall⟩ := hc.returns hmarkers hfits hpayload rfl rfl
    refine ⟨s', Reaches.trans (.step .init hkept ?_) hrun, hidle, hall ?_⟩
    · rw [TunnelWriter.step, hcall]
      rfl
    · simp only [WriteCall.open, List.length_take, List.length_drop, Option.any_none, Bool.false_eq_true, if_false]
      omega
  -- From inside a call: the piece that is in hand, and what the call has besides.
  cases hcall : s.call with
  | none => exact hidle s h hcall
  | some c =>
    have hc := h
    rw [WriterOk, hcall] at hc
    obtain ⟨tail, rest, hc⟩ := hc
    cases hframe : c.frame with
    | none =>
      obtain ⟨s₁, hrun, hnone, hok, -⟩ := hc.returns hmarkers hfits hpayload hcall hframe
      obtain ⟨s', hrest, hend⟩ := hidle s₁ hok hnone
      exact ⟨s', hrun.trans hrest, hend⟩
    | some f =>
      obtain ⟨tail', rest', hc'⟩ := hc.pump hframe (PumpAnswer.room_kept m f c)
      obtain ⟨k, -, -, -, hnone⟩ := WriteCall.pump_room (m := m) hframe (hc.frame_pos hframe)
      let t : TunnelWriter := { s with
        call := some (c.pump m (.room m f c) f).1
        delivered := s.delivered ++ (c.pump m (.room m f c) f).2 }
      obtain ⟨s₁, hrun, hidle₁, hok, -⟩ := CallOk.returns (s := t) hmarkers hfits hpayload rfl hc' hnone
      obtain ⟨s', hrest, hend⟩ := hidle s₁ hok hidle₁
      refine ⟨s', Reaches.trans (.step .init ?_ (step_pump hcall hframe (.room m f c))) (hrun.trans hrest), hend⟩
      simp only [writeKept, hcall, Option.all_some, hframe]
      exact PumpAnswer.room_kept m f c

/-- What is counted is delivered, with one header for each frame; it is all of the output at the end of the stream, and
    the end can be reached. -/
structure Framed (m : TunnelFormat) (frames : List AvFrame) (s : TunnelWriter) : Prop where
  delivered : s.delivered = outputUpTo m frames (s.counted + (s.call.map (·.bytesWritten)).getD 0)
  complete : s.call = none → s.counted = (encode frames).length → s.delivered = frames.flatMap (AvFrame.output m)
  completes : ∃ s', Writes m frames s s' ∧ s'.call = none ∧ s'.counted = (encode frames).length

/-- In every run of writes in which no call ends inside a marker and no call of the playpump fails behind a pending header,
    a stream of frames that have a payload is framed. -/
theorem writes_framed (m : TunnelFormat) (frames : List AvFrame) (hmarkers : MarkersAtHeaders frames)
    (hfits : ∀ f ∈ frames, f.Fits) (hpayload : ∀ f ∈ frames, f.payload ≠ []) (s : TunnelWriter)
    (h : Reaches (TunnelWriter.step m (encode frames)) (fun s a => writeKept m frames s a = true) {} s) :
    Framed m frames s := by
  have hinit : WriterOk m frames {} := by
    rw [WriterOk]
    exact ⟨⟨[], frames, .start frames⟩, (outputUpTo_zero frames).symm⟩
  have hok : WriterOk m frames s :=
    h.invariant (P := WriterOk m frames) hinit fun _ _ _ hs hkept hstep => hs.step hmarkers hfits hpayload hkept hstep
  have hdelivered : s.delivered = outputUpTo m frames (s.counted + (s.call.map (·.bytesWritten)).getD 0) := by
    unfold WriterOk at hok
    cases hcall : s.call with
    | none =>
      rw [hcall] at hok
      exact hok.2
    | some c =>
      rw [hcall] at hok
      obtain ⟨tail, rest, hc⟩ := hok
      exact hc.delivered
  refine ⟨hdelivered, fun hcall hall => ?_, hok.completes hmarkers hfits hpayload⟩
  rw [hdelivered, hcall, hall]
  exact outputUpTo_all (Nat.le_add_right _ _)

/-- A PCM stream with headers of 14 bytes. -/
def pcmStream : TunnelFormat where
  pcmFormat := true
  pesHeaderMaxSize := 26
  waveformatexBaseSize := 18
  frameBcma := [0x42, 0x43, 0x4D, 0x41]
  pesHeaderInit := fun length pts => Bomx.pesHeader 0xC0 (some pts) (length + 8)
  waveformatex := List.replicate 18 0

/-- Two frames. -/
def twoFrames : List AvFrame := [{ payload := [1, 2, 3], timestamp := 0 }, { payload := [4, 5], timestamp := 20000000 }]

/-- The first call has two bytes of the first payload; the second one ends inside the next header, and waits for space. -/
theorem writes_framed_two : ∃ s, (s.counted = 37 ∧ s.call = none) ∧ Framed pcmStream twoFrames s := by
  obtain ⟨s, hs, hp⟩ := Reaches.exists_of_run (TunnelWriter.step pcmStream (encode twoFrames)) (writeKept pcmStream twoFrames) {}
    [.call 18 true, .search, .pump { space := 100 }, .search, .call 8 true, .search, .pump {}, .pump { space := 100 }, .search,
      .call 18 true, .search, .pump { space := 100 }, .search]
    (fun s => s.counted = 37 ∧ s.call = none) (by decide +kernel)
  exact ⟨s, of_decide_eq_true hp,
    writes_framed pcmStream twoFrames (by decide +kernel) (by decide) (by decide) s hs⟩

/-- The first call ends after two bytes of the marker, which are delivered as payload. -/
theorem marker_delivered_as_payload : MarkersAtHeaders twoFrames ∧ (∀ f ∈ twoFrames, f.Fits) ∧
    ∃ s, Reaches (TunnelWriter.step pcmStream (encode twoFrames)) (fun _ _ => True) {} s ∧ s.delivered = [0x55, 0x55] ∧
      ¬ Framed pcmStream twoFrames s := by
  obtain ⟨s, hs, hp⟩ := Reaches.exists_of_run (TunnelWriter.step pcmStream (encode twoFrames)) (fun _ _ => true) {}
    [.call 2 true, .search, .pump { space := 100 }, .search]
    (fun s => s.counted = 2 ∧ s.call = none ∧ s.delivered = [0x55, 0x55]) (by decide +kernel)
  obtain ⟨hcounted, hcall, hdelivered⟩ := of_decide_eq_true hp
  refine ⟨by decide +kernel, by decide, s, hs.mono fun _ _ _ => trivial, hdelivered, fun h => ?_⟩
  have hnothing := h.delivered
  rw [hdelivered, hcall, hcounted] at hnothing
  cases hnothing

end BcmPlatform.Audio
