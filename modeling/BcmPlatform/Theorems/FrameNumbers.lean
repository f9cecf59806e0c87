import BcmPlatform.Theorems.FormatChange

/-! Frames that are numbered one after the other: the FIFO goes on where the returned frames end. A deferred format change
    over whole runs of the video decoder. -/

namespace BcmPlatform.Bomx
open Lib
namespace OutputSide
variable {s s' : OutputSide} {mode : OutputMode} {f : FrameBuffer} {start : Nat}

/-- The FIFO holds the frames from `start` on, and `start` follows the last returned frame, if there is one. -/
structure NumberedFrom (start : Nat) (s : OutputSide) : Prop where
  pos : 0 < start
  serials : s.nexus.serials = List.range' start s.nexus.fifo.length
  next : start + s.nexus.fifo.length = s.nexus.nextSerial
  returned : s.lastReturnedSerial ≠ 0 → s.lastReturnedSerial + 1 = start
  waiting : s.formatChangeState = .waitForSerial → s.lastReturnedSerial ≠ 0

def Numbered (s : OutputSide) : Prop := ∃ start, NumberedFrom start s

theorem Numbered.congr (h : Numbered s) (hnexus : s'.nexus = s.nexus)
    (hlast : s'.lastReturnedSerial = s.lastReturnedSerial)
    (hwait : s'.formatChangeState = .waitForSerial → s.formatChangeState = .waitForSerial) : Numbered s' := by
  obtain ⟨start, h⟩ := h
  refine ⟨start, h.pos, ?_, ?_, ?_, fun hs => ?_⟩
  · rw [hnexus]
    exact h.serials
  · rw [hnexus]
    exact h.next
  · rw [hlast]
    exact h.returned
  · rw [hlast]
    exact h.waiting (hwait hs)

theorem Numbered.of_empty (hnext : 0 < s.nexus.nextSerial) (hfifo : s.nexus.fifo = [])
    (hlast : s.lastReturnedSerial ≠ 0 → s.lastReturnedSerial + 1 = s.nexus.nextSerial)
    (hwait : s.formatChangeState = .waitForSerial → s.lastReturnedSerial ≠ 0) : Numbered s := by
  refine ⟨s.nexus.nextSerial, hnext, ?_, ?_, hlast, hwait⟩
  · simp [Nexus.serials, hfifo]
  · simp [hfifo]

theorem NumberedFrom.nextSerial_pos (h : NumberedFrom start s) : 0 < s.nexus.nextSerial := by
  rw [← h.next]
  exact Nat.lt_of_lt_of_le h.pos (Nat.le_add_right _ _)

/-! ### Frames that go back -/

theorem serial_getLast? {B : List FrameBuffer} {last : FrameBuffer} {n : Nat}
    (hserials : B.map (·.serial) <+: List.range' start n) (hlast : B.getLast? = some last) :
    last.serial + 1 = start + B.length ∧ 0 < B.length := by
  have hlen := hserials.length_le
  rw [List.length_map, List.length_range'] at hlen
  have hrange : B.map (·.serial) = List.range' start B.length := by
    rw [List.prefix_iff_eq_take.mp hserials, List.length_map, List.take_range'_of_length_ge hlen]
  have hpos : 0 < B.length := List.length_pos_of_mem (List.mem_of_getLast? hlast)
  have hget : (B.map (·.serial)).getLast? = some last.serial := by rw [List.getLast?_map, hlast]; rfl
  rw [hrange, List.getLast?_range', if_neg (by omega)] at hget
  have hserial : start + B.length - 1 = last.serial := Option.some.inj hget
  omega

theorem Numbered.handBack {I B R : List FrameBuffer} {last : FrameBuffer} (hn : Numbered s) (h : FrameQueue mode s)
    (hb : Batch s I B R) (hlast : B.getLast? = some last) : Numbered (s.handBack I B R last) := by
  obtain ⟨start, hn⟩ := hn
  have hserials := hb.serials h.aligned
  have hlen := hserials.length_le
  rw [hn.serials] at hserials
  rw [List.length_map, Nexus.serials, List.length_map] at hlen
  obtain ⟨hend, hpos⟩ := serial_getLast? hserials hlast
  have hstart := hn.pos
  have hnext := hn.next
  refine ⟨start + B.length, by omega, ?_, ?_, fun _ => hend, fun _ => ?_⟩
  · have hall := hn.serials
    simp only [Nexus.serials] at hall
    simp only [OutputSide.handBack, Nexus.serials, List.map_drop, hall, List.length_drop, List.drop_range',
      Nat.mul_one]
  · simp only [OutputSide.handBack, List.length_drop]
    omega
  · change last.serial ≠ 0
    omega

theorem Numbered.returnDecodedFrames (hn : Numbered s) (h : FrameQueue mode s) : Numbered s.returnDecodedFrames.1 :=
  returnDecodedFrames_keeps h.aligned h.length_le hn fun hb hlast => hn.handBack h hb hlast

/-- A flush discards no frame that was not taken from Nexus, except before any frame is returned. -/
def FlushComplete (s : OutputSide) : Prop :=
  (validSerials s.frameBufferAllocList).length = s.nexus.fifo.length ∨
    (validSerials s.frameBufferAllocList = [] ∧ s.lastReturnedSerial = 0)

theorem Numbered.flush (hn : Numbered s) (h : FrameQueue mode s) (hok : FlushComplete s)
    (hopen : s.hSimpleVideoDecoder = true) : Numbered s.startFlush.returnDecodedFrames.1 := by
  obtain ⟨start, hn⟩ := hn
  have haligned : Aligned s.startFlush.frameBufferAllocList s.nexus.serials s.nexus.nextSerial := h.aligned
  obtain ⟨I, B, R, hb, hcases⟩ := returnDecodedFrames_cases haligned (startFlush_nodes h.toFrameNodes).length_le hopen
  have hserials := hb.serials haligned
  rw [hn.serials] at hserials
  -- the batch holds all valid frames
  have hvalid : validSerials s.frameBufferAllocList = B.map (·.serial) := by
    have hsplit : s.frameBufferAllocList = I ++ B ++ R := hb.split
    rw [hsplit, hb.flushed rfl, List.append_nil, validSerials_append, validSerials_of_invalid hb.invalid,
      validSerials_of_valid hb.valid, List.nil_append]
  have hnext := hn.next
  rcases hcases with ⟨hB, heq⟩ | ⟨last, hlast, heq⟩
  · rw [heq]
    refine .of_empty hn.nextSerial_pos rfl (fun hne => ?_) hn.waiting
    rcases hok with hlen | ⟨-, hzero⟩
    · rw [hvalid, hB] at hlen
      have hlen : 0 = s.nexus.fifo.length := hlen
      have hreturned := hn.returned hne
      change s.lastReturnedSerial + 1 = s.nexus.nextSerial
      omega
    · exact absurd hzero hne
  · rw [heq]
    obtain ⟨hend, hpos⟩ := serial_getLast? hserials hlast
    have hlen : B.length = s.nexus.fifo.length := by
      rcases hok with hlen | ⟨hnil, -⟩
      · rw [hvalid, List.length_map] at hlen
        exact hlen
      · rw [hvalid, List.map_eq_nil_iff] at hnil
        rw [hnil] at hpos
        cases hpos
    have hlastEnd : last.serial + 1 = s.nexus.nextSerial := by omega
    refine .of_empty hn.nextSerial_pos (by simp [OutputSide.handBack, startFlush, nexusFlush]) (fun _ => hlastEnd) fun _ => ?_
    change last.serial ≠ 0
    have hstart := hn.pos
    omega

/-! ### Decoding -/

theorem nextSerial_of_consecutive : ∀ (frames : List FrameStatus) (n : Nat),
    frames.map (·.serialNumber) = List.range' n frames.length →
    frames.foldl (fun n status => max n (status.serialNumber + 1)) n = n + frames.length
  | [], n, _ => rfl
  | status :: rest, n, h => by
    rw [List.map_cons, List.length_cons, List.range'_succ, List.cons.injEq] at h
    have hmax : max n (status.serialNumber + 1) = n + 1 := by omega
    rw [List.foldl_cons, hmax, nextSerial_of_consecutive rest (n + 1) h.2, List.length_cons]
    omega

theorem Numbered.decode {frames : List FrameStatus} (hn : Numbered s)
    (hframes : frames.map (·.serialNumber) = List.range' s.nexus.nextSerial frames.length) : Numbered (s.decode frames) := by
  obtain ⟨start, hn⟩ := hn
  have hnext := nextSerial_of_consecutive frames _ hframes
  refine ⟨start, hn.pos, ?_, ?_, hn.returned, hn.waiting⟩
  · have hall := hn.serials
    simp only [Nexus.serials] at hall
    simp only [OutputSide.decode, Nexus.serials, List.map_append, List.length_append, hall, hframes, ← hn.next]
    rw [List.range'_append_1]
  · simp only [OutputSide.decode, List.length_append, hnext]
    rw [← hn.next, Nat.add_assoc]

/-! ### The rules -/

/-- The frame queue with frames that are numbered one after the other. -/
structure NumberedQueue (mode : OutputMode) (s : OutputSide) : Prop where
  queue : FrameQueue mode s
  numbered : Numbered s

/-- Nexus numbers the frames one after the other, and no frame is discarded behind the component's back. -/
def numberConditions (mode : OutputMode) : OutputConditions where
  fill := fun s b => HandleOk mode b s
  decode := fun s frames => frames.map (·.serialNumber) = List.range' s.nexus.nextSerial frames.length
  flush := FlushComplete
  stop := fun s => s.nexus.fifo = [] ∨ s.lastReturnedSerial = 0

theorem Detached.numbered {b : BufferId} (hdet : Detached b s s') (hn : Numbered s) : Numbered s' := by
  refine hn.congr ?_ ?_ fun hwait => ?_
  · rw [hdet.rest]
  · rw [hdet.rest]
  · rw [hdet.rest] at hwait
    exact hwait

theorem Numbered.freeBuffer {b : BufferId} (hn : Numbered s) : Numbered (s.freeBuffer b).1 := by
  rcases freeBuffer_detached (s := s) (b := b) with ⟨heq, -⟩ | ⟨hdet, -⟩
  · rw [heq]
    exact hn
  · exact hdet.numbered hn

theorem Numbered.displayFrameLocked (hn : Numbered s) (n : Nat) : Numbered (s.displayFrameLocked n).1 := by
  rcases displayFrameLocked_cases (s := s) n with ⟨heq, -⟩ | ⟨f, -, -, -, heq⟩
  · rw [heq]
    exact hn
  · rw [heq]
    exact hn.congr rfl rfl id

theorem PollStep.numbered (hstep : PollStep s s') (hn : Numbered s) : Numbered s' := by
  cases hstep with
  | quiet hq =>
    refine hn.congr ?_ ?_ fun hwait => ?_
    · rw [hq.rest]
    · rw [hq.rest]
    · rw [hq.rest] at hwait
      exact hwait
  | deliver _ _ _ => exact hn.congr rfl rfl id
  | defer _ _ hpos _ =>
    obtain ⟨start, hn⟩ := hn
    exact ⟨start, hn.pos, hn.serials, hn.next, hn.returned, fun _ => Nat.ne_of_gt hpos⟩
  | reconfig _ _ => exact hn.congr rfl rfl fun hwait => by cases hwait

theorem Numbered.of_stopped (hn : Numbered s) (h : FrameQueue mode s) (hstopped : s.nexus.started = false)
    (hfifo : s'.nexus.fifo = []) (hnext : s'.nexus.nextSerial = s.nexus.nextSerial)
    (hlast : s'.lastReturnedSerial = s.lastReturnedSerial) (hwait : s'.formatChangeState = s.formatChangeState) :
    Numbered s' := by
  obtain ⟨start, hn⟩ := hn
  have hempty := h.stopped hstopped
  have hstart := hn.next
  rw [hempty, List.length_nil, Nat.add_zero] at hstart
  refine .of_empty (by rw [hnext]; exact hn.nextSerial_pos) hfifo (fun hne => ?_) fun hs => ?_
  · rw [hlast] at hne ⊢
    rw [hnext, hn.returned hne, hstart]
  · rw [hlast]
    exact hn.waiting (hwait ▸ hs)

theorem Numbered.stop (hn : Numbered s) (hok : s.nexus.fifo = [] ∨ s.lastReturnedSerial = 0) : Numbered s.stop := by
  obtain ⟨start, hn⟩ := hn
  refine .of_empty hn.nextSerial_pos rfl (fun hne => ?_) hn.waiting
  have hne : s.lastReturnedSerial ≠ 0 := hne
  rcases hok with hempty | hzero
  · have hnext := hn.next
    rw [hempty, List.length_nil, Nat.add_zero] at hnext
    exact (hn.returned hne).trans hnext
  · exact absurd hzero hne

theorem Numbered.release (hn : Numbered s) : Numbered s.release := by
  simp only [OutputSide.release]
  split
  · obtain ⟨start, hn⟩ := hn
    exact .of_empty hn.nextSerial_pos rfl (fun hne => absurd rfl hne) fun hwait => by cases hwait
  · exact hn.congr rfl rfl id

theorem numberRules (mode : OutputMode) : OutputRules mode (numberConditions mode) (NumberedQueue mode) where
  queue h := h.queue
  take n h := by
    refine ⟨h.queue.getDecodedFrames n, ?_⟩
    simp only [OutputSide.getDecodedFrames]
    split
    · exact h.numbered
    · rw [alogAssert_rest]
      exact h.numbered.congr rfl rfl id
  pollStep hstep h := ⟨hstep.frameQueue h.queue, hstep.numbered h.numbered⟩
  add _ _ _ _ h := by
    refine ⟨h.queue.addBuffer _ _ _, ?_⟩
    simp only [OutputSide.addBuffer]
    split
    · exact h.numbered
    · split
      · exact h.numbered
      · exact h.numbered.congr rfl rfl id
  fill := @fun s b _ hok hflush hnone h => by
    have hfilled := h.queue.fillThisBuffer hok
    have hflush' : (s.fillThisBuffer b).1.outputFlushing = false := fillThisBuffer_notFlushing hflush
    exact ⟨hfilled.returnDecodedFrames hflush', ((fillThisBuffer_detached hnone).1.numbered h.numbered).returnDecodedFrames hfilled⟩
  free _ hflush h := by
    refine ⟨h.queue.freeAndReturn hflush, ?_⟩
    unfold freeAndReturn
    split
    · exact h.numbered.freeBuffer.returnDecodedFrames h.queue.freeBuffer
    · exact h.numbered.freeBuffer
  notify hok h := ⟨(queueRules mode).notify hok h.queue, h.numbered.congr rfl rfl id⟩
  takeDisplay hnone h := by
    refine ⟨(queueRules mode).takeDisplay hnone h.queue, ?_⟩
    simp only [takeDisplayFrame]
    split
    · exact h.numbered.congr rfl rfl id
    · exact h.numbered
  showDisplay := @fun s n _ hflush h => by
    refine ⟨h.queue.showAndReturn hflush n, ?_⟩
    have htaken : FrameQueue mode { s with displayTaken := none } :=
      h.queue.congr rfl rfl rfl rfl rfl (fun _ => rfl) (fun _ => rfl) id
    have hsame : Numbered { s with displayTaken := none } := h.numbered.congr rfl rfl id
    simp only [showAndReturn]
    split
    · exact (hsame.displayFrameLocked n).returnDecodedFrames (htaken.displayFrameLocked n)
    · exact hsame.displayFrameLocked n
  decode hok hstarted hserials h := ⟨h.queue.decode hstarted hserials, h.numbered.decode hok⟩
  flush hok hopen h := ⟨h.queue.flush hopen, h.numbered.flush h.queue hok hopen⟩
  endFlush _ h := ⟨h.queue.endFlush, h.numbered.congr rfl rfl id⟩
  returnPortBuffers h := by
    refine ⟨h.queue.returnPortBuffers, ?_⟩
    rw [(returnPortBuffers_port).1]
    exact h.numbered.congr rfl rfl id
  stop_returned hok := by
    rw [numberConditions, (returnPortBuffers_port).1]
    exact hok
  stop hok _ h := ⟨h.queue.stop, h.numbered.stop hok⟩
  release _ _ h := ⟨h.queue.release, h.numbered.release⟩
  unload _ _ h := by
    refine ⟨h.queue.unload, ?_⟩
    simp only [OutputSide.unload]
    rw [(returnPortBuffers_port).1]
    split
    · exact h.numbered.congr rfl rfl fun hwait => by cases hwait
    · exact h.numbered.congr rfl rfl id
  clear_flags _ _ _ := trivial
  clear _ _ _ hempty h := ⟨h.queue.clearAllocList hempty, h.numbered.congr rfl rfl id⟩
  acquire _ h := ⟨h.queue.acquire, h.numbered.congr rfl rfl id⟩
  start hopen hstopped h :=
    ⟨h.queue.nexusStart hopen hstopped, h.numbered.of_stopped h.queue hstopped rfl rfl rfl rfl⟩
  startFailed hstopped h :=
    ⟨h.queue.startFailed hstopped, h.numbered.of_stopped h.queue hstopped rfl rfl rfl rfl⟩
  portFlags bEnabled bPopulated h :=
    ⟨(queueRules mode).portFlags bEnabled bPopulated h.queue, h.numbered.congr rfl rfl id⟩

/-- The frame before the one that changes the format is not returned yet. -/
def ChangeAhead (s : OutputSide) : Prop :=
  s.formatChangeState = .waitForSerial →
    ∃ g ∈ s.frameBufferAllocList, g.isInvalid = false ∧ g.serial + 1 = s.formatChangeSerial

theorem NumberedQueue.changeAhead (h : NumberedQueue mode s) (hd : Deferred s) : ChangeAhead s := by
  intro hwait
  obtain ⟨hlt, f, hf, hready, hserial⟩ := hd hwait
  obtain ⟨start, hn⟩ := h.numbered
  have hreturned := hn.returned (hn.waiting hwait)
  have hvalid : f.isInvalid = false := by
    cases hs : f.state <;> simp_all [FrameBuffer.isReady, FrameBuffer.isInvalid]
  have hmem : f.serial ∈ validSerials s.frameBufferAllocList :=
    List.mem_map.mpr ⟨f, List.mem_filter.mpr ⟨hf, by simp [hvalid]⟩, rfl⟩
  have hserials := h.queue.aligned.serials
  rw [hn.serials] at hserials
  have hlen := hserials.length_le
  rw [List.length_range'] at hlen
  have hrange : validSerials s.frameBufferAllocList = List.range' start (validSerials s.frameBufferAllocList).length := by
    conv_lhs => rw [List.prefix_iff_eq_take.mp hserials, List.take_range'_of_length_ge hlen]
  rw [hrange, List.mem_range'_1] at hmem
  have hbefore : f.serial - 1 ∈ validSerials s.frameBufferAllocList := by
    rw [hrange, List.mem_range'_1]
    omega
  obtain ⟨g, hg, hgserial⟩ := List.mem_map.mp hbefore
  obtain ⟨hgmem, hgvalid⟩ := List.mem_filter.mp hg
  refine ⟨g, hgmem, by simpa using hgvalid, ?_⟩
  have hstart := hn.pos
  omega

end OutputSide
end BcmPlatform.Bomx

/-! ### A deferred format change -/

namespace BcmPlatform.Bomx
open Lib
namespace VideoDecoder
open OutputSide

/-- While a format change waits, the output port is not flushed, the decoder is not stopped and the alloc list is not
    cleared. -/
def keepsChange (d : VideoDecoder) : VideoAction → Bool
  | .flushOutput _ => !(d.out.port.isEnabled && d.out.port.isPopulated && d.out.hSimpleVideoDecoder) ||
    d.out.formatChangeState ≠ .waitForSerial
  | .stateSet .idle .. => !d.out.nexus.started || d.out.formatChangeState ≠ .waitForSerial
  | .resume .. =>
    match d.portWait with
    | some .populate => !d.out.nexus.started || d.out.formatChangeState ≠ .waitForSerial
    | some (.depopulateOutput ..) => d.out.formatChangeState ≠ .waitForSerial
    | _ => true
  | _ => true

/-- Frames are numbered one after the other, and neither a flush nor a stop discards frames that were not taken from
    Nexus once a frame was returned. -/
def keepsNumbers (d : VideoDecoder) : VideoAction → Bool
  | .decode frames => frames.map (·.serialNumber) = List.range' d.out.nexus.nextSerial frames.length
  | .flushOutput _ => (validSerials d.out.frameBufferAllocList).length = d.out.nexus.fifo.length ||
    (validSerials d.out.frameBufferAllocList = [] && d.out.lastReturnedSerial = 0)
  | .stateSet .idle .. | .resume .. => d.out.nexus.fifo = [] || d.out.lastReturnedSerial = 0
  | _ => true

theorem deferStepOk {d : VideoDecoder} {mode : OutputMode} {a : VideoAction} (hmode : d.outputMode = mode)
    (hhandle : d.handleDelivered a = true) (h : d.keepsChange a = true) : d.OutputStepOk (deferConditions mode) a := by
  cases a with
  | fillThisBuffer r b grallocSource pHandle => exact queueStepOk hmode hhandle
  | flushOutput r =>
    intro hbranch
    rw [keepsChange, hbranch] at h
    have hne : d.out.formatChangeState ≠ .waitForSerial := by simpa using h
    exact hne
  | stateSet newState n r r' =>
    cases newState with
    | idle =>
      intro hstarted
      rw [keepsChange, hstarted] at h
      have hne : d.out.formatChangeState ≠ .waitForSerial := by simpa using h
      exact hne
    | _ => trivial
  | resume timeout n r =>
    simp only [OutputStepOk]
    simp only [keepsChange] at h
    split
    · trivial
    · next hwait =>
      intro hstarted
      rw [hwait, hstarted] at h
      have hne : d.out.formatChangeState ≠ .waitForSerial := by simpa using h
      exact hne
    · trivial
    · next hwait =>
      rw [hwait] at h
      have hne : d.out.formatChangeState ≠ .waitForSerial := by simpa using h
      exact ⟨trivial, hne⟩
  | _ => trivial

theorem numberStepOk {d : VideoDecoder} {mode : OutputMode} {a : VideoAction} (hmode : d.outputMode = mode)
    (hhandle : d.handleDelivered a = true) (h : d.keepsNumbers a = true) :
    d.OutputStepOk (numberConditions mode) a := by
  cases a with
  | fillThisBuffer r b grallocSource pHandle => exact queueStepOk hmode hhandle
  | flushOutput r =>
    simp only [keepsNumbers, Bool.or_eq_true, Bool.and_eq_true, decide_eq_true_eq] at h
    exact fun _ => h
  | stateSet newState n r r' =>
    cases newState with
    | idle =>
      simp only [keepsNumbers, Bool.or_eq_true, decide_eq_true_eq] at h
      exact fun _ => h
    | _ => trivial
  | resume timeout n r =>
    simp only [keepsNumbers, Bool.or_eq_true, decide_eq_true_eq] at h
    simp only [OutputStepOk]
    split
    · trivial
    · exact fun _ => h
    · trivial
    · exact ⟨trivial, trivial⟩
  | decode frames =>
    simp only [keepsNumbers, decide_eq_true_eq] at h
    exact h
  | _ => trivial

/-- Two output buffers; the third frame has another size, and the client has given back the first one. -/
def changeDeferred : List VideoAction :=
  [.stateSet .idle {} {} {}, .allocateInputBuffer 10 65536 false, .allocateInputBuffer 11 65536 false,
   .allocateOutputBuffer 20 64 0 false, .allocateOutputBuffer 21 64 0 false, .resume false {} {},
   .stateSet .executing {} {} {}, .fillThisBuffer {} 20 true none, .fillThisBuffer {} 21 true none,
   .decode [{ serialNumber := 1 }, { serialNumber := 2 }, { serialNumber := 3, imageWidth := 10 }],
   .outputFrameEvent { numFrames := 3 }, .fillThisBuffer {} 20 true none, .outputFrameEvent { numFrames := 3 }]

/-- The port of the output has two buffers. -/
def twoOutputs : PortDefinition := { smallOutput with nBufferCountActual := 2 }

end VideoDecoder
end BcmPlatform.Bomx
