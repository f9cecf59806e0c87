import Mathlib.Data.List.Infix
import BcmPlatform.Lib.Segments
import BcmPlatform.Theorems.AudioCalls

/-! Frames are consumed in step with their delivery exactly when the blocks that belong to output buffers come first
    among those that the delivery loop looks up: it consumes from the front, and skips a block of no buffer without
    consuming it. -/

namespace BcmPlatform.Bomx
open Lib

namespace AudioOutput
variable {s s' : AudioOutput} {a : AudioAnswers} {r : AudioReport}

/-! ### The loop -/

/-- The block belongs to an output buffer. -/
def matched (p : QueuedBlock × AudioFrame) : Bool := p.2.buffer.isSome

/-- The frames that the loop looks up: those before a format change and before an end of stream that does not fit. -/
def lookedUp : List (QueuedBlock × AudioFrame) → AudioDecoder → List (QueuedBlock × AudioFrame)
  | [], _ => []
  | (q, f) :: rest, d =>
    if f.sampleRate ≠ d.sampleRate ∧ 0 < f.filledBytes then []
    else
      match f.buffer with
      | none => (q, f) :: lookedUp rest d
      | some b =>
        let p := d.takeTracked f.pts
        if p.2.2 then
          if p.1.inp.eosPending && !p.1.eosReady then
            (q, f) :: lookedUp rest ({ p.1 with eosReady := true }.deliverFrame f b p.2.1)
          else []
        else (q, f) :: lookedUp rest (p.1.deliverFrame f b p.2.1)

theorem lookedUp_prefix : ∀ (l : List (QueuedBlock × AudioFrame)) (d : AudioDecoder), lookedUp l d <+: l
  | [], d => List.nil_prefix
  | (q, f) :: rest, d => by
    simp only [lookedUp]
    split
    · exact List.nil_prefix
    · split
      · exact List.cons_prefix_cons.mpr ⟨rfl, lookedUp_prefix rest d⟩
      · split
        · split
          · exact List.cons_prefix_cons.mpr ⟨rfl, lookedUp_prefix rest _⟩
          · exact List.nil_prefix
        · exact List.cons_prefix_cons.mpr ⟨rfl, lookedUp_prefix rest _⟩

/-- What a poll does to the frames: some are returned, and as many are consumed. -/
structure Tally (l : List (QueuedBlock × AudioFrame)) (s s' : AudioOutput) : Prop where
  returned : s'.returned = s.returned ++ l.map (·.1.ticket)
  queue : s'.nexus.queue = s.nexus.queue.drop l.length
  nextTicket : s'.nexus.nextTicket = s.nexus.nextTicket
  definition : s'.d.outPort.definition = s.d.outPort.definition

theorem Tally.cons {l : List (QueuedBlock × AudioFrame)} {t : AudioOutput} {q : QueuedBlock} {f : AudioFrame}
    (hreturned : t.returned = s.returned ++ [q.ticket]) (hqueue : t.nexus.queue = s.nexus.queue.drop 1)
    (hticket : t.nexus.nextTicket = s.nexus.nextTicket) (hdef : t.d.outPort.definition = s.d.outPort.definition)
    (h : Tally l t s') : Tally ((q, f) :: l) s s' where
  returned := by rw [h.returned, hreturned, List.map_cons, List.append_assoc, List.singleton_append]
  queue := by rw [h.queue, hqueue, List.drop_drop, List.length_cons, Nat.add_comm]
  nextTicket := h.nextTicket.trans hticket
  definition := h.definition.trans hdef

theorem Tally.refl (hreturned : s'.returned = s.returned) (hnexus : s'.nexus = s.nexus)
    (hdef : s'.d.outPort.definition = s.d.outPort.definition) : Tally [] s s' :=
  ⟨by rw [hreturned, List.map_nil, List.append_nil], by rw [hnexus]; rfl, by rw [hnexus], hdef⟩

theorem takeTracked_outPort {d : AudioDecoder} (pts : Nat) : (d.takeTracked pts).1.outPort = d.outPort := by
  simp only [AudioDecoder.takeTracked]
  split
  · rfl
  · split <;> rfl

theorem deliver_tally : ∀ (l : List (QueuedBlock × AudioFrame)) (s : AudioOutput),
    Tally ((lookedUp l s.d).filter matched) s (s.deliver l).1
  | [], s => .refl rfl rfl rfl
  | (q, f) :: rest, s => by
    have hport := takeTracked_outPort (d := s.d) f.pts
    cases hbuffer : f.buffer with
    | none =>
      simp only [deliver, lookedUp, hbuffer]
      split
      · exact .refl rfl rfl rfl
      · rw [List.filter_cons_of_neg (by simp [matched, hbuffer])]
        exact deliver_tally rest s
    | some b =>
      have hreturn : ∀ d : AudioDecoder, d.outPort.definition = s.d.outPort.definition →
          Tally (((q, f) :: lookedUp rest (d.deliverFrame f b (s.d.takeTracked f.pts).2.1)).filter matched) s
            (deliver rest ({ s.setNexusOwned b false with d }.returnFrame q f b (s.d.takeTracked f.pts).2.1)).1 := by
        intro d hdef
        have hrest := deliver_tally rest
          ({ s.setNexusOwned b false with d }.returnFrame q f b (s.d.takeTracked f.pts).2.1)
        rw [List.filter_cons_of_pos (by simp [matched, hbuffer])]
        refine Tally.cons ?_ ?_ ?_ ?_ hrest
        · rfl
        · rfl
        · rfl
        · exact hdef
      simp only [deliver, lookedUp, hbuffer]
      split
      · exact .refl rfl rfl rfl
      · split
        · split
          · exact hreturn _ (congrArg Port.definition hport)
          · exact .refl rfl rfl (congrArg Port.definition hport)
        · exact hreturn _ (congrArg Port.definition hport)

/-! ### Polls -/

/-- The report that a poll gets. It asks for none while the client has to handle a format change, after the end of the
    stream and without queued buffers. -/
def report (r : AudioReport) (s : AudioOutput) : List (QueuedBlock × AudioFrame) :=
  if s.d.formatChangePending || s.d.eosDelivered || s.d.outPort.queueDepth = 0 then []
  else
    match r.frames with
    | none => []
    | some frames => s.reported frames

theorem deliverEos_tally {l : List (QueuedBlock × AudioFrame)} {b : BufferId} (h : Tally l s s') :
    Tally l s (s'.deliverEos r b) := by
  have hrest : ∀ t : AudioOutput, (t.assertQueued b).returned = t.returned ∧ (t.assertQueued b).nexus = t.nexus := by
    intro t
    rw [assertQueued_rest]
    exact ⟨rfl, rfl⟩
  obtain ⟨hreturned, hnexus⟩ := hrest (s'.bufferComplete b)
  obtain ⟨hreturned', hnexus'⟩ := hrest s'
  refine ⟨?_, ?_, ?_, h.definition⟩
  · exact (hreturned.trans hreturned').trans h.returned
  · exact (congrArg NexusAudio.queue (hnexus.trans hnexus')).trans h.queue
  · exact (congrArg NexusAudio.nextTicket (hnexus.trans hnexus')).trans h.nextTicket

theorem pollDecodedFrames_tally : Tally ((lookedUp (s.report r) s.d).filter matched) s (s.pollDecodedFrames r) := by
  simp only [pollDecodedFrames, report]
  by_cases hquiet : (s.d.formatChangePending || s.d.eosDelivered) = true
  · simp only [hquiet, if_true, Bool.true_or]
    exact .refl rfl rfl rfl
  · by_cases hdepth : s.d.outPort.queueDepth = 0
    · simp only [hquiet, hdepth, if_false, Bool.false_eq_true, decide_true, Bool.or_true, if_true, gt_iff_lt,
        lt_self_iff_false]
      exact .refl rfl rfl rfl
    · have hpos : s.d.outPort.queueDepth > 0 := Nat.pos_of_ne_zero hdepth
      simp only [hquiet, hdepth, hpos, if_false, Bool.false_eq_true, decide_false, Bool.or_false, if_true]
      cases hframes : r.frames with
      | none => exact .refl rfl rfl rfl
      | some frames =>
        have hdeliver := deliver_tally (s.reported frames) s
        simp only
        split
        · exact hdeliver
        · split
          · split
            · exact deliverEos_tally hdeliver
            · exact hdeliver
          · exact hdeliver

theorem reported_blocks (frames : List AudioFrame) (s : AudioOutput) : (s.reported frames).map Prod.fst =
    (s.nexus.queue.take s.d.outPort.definition.nBufferCountActual).take frames.length := by
  have hfst : ∀ (l : List QueuedBlock) (fs : List AudioFrame), (l.zip fs).map Prod.fst = l.take fs.length := by
    intro l
    induction l with
    | nil => simp
    | cons q l ih =>
      intro fs
      cases fs with
      | nil => rfl
      | cons f fs => rw [List.zip_cons_cons, List.map_cons, ih fs, List.length_cons, List.take_succ_cons]
  rw [reported, List.map_map, ← hfst]
  rfl

theorem report_blocks (r : AudioReport) (s : AudioOutput) :
    (s.report r).map Prod.fst <+: s.nexus.queue.take s.d.outPort.definition.nBufferCountActual := by
  simp only [report]
  split
  · exact List.nil_prefix
  · split
    · exact List.nil_prefix
    · rw [reported_blocks]
      exact List.take_prefix _ _

theorem report_tickets (r : AudioReport) (s : AudioOutput) :
    (s.report r).map (·.1.ticket) <+: s.nexus.queue.map (·.ticket) := by
  have hblocks := ((report_blocks r s).trans (List.take_prefix _ _)).map QueuedBlock.ticket
  rwa [List.map_map] at hblocks

/-! ### In step -/

/-- A poll from `s` to `s'` returns the first `n` frames of its report and consumes as many. The others are the first ones
    of every next report that is long enough to name them. -/
def InStep (r : AudioReport) (s s' : AudioOutput) : Prop :=
  ∃ n ≤ (s.report r).length, s'.returned = s.returned ++ ((s.report r).take n).map (·.1.ticket) ∧
    s'.nexus.queue = s.nexus.queue.drop n ∧
    ∀ frames : List AudioFrame, (s.report r).length - n ≤ frames.length →
      ((s.report r).drop n).map Prod.fst <+: (s'.reported frames).map Prod.fst

/-- Among the frames that a poll looks up, those with an output buffer come first. -/
def pollInOrder (r : AudioReport) (s : AudioOutput) : Bool :=
  (lookedUp (s.report r) s.d).Pairwise fun p q => matched q = true → matched p = true

theorem Tally.again {l : List (QueuedBlock × AudioFrame)} (h : Tally l s s') {frames : List AudioFrame}
    (hlong : (s.report r).length - l.length ≤ frames.length) :
    ((s.report r).drop l.length).map Prod.fst <+: (s'.reported frames).map Prod.fst := by
  obtain ⟨hqueue, hcount⟩ := List.prefix_take_iff.mp (report_blocks r s)
  rw [List.length_map] at hcount
  rw [reported_blocks, h.definition, h.queue, List.map_drop, List.prefix_take_iff, List.prefix_take_iff]
  refine ⟨⟨List.IsPrefix.drop hqueue _, ?_⟩, ?_⟩
  · rw [List.length_drop, List.length_map]
    exact (Nat.sub_le _ _).trans hcount
  · rwa [List.length_drop, List.length_map]

/-- The frames of a report are different ones, so a poll is in step exactly if the frames that it returns are its first. -/
theorem inStep_iff (hnodup : (s.nexus.queue.map (·.ticket)).Nodup) :
    InStep r s (s.pollDecodedFrames r) ↔ s.pollInOrder r = true := by
  have htally := pollDecodedFrames_tally (s := s) (r := r)
  have hlooked := lookedUp_prefix (s.report r) s.d
  simp only [pollInOrder, decide_eq_true_eq]
  rw [← filter_prefix_iff]
  constructor
  · rintro ⟨n, hn, hreturned, hqueue, -⟩
    have htickets : ((lookedUp (s.report r) s.d).filter matched).map (·.1.ticket) =
        ((s.report r).take n).map (·.1.ticket) := by
      have heq := htally.returned.symm.trans hreturned
      exact List.append_cancel_left heq
    have hinj := List.inj_on_of_nodup_map ((report_tickets r s).sublist.nodup hnodup)
    have hfirst : (lookedUp (s.report r) s.d).filter matched = (s.report r).take n := by
      refine map_injOn hinj ?_ (List.take_subset _ _) htickets
      exact fun p hp => hlooked.subset (List.mem_of_mem_filter hp)
    refine List.prefix_of_prefix_length_le ?_ hlooked (List.length_filter_le _ _)
    rw [hfirst]
    exact List.take_prefix _ _
  · intro hinitial
    have hfirst := List.prefix_iff_eq_take.mp (hinitial.trans hlooked)
    refine ⟨_, (hinitial.trans hlooked).length_le, ?_, htally.queue, fun _ => htally.again⟩
    rw [← hfirst]
    exact htally.returned

/-! ### Tickets -/

/-- The frames in `kept` and those of the queued blocks are different ones, with numbers below the next. -/
structure Fresh (kept : List Nat) (s : AudioOutput) : Prop where
  nodup : (kept ++ s.nexus.queue.map (·.ticket)).Nodup
  bound : ∀ t ∈ kept ++ s.nexus.queue.map (·.ticket), t < s.nexus.nextTicket

namespace Fresh
variable {kept : List Nat}

theorem congr (h : Fresh kept s) (hqueue : s'.nexus.queue = s.nexus.queue)
    (hticket : s'.nexus.nextTicket = s.nexus.nextTicket) : Fresh kept s' := by
  refine ⟨?_, ?_⟩
  · rw [hqueue]
    exact h.nodup
  · rw [hqueue, hticket]
    exact h.bound

theorem queueBlock (h : Fresh kept s) (b : BufferId) : Fresh kept (s.queueBlock b) := by
  have hmap : kept ++ (s.queueBlock b).nexus.queue.map (·.ticket) =
      (kept ++ s.nexus.queue.map (·.ticket)) ++ [s.nexus.nextTicket] := by
    simp [AudioOutput.queueBlock, setNexusOwned, NexusAudio.queueBuffer]
  refine ⟨?_, ?_⟩
  · rw [hmap, ← List.concat_eq_append, List.nodup_concat]
    exact ⟨fun hmem => Nat.lt_irrefl _ (h.bound _ hmem), h.nodup⟩
  · intro t ht
    rw [hmap] at ht
    rcases List.mem_append.mp ht with ht | ht
    · exact Nat.lt_succ_of_lt (h.bound t ht)
    · rw [List.mem_singleton.mp ht]
      exact Nat.lt_succ_self _

theorem drop (h : Fresh kept s) {n : Nat} (hqueue : s'.nexus.queue = s.nexus.queue.drop n)
    (hticket : s'.nexus.nextTicket = s.nexus.nextTicket) : Fresh kept s' := by
  have hsub : (kept ++ s'.nexus.queue.map (·.ticket)).Sublist (kept ++ s.nexus.queue.map (·.ticket)) := by
    rw [hqueue]
    exact ((List.drop_sublist n _).map _).append_left kept
  refine ⟨hsub.nodup h.nodup, fun t ht => ?_⟩
  rw [hticket]
  exact h.bound t (hsub.subset ht)

theorem returned (h : Fresh kept s) {n : Nat} (hqueue : s'.nexus.queue = s.nexus.queue.drop n)
    (hticket : s'.nexus.nextTicket = s.nexus.nextTicket) :
    Fresh (kept ++ (s.nexus.queue.take n).map (·.ticket)) s' := by
  have heq : kept ++ (s.nexus.queue.take n).map (·.ticket) ++ s'.nexus.queue.map (·.ticket) =
      kept ++ s.nexus.queue.map (·.ticket) := by
    rw [hqueue, List.append_assoc, ← List.map_append, List.take_append_drop]
  refine ⟨heq ▸ h.nodup, fun t ht => ?_⟩
  rw [hticket]
  exact h.bound t (heq ▸ ht)

end Fresh

theorem addBlocks_returned (accept : BufferId → Bool) : ∀ (l : List BufferId) (s : AudioOutput),
    (s.addBlocks accept l).returned = s.returned
  | [], s => rfl
  | b :: rest, s => by
    simp only [addBlocks]
    split
    · exact addBlocks_returned accept rest s
    · split
      · exact addBlocks_returned accept rest (s.queueBlock b)
      · rfl

theorem addBlocks_fresh {kept : List Nat} (accept : BufferId → Bool) : ∀ (l : List BufferId) (s : AudioOutput),
    Fresh kept s → Fresh kept (s.addBlocks accept l)
  | [], s, h => h
  | b :: rest, s, h => by
    simp only [addBlocks]
    split
    · exact addBlocks_fresh accept rest s h
    · split
      · exact addBlocks_fresh accept rest (s.queueBlock b) (h.queueBlock b)
      · exact h

theorem clearOwned_rest : ∀ (l : List QueuedBlock) (s : AudioOutput),
    l.foldl clearOwned s = { s with nexusOwned := (l.foldl clearOwned s).nexusOwned }
  | [], s => rfl
  | q :: rest, s => by
    have hclear : s.clearOwned q = { s with nexusOwned := (s.clearOwned q).nexusOwned } := by
      unfold clearOwned
      split <;> rfl
    rw [List.foldl_cons, clearOwned_rest rest, hclear]

theorem removeOutputBuffers_drop (a : AudioAnswers) (s : AudioOutput) : ∃ n,
    (s.removeOutputBuffers a).nexus.queue = s.nexus.queue.drop n ∧
    (s.removeOutputBuffers a).nexus.nextTicket = s.nexus.nextTicket ∧
    (s.removeOutputBuffers a).returned = s.returned := by
  simp only [removeOutputBuffers]
  split
  · exact ⟨0, rfl, rfl, rfl⟩
  · rw [clearOwned_rest]
    exact ⟨_, rfl, rfl, rfl⟩

theorem fresh_rules {kept : AudioOutput → List Nat} {ok : OutputCall → Prop}
    (hkept : ∀ s s' : AudioOutput, s'.returned = s.returned → kept s' = kept s)
    (hpoll : ∀ s r, Fresh (kept s) s → ok (.poll s r) → Fresh (kept (s.pollDecodedFrames r)) (s.pollDecodedFrames r)) :
    OutputBufferRules (fun s => Fresh (kept s) s) ok := by
  have hcongr : ∀ s s' : AudioOutput, Fresh (kept s) s → s'.returned = s.returned →
      s'.nexus.queue = s.nexus.queue → s'.nexus.nextTicket = s.nexus.nextTicket → Fresh (kept s') s' := by
    intro s s' h hreturned hqueue hticket
    rw [hkept _ _ hreturned]
    exact h.congr hqueue hticket
  have hremove : ∀ (s : AudioOutput) (a : AudioAnswers), Fresh (kept s) s →
      Fresh (kept (s.removeOutputBuffers a)) (s.removeOutputBuffers a) := by
    intro s a h
    obtain ⟨n, hqueue, hticket, hreturned⟩ := removeOutputBuffers_drop a s
    rw [hkept _ _ hreturned]
    exact h.drop hqueue hticket
  constructor
  case frame =>
    intro s s' h heq
    simp only [ledger, Prod.mk.injEq] at heq
    obtain ⟨-, -, hqueue, hticket, hreturned, -⟩ := heq
    exact hcongr s s' h hreturned hqueue hticket
  case allocate =>
    intro s b block h _ _
    simp only [addOutputBuffer]
    split
    · exact hcongr s _ h rfl rfl rfl
    · exact h
  case free =>
    intro s b h
    exact hcongr s _ h rfl rfl rfl
  case fill =>
    intro s accepted b _ h _
    simp only [fillThisBuffer]
    split
    · have hqueued : Fresh (kept (s.queueBlock b)) (s.queueBlock b) := by
        rw [hkept s (s.queueBlock b) rfl]
        exact h.queueBlock b
      exact hcongr (s.queueBlock b) _ hqueued rfl rfl rfl
    · exact hcongr s _ h rfl rfl rfl
  case add =>
    intro s accept h
    rw [addOutputBuffers, hkept _ _ (addBlocks_returned accept _ s)]
    exact addBlocks_fresh accept _ s h
  case remove => exact fun a h => hremove _ a h
  case poll => exact fun r h hok => hpoll _ r h hok
  case release =>
    intro s a h _
    exact hcongr (s.removeOutputBuffers a) _ (hremove s a h) rfl rfl rfl
  case returnBuffers =>
    intro s h _
    exact hcongr s _ h rfl rfl rfl

/-! ### Runs -/

end AudioOutput

/-- A poll that is in order. -/
def OutputCall.inOrder : OutputCall → Bool
  | .poll s r => s.pollInOrder r
  | _ => true

namespace AudioOutput

theorem init_fresh {codec : AudioCodec} {mp4ff : Bool} {inputDef outputDef : PortDefinition} :
    Fresh [] (init codec mp4ff inputDef outputDef) := by
  refine ⟨?_, fun t ht => ?_⟩
  · exact List.nodup_nil
  · cases ht

theorem queued_fresh {inputDef outputDef : PortDefinition} {codec : AudioCodec} {mp4ff : Bool} {s : AudioOutput}
    (h : Reaches step (fun _ _ => True) (init codec mp4ff inputDef outputDef) s) : Fresh [] s := by
  have hrules : OutputBufferRules (fun s => Fresh [] s) fun _ => True := by
    refine fresh_rules (fun _ _ _ => rfl) fun s r hfresh _ => ?_
    have htally := pollDecodedFrames_tally (s := s) (r := r)
    exact hfresh.drop htally.queue htally.nextTicket
  refine h.invariant (P := Fresh []) init_fresh fun s a s' hs _ hstep => ?_
  exact hrules.step hs (fun _ _ => trivial) hstep

theorem returned_fresh {inputDef outputDef : PortDefinition} {codec : AudioCodec} {mp4ff : Bool} {s : AudioOutput}
    (h : Reaches step (fun s a => (s.calls a).all OutputCall.inOrder) (init codec mp4ff inputDef outputDef) s) :
    Fresh s.returned s := by
  have hrules : OutputBufferRules (fun s => Fresh s.returned s) fun c => c.inOrder = true := by
    refine fresh_rules (fun _ _ => id) fun s r hfresh hok => ?_
    have hnodup := (List.nodup_append.mp hfresh.nodup).2.1
    obtain ⟨n, hn, hreturned, hqueue, -⟩ := (inStep_iff hnodup).mpr hok
    have htickets : ((s.report r).take n).map (·.1.ticket) = (s.nexus.queue.take n).map (·.ticket) := by
      have hinitial := report_tickets r s
      rw [List.prefix_iff_eq_take, List.length_map] at hinitial
      rw [List.map_take, hinitial, List.take_take, Nat.min_eq_left hn, List.map_take]
    rw [hreturned, htickets]
    exact hfresh.returned hqueue (pollDecodedFrames_tally).nextTicket
  refine h.invariant (P := fun s => Fresh s.returned s) init_fresh fun s a s' hs hok hstep => ?_
  exact hrules.step hs (List.all_eq_true.mp hok) hstep

/-- A poll is in step exactly if the frames with an output buffer come first among those that it looks up; and in a run
    of such polls no frame is returned twice. -/
theorem frames_consumed_in_step (codec : AudioCodec) (mp4ff : Bool) (inputDef outputDef : PortDefinition) :
    (∀ s, Reaches step (fun _ _ => True) (init codec mp4ff inputDef outputDef) s →
      ∀ r, InStep r s (s.pollDecodedFrames r) ↔ s.pollInOrder r = true) ∧
    ∀ s, Reaches step (fun s a => (s.calls a).all OutputCall.inOrder) (init codec mp4ff inputDef outputDef) s →
      s.returned.Nodup :=
  ⟨fun _ hs _ => inStep_iff (queued_fresh hs).nodup, fun _ hs => (List.nodup_append.mp (returned_fresh hs).nodup).1⟩

def pairOutput : PortDefinition := { smallOutput with nBufferCountActual := 2 }

def decodedFrame (pts : Nat) : AudioFrame := { pts, filledBytes := 4096, sampleRate := 44100 }

/-- The first frame has a new sample rate: the client disables the output port, frees its buffers and comes back with new
    ones. -/
def newSampleRate (a : AudioAnswers) : List AudioOutputAction :=
  [.stateSet .idle {} {}, .input (.allocateInputBuffer 10 64 false), .allocateOutputBuffer 20 7,
    .allocateOutputBuffer 21 8, .resumeStateSet false {} {}, .stateSet .executing {} {}, .fillThisBuffer true 20,
    .outputFrameEvent { frames := some [decodedFrame 45000] }, .portDisable .output a, .freeOutputBuffer 20,
    .freeOutputBuffer 21, .resumePortCommand false {} {}, .portEnable .output, .allocateOutputBuffer 22 9,
    .allocateOutputBuffer 23 10, .resumePortCommand false {} {}, .fillThisBuffer true 22, .fillThisBuffer true 23]

def twoFrames : AudioReport := { frames := some [decodedFrame 45000, decodedFrame 46045] }

theorem frames_consumed_in_step_two :
    ∃ s, (s.report twoFrames).length = 2 ∧ InStep twoFrames s (s.pollDecodedFrames twoFrames) ∧
      s.returned = [1] ∧ s.returned.Nodup := by
  obtain ⟨s, hs, hend⟩ := Reaches.exists_of_run step (fun s a => (s.calls a).all OutputCall.inOrder)
    (init .aac false oneInput pairOutput)
    (newSampleRate {} ++ [.outputFrameEvent { frames := some [decodedFrame 45000] }, .fillThisBuffer true 22])
    (fun s => (s.report twoFrames).length = 2 && s.pollInOrder twoFrames && s.returned = [1]) (by decide +kernel)
  simp only [Bool.and_eq_true, decide_eq_true_eq] at hend
  obtain ⟨hstep, hnodup⟩ := frames_consumed_in_step .aac false oneInput pairOutput
  exact ⟨s, hend.1.1, (hstep s (hs.mono fun _ _ _ => trivial) twoFrames).mpr hend.1.2, hend.2, hnodup s hs⟩

/-- `RemoveOutputBuffers` fails while the port is disabled, and the block of a freed buffer stays first in the queue: the
    frame behind it is returned, the block consumed, and the next poll returns the frame again. -/
theorem skipped_block_returns_twice :
    ∃ s, Reaches step (fun _ _ => true) (init .aac false oneInput pairOutput) s ∧
      ¬ InStep twoFrames s (s.pollDecodedFrames twoFrames) ∧
      ((s.pollDecodedFrames twoFrames).pollDecodedFrames twoFrames).returned = [1, 1, 2] := by
  obtain ⟨s, hs, hend⟩ := Reaches.exists_of_run step (fun _ _ => true) (init .aac false oneInput pairOutput)
    (newSampleRate { getDecodedFrames := false })
    (fun s => !s.pollInOrder twoFrames &&
      ((s.pollDecodedFrames twoFrames).pollDecodedFrames twoFrames).returned = [1, 1, 2]) (by decide +kernel)
  simp only [Bool.and_eq_true, decide_eq_true_eq, Bool.not_eq_true'] at hend
  refine ⟨s, hs, fun hstep => ?_, hend.2⟩
  have horder := (inStep_iff (queued_fresh (hs.mono fun _ _ _ => trivial)).nodup).mp hstep
  rw [hend.1] at horder
  cases horder

end AudioOutput
end BcmPlatform.Bomx
