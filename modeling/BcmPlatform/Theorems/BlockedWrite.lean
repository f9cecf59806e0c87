import BcmPlatform.Audio.BlockedWrite
import BcmPlatform.Lib.Runs

/-! A write that waits finds its stream as it left it, unless a stop, a close or the `suspended` of the standby monitor came
    in between. Nothing keeps them from it: the write only asserts it. -/

namespace BcmPlatform.Audio
open Lib

namespace OutStream
variable {k : OutputKind} {s s' : OutStream} {h : BoutHandle}

/-- A handle that the output has. -/
def Has (k : OutputKind) (h : BoutHandle) : Prop := h = .playpump → k.ops.hasPlaypump = true

theorem has_buffer (k : OutputKind) : Has k k.ops.buffer := by
  rintro hbuffer
  rcases k with - | playpumpMode | pcmFormat
  · cases hbuffer
  · cases playpumpMode
    · cases hbuffer
    · rfl
  · rfl

theorem has_status (k : OutputKind) (hstatus : k.ops.status = some h) : Has k h := by
  rintro rfl
  rcases k with - | playpumpMode | pcmFormat
  · cases hstatus
  · cases hstatus
  · rfl

/-- The handles are started and open. -/
def Ready (k : OutputKind) (s : OutStream) : Prop :=
  ∀ h, Has k h → s.handle h = { stopped := false, closed := false }

/-- What the write asserted and used is as it has to be. -/
structure WriteSafe (s : OutStream) : Prop where
  asserts : ∀ b ∈ s.asserts, b = true
  uses : ∀ h ∈ s.uses, h.stopped = false ∧ h.closed = false

/-- A write in progress has its stream as it found it. -/
structure Busy (k : OutputKind) (s : OutStream) : Prop where
  started : s.started = true
  suspended : s.suspended = false
  opened : s.opened k = true
  freed : s.freed = false
  prevDecoder : s.prevDecoder = s.decoder
  prevPlaypump : s.prevPlaypump = s.playpump

structure Blocked (k : OutputKind) (s : OutStream) : Prop where
  busy : s.writer ≠ .idle → s.Busy k
  ready : s.freed = false → s.started = true → s.opened k = true → s.Ready k
  closed : s.freed = false → s.opened k = true → ∀ h, Has k h → (s.handle h).closed = false
  destroyed : s.freed = false → s.destroyed = true → s.opened k = false
  safe : s.WriteSafe
  pending : s.pending ≠ [] → k.ops.joins = true

theorem Busy.ready (hbusy : s.Busy k) (hs : s.Blocked k) : s.Ready k := hs.ready hbusy.freed hbusy.started hbusy.opened

theorem WriteSafe.use (hsafe : s.WriteSafe) (hh : s.handle h = { stopped := false, closed := false }) :
    (s.use h).WriteSafe := by
  refine ⟨hsafe.asserts, fun x hx => ?_⟩
  rcases List.mem_append.mp hx with hx | hx
  · exact hsafe.uses x hx
  · rw [List.mem_singleton.mp hx, hh]
    exact ⟨rfl, rfl⟩

theorem Blocked.use (hs : s.Blocked k) (hbusy : s.Busy k) (hh : Has k h) : (s.use h).Blocked k :=
  ⟨fun _ => ⟨hbusy.started, hbusy.suspended, hbusy.opened, hbusy.freed, hbusy.prevDecoder, hbusy.prevPlaypump⟩, hs.ready,
    hs.closed, hs.destroyed, hs.safe.use (hbusy.ready hs h hh), hs.pending⟩

theorem Busy.use (hbusy : s.Busy k) : (s.use h).Busy k :=
  ⟨hbusy.started, hbusy.suspended, hbusy.opened, hbusy.freed, hbusy.prevDecoder, hbusy.prevPlaypump⟩

theorem Blocked.goesOn (hs : s.Blocked k) (hbusy : s.Busy k) (writer : WriterPlace) (bytes bytesWritten : Nat)
    (priming : Bool) : Blocked k { s with writer, bytes, bytesWritten, priming } where
  busy _ := ⟨hbusy.started, hbusy.suspended, hbusy.opened, hbusy.freed, hbusy.prevDecoder, hbusy.prevPlaypump⟩
  ready := hs.ready
  closed := hs.closed
  destroyed := hs.destroyed
  safe := ⟨hs.safe.asserts, hs.safe.uses⟩
  pending := hs.pending

theorem Blocked.idle (hs : s.Blocked k) {w : WriterPlace} (hw : w = .idle) : Blocked k { s with writer := w } :=
  ⟨fun hne => absurd hw hne, hs.ready, hs.closed, hs.destroyed, ⟨hs.safe.asserts, hs.safe.uses⟩, hs.pending⟩

/-! ### The write -/

theorem Blocked.finish (hs : s.Blocked k) (hbusy : s.Busy k) : (s.finish k).Blocked k := by
  unfold OutStream.finish
  split
  · exact hs.idle rfl
  · split
    · next h hstatus => exact (hs.use hbusy (has_status k hstatus)).idle rfl
    · exact hs.idle rfl

theorem Blocked.fails (hs : s.Blocked k) (hbusy : s.Busy k) : (s.fails k).Blocked k := by
  unfold OutStream.fails
  split
  · exact hs.finish hbusy
  · exact hs

theorem Blocked.start (hs : s.Blocked k) (hfreed : s.freed = false) (hopened : s.opened k = true) (hidle : s.writer = .idle)
    (primed : Bool) : (s.start k primed).Blocked k := by
  have hready : (s.start k primed).Ready k := by
    intro h hh
    have hclosed := hs.closed hfreed hopened h hh
    cases h with
    | decoder => exact congrArg (HandleState.mk false) hclosed
    | playpump =>
      have hplaypump : s.playpump = true := by simpa [OutStream.opened, hh rfl] using (Bool.and_eq_true_iff.mp hopened).2
      change HandleState.mk (!s.playpump && s.playpumpState.stopped) s.playpumpState.closed = _
      rw [hplaypump]
      exact congrArg (HandleState.mk false) hclosed
  refine ⟨fun hne => absurd hidle hne, fun _ _ _ => hready, fun _ _ h hh => ?_, hs.destroyed,
    ⟨hs.safe.asserts, hs.safe.uses⟩, hs.pending⟩
  rw [hready h hh]

theorem Blocked.beginWrite (hs : s.Blocked k) {bytes : Nat} {started primed : Bool}
    (hstep : s.beginWrite k bytes started primed = some s') : s'.Blocked k := by
  unfold OutStream.beginWrite at hstep
  split at hstep
  · cases hstep
  · next hfree =>
    simp only [Bool.or_eq_true, decide_eq_true_eq, not_or, not_not, Bool.not_eq_true] at hfree
    obtain ⟨hidle, hfreed⟩ := hfree
    have hstarted : ∀ t, t = (if !s.started && !s.suspended && s.opened k && started then s.start k primed else s) →
        t.Blocked k ∧ t.writer = .idle ∧ t.freed = false := by
      rintro t rfl
      split
      · next hstart =>
        simp only [Bool.and_eq_true] at hstart
        exact ⟨hs.start hfreed hstart.1.2 hidle primed, hidle, hfreed⟩
      · exact ⟨hs, hidle, hfreed⟩
    generalize hgen : (if !s.started && !s.suspended && s.opened k && started then s.start k primed else s) = t at hstep
    obtain ⟨ht, hidle, hfreed⟩ := hstarted t hgen.symm
    dsimp only at hstep
    cases hstep
    split
    · exact ht
    · next hgo =>
      simp only [Bool.or_eq_true, Bool.not_eq_true', not_or, Bool.not_eq_false, Bool.not_eq_true] at hgo
      obtain ⟨⟨hstart, hsuspended⟩, hopened⟩ := hgo
      exact ⟨fun _ => ⟨hstart, hsuspended, hopened, hfreed, rfl, rfl⟩, ht.ready, ht.closed, ht.destroyed,
        ⟨ht.safe.asserts, ht.safe.uses⟩, ht.pending⟩

theorem Blocked.iterate (hs : s.Blocked k) {a : IterationAnswer} (hstep : s.iterate k a = some s') : s'.Blocked k := by
  unfold OutStream.iterate at hstep
  split at hstep
  · cases hstep
  · next hrunning =>
    simp only [Bool.or_eq_true, decide_eq_true_eq, not_or, not_not] at hrunning
    have hbusy : s.Busy k := hs.busy (by rw [hrunning.1]; nofun)
    have hs₁ := hs.use hbusy (has_buffer k)
    have hs₂ := hs₁.use hbusy.use (has_buffer k)
    dsimp only at hstep
    cases a with
    | getBufferFails =>
      cases hstep
      exact hs₁.fails hbusy.use
    | space n writeComplete =>
      cases hstep
      split
      · exact hs₂.goesOn hbusy.use.use _ _ _ _
      · exact hs₂.fails hbusy.use.use
    | skip writeComplete =>
      dsimp only at hstep
      split at hstep
      · cases hstep
      · cases hstep
        split
        · exact hs₂
        · exact hs₂.fails hbusy.use.use
    | noSpace setTrickState =>
      cases hstep
      split
      · exact hs₁.goesOn hbusy.use _ _ _ _
      · exact hs₁.goesOn hbusy.use _ _ _ _

theorem Blocked.endWrite (hs : s.Blocked k) (hstep : s.endWrite k = some s') : s'.Blocked k := by
  unfold OutStream.endWrite at hstep
  split at hstep
  · next hend =>
    simp only [Bool.and_eq_true, decide_eq_true_eq] at hend
    cases hstep
    exact hs.finish (hs.busy (by rw [hend.1]; nofun))
  · cases hstep

/-! ### The steps that get in between -/

/-- Nothing stops, closes or suspends the stream while a write is in progress, and a write that times out does not read the
    status of a handle that it stopped. -/
def blockedKept (k : OutputKind) (s : OutStream) : BlockedAction → Bool
  | .standby debounce => s.writer ≠ .waiting || !s.started || k.ops.joins && debounce
  | .screenState on debounce => on || s.writer = .idle || s.started && k.ops.joins && debounce
  | .monitorStandby => s.writer ≠ .waiting || !s.started
  | .close _ debounce => s.writer ≠ .waiting || k.ops.joins && debounce
  | .joined _ => s.writer ≠ .waiting
  | .monitorSuspend => s.writer = .idle
  | .relock timedOut => !timedOut || s.bytesWritten = 0 || k.ops.status.all (· ∉ k.ops.timeoutStops)
  | _ => true

theorem Blocked.notStarted (hsafe : s.WriteSafe) (hidle : s.writer = .idle) (hstarted : s.started = false)
    (hclosed : s.freed = false → s.opened k = true → ∀ h, Has k h → (s.handle h).closed = false)
    (hdestroyed : s.freed = false → s.destroyed = true → s.opened k = false)
    (hpending : s.pending ≠ [] → k.ops.joins = true) : s.Blocked k where
  busy hne := absurd hidle hne
  ready _ hstart := by
    rw [hstarted] at hstart
    cases hstart
  closed := hclosed
  destroyed := hdestroyed
  safe := hsafe
  pending := hpending

theorem Blocked.standbyStop (hs : s.Blocked k) (hidle : s.writer = .idle) : s.standbyStop.Blocked k := by
  refine .notStarted ⟨hs.safe.asserts, hs.safe.uses⟩ hidle rfl (fun hfreed hopened h hh => ?_) hs.destroyed hs.pending
  have hclosed := hs.closed hfreed hopened h hh
  cases h with
  | decoder => exact hclosed
  | playpump => exact hclosed

theorem Blocked.closeOutput (hs : s.Blocked k) (hidle : s.writer = .idle) {freed : Bool}
    (hcloses : freed = true ∨ k.ops.closedByOpen = true) : (s.closeOutput k freed).Blocked k := by
  have hopened : freed = false → (s.closeOutput k freed).opened k = false := by
    intro hfreed
    have hnexus : k ≠ .nexus := by
      rintro rfl
      rw [hfreed] at hcloses
      exact hcloses.elim nofun nofun
    have hdecoder : (s.closeOutput k freed).decoder = false := decide_eq_false hnexus
    rw [OutStream.opened, hdecoder, Bool.false_and]
  refine ⟨fun hne => absurd hidle hne, fun hfreed _ hopen => ?_, fun hfreed hopen => ?_, fun hfreed _ => hopened hfreed,
    ⟨hs.safe.asserts, hs.safe.uses⟩, hs.pending⟩
  · rw [hopened hfreed] at hopen
    cases hopen
  · rw [hopened hfreed] at hopen
    cases hopen

theorem idle_of_lockFree (hfree : s.lockFree = true) (hwaiting : s.writer ≠ .waiting) : s.writer = .idle := by
  unfold lockFree at hfree
  cases hwriter : s.writer with
  | idle => rfl
  | running => simp [hwriter] at hfree
  | waiting => exact absurd hwriter hwaiting

theorem Blocked.frame (hs : s.Blocked k) (monitor : MonitorPlace) {pending : List PendingStop}
    (hpending : pending ≠ [] → k.ops.joins = true) : Blocked k { s with monitor, pending } where
  busy hne :=
    have hbusy := hs.busy hne
    ⟨hbusy.started, hbusy.suspended, hbusy.opened, hbusy.freed, hbusy.prevDecoder, hbusy.prevPlaypump⟩
  ready := hs.ready
  closed := hs.closed
  destroyed := hs.destroyed
  safe := ⟨hs.safe.asserts, hs.safe.uses⟩
  pending := hpending

theorem Blocked.standby (hs : s.Blocked k) {debounce : Bool} (hkept : blockedKept k s (.standby debounce) = true)
    (hstep : s.standby k debounce = some s') : s'.Blocked k := by
  unfold OutStream.standby at hstep
  split at hstep
  · cases hstep
  · next hfree =>
    cases hstep
    split
    · exact hs
    · next hstarted =>
      split
      · next hjoins => exact hs.frame _ fun _ => (Bool.and_eq_true_iff.mp hjoins).1
      · next hjoins =>
        simp only [blockedKept, hjoins, Bool.or_false, decide_eq_true_eq, hstarted] at hkept
        exact hs.standbyStop (idle_of_lockFree (by simpa using hfree) hkept)

theorem Blocked.suspend (hs : s.Blocked k) (hidle : s.writer = .idle) (suspended : Bool) : Blocked k { s with suspended } :=
  ⟨fun hne => absurd hidle hne, hs.ready, hs.closed, hs.destroyed, ⟨hs.safe.asserts, hs.safe.uses⟩, hs.pending⟩

theorem Blocked.screenOn (hs : s.Blocked k) : Blocked k { s with suspended := false } where
  busy hne :=
    have hbusy := hs.busy hne
    ⟨hbusy.started, rfl, hbusy.opened, hbusy.freed, hbusy.prevDecoder, hbusy.prevPlaypump⟩
  ready := hs.ready
  closed := hs.closed
  destroyed := hs.destroyed
  safe := ⟨hs.safe.asserts, hs.safe.uses⟩
  pending := hs.pending

theorem Blocked.screenState (hs : s.Blocked k) {on debounce : Bool}
    (hkept : blockedKept k s (.screenState on debounce) = true) (hstep : s.screenState k on debounce = some s') :
    s'.Blocked k := by
  unfold OutStream.screenState at hstep
  split at hstep
  · cases hstep
  · cases hstep
    split
    · exact hs.screenOn
    · next hon =>
      split
      · next hjoins =>
        simp only [Bool.and_eq_true] at hjoins
        exact hs.frame _ fun _ => hjoins.1.2
      · next hjoins =>
        have hidle : s.writer = .idle := by simpa [blockedKept, hon, hjoins] using hkept
        split
        · exact (hs.standbyStop hidle).suspend hidle true
        · exact hs.suspend hidle true

theorem Blocked.freed (hs : s.Blocked k) (hfree : s.lockFree = true) (hdestroyed : s.destroyed = true) (freed : Bool) :
    Blocked k { s with freed } := by
  have hnotFreed : s.freed = false := Bool.not_eq_true' _ ▸ (Bool.and_eq_true_iff.mp hfree).2
  have hidle : s.writer = .idle := by
    by_contra hne
    have hclosed := hs.destroyed hnotFreed hdestroyed
    rw [(hs.busy hne).opened] at hclosed
    cases hclosed
  exact ⟨fun hne => absurd hidle hne, fun _ => hs.ready hnotFreed, fun _ => hs.closed hnotFreed,
    fun _ => hs.destroyed hnotFreed, ⟨hs.safe.asserts, hs.safe.uses⟩, hs.pending⟩

theorem Blocked.close (hs : s.Blocked k) {freed debounce : Bool} (hkept : blockedKept k s (.close freed debounce) = true)
    (hstep : s.close k freed debounce = some s') : s'.Blocked k := by
  unfold OutStream.close at hstep
  split at hstep
  · cases hstep
  · next hfree =>
    simp only [Bool.or_eq_true, Bool.not_eq_true', not_or, Bool.not_eq_false] at hfree
    obtain ⟨⟨⟨hfree, -⟩, hcloses⟩, -⟩ := hfree
    cases hstep
    split
    · next hdestroyed => exact hs.freed hfree hdestroyed freed
    · split
      · next hjoins => exact hs.frame _ fun _ => (Bool.and_eq_true_iff.mp hjoins).1
      · next hjoins =>
        simp only [blockedKept, hjoins, Bool.or_false, decide_eq_true_eq] at hkept
        exact hs.closeOutput (idle_of_lockFree hfree hkept) hcloses

theorem Blocked.joined (hs : s.Blocked k) {i : Nat} (hkept : blockedKept k s (.joined i) = true)
    (hstep : s.joined k i = some s') : s'.Blocked k := by
  unfold OutStream.joined at hstep
  split at hstep
  · cases hstep
  · next hfree =>
    have hidle : s.writer = .idle := idle_of_lockFree (by simpa using hfree) (of_decide_eq_true hkept)
    split at hstep
    · cases hstep
    · next hp =>
      have hjoins := hs.pending (List.ne_nil_of_mem (List.mem_of_getElem? hp))
      cases hstep
      exact (hs.standbyStop hidle).frame _ fun _ => hjoins
    · next hp =>
      have hjoins := hs.pending (List.ne_nil_of_mem (List.mem_of_getElem? hp))
      cases hstep
      exact ((hs.standbyStop hidle).suspend hidle true).frame _ fun _ => hjoins
    · next freed hp =>
      have hjoins := hs.pending (List.ne_nil_of_mem (List.mem_of_getElem? hp))
      split at hstep
      · cases hstep
      · cases hstep
        refine (hs.closeOutput hidle ?_).frame _ fun _ => hjoins
        rcases k with - | playpumpMode | pcmFormat
        · cases hjoins
        · cases hjoins
        · exact .inr rfl

/-! ### The lock after the wait -/

theorem WriteSafe.stopHandle (hsafe : s.WriteSafe) (hh : s.handle h = { stopped := false, closed := false }) :
    (s.stopHandle h).WriteSafe := by
  have huse := hsafe.use hh
  cases h with
  | decoder => exact ⟨huse.asserts, huse.uses⟩
  | playpump => exact ⟨huse.asserts, huse.uses⟩

theorem Blocked.stopsWriting (hs : s.Blocked k) (hbusy : s.Busy k) {t : OutStream} (hsafe : t.WriteSafe)
    (hclosed : ∀ h, (t.handle h).closed = (s.handle h).closed) (hopened : t.opened k = s.opened k)
    (hdestroyed : t.destroyed = s.destroyed) (hpending : t.pending = s.pending) :
    Blocked k { t with started := false, writer := .idle } := by
  refine .notStarted ⟨hsafe.asserts, hsafe.uses⟩ rfl rfl (fun _ _ h hh => ?_) (fun _ hdestroyed' => ?_) (fun hne => ?_)
  · exact (hclosed h).trans (hs.closed hbusy.freed hbusy.opened h hh)
  · rw [hdestroyed] at hdestroyed'
    exact hopened.trans (hs.destroyed hbusy.freed hdestroyed')
  · exact hs.pending (hpending ▸ hne)

theorem Blocked.returns (hs : Blocked k { s with writer := .idle })
    (hstatus : s.bytesWritten = 0 ∨ k.ops.status = none) : (s.finish k).Blocked k := by
  have hfinish : s.finish k = { s with writer := .idle } := by
    unfold OutStream.finish
    rcases hstatus with hnone | hnone
    · rw [if_pos hnone]
    · rw [hnone, ite_self]
  rwa [hfinish]

theorem Blocked.timesOut (hs : s.Blocked k) (hbusy : s.Busy k) (hstops : k.ops.timeoutStops ≠ [])
    (hstatus : s.bytesWritten = 0 ∨ ∀ h ∈ k.ops.status, h ∉ k.ops.timeoutStops) :
    Blocked k (OutStream.finish k { k.ops.timeoutStops.foldl (fun s h => s.stopHandle h) s with started := false }) := by
  have hready := hbusy.ready hs
  have hdecoder : (s.stopHandle .decoder).WriteSafe := hs.safe.stopHandle (hready .decoder nofun)
  have hdecoderClosed : ∀ h, ((s.stopHandle .decoder).handle h).closed = (s.handle h).closed := by
    rintro (- | -) <;> rfl
  rcases k with - | playpumpMode | pcmFormat
  · have hnone : s.bytesWritten = 0 := hstatus.resolve_right fun hall => hall .decoder rfl (List.mem_singleton_self _)
    exact (hs.stopsWriting hbusy hdecoder hdecoderClosed rfl rfl rfl).returns (.inl hnone)
  · cases playpumpMode with
    | false =>
      exact (hs.stopsWriting hbusy hdecoder hdecoderClosed rfl rfl rfl).returns (.inr rfl)
    | true =>
      have hplaypump : (s.stopHandle .playpump).WriteSafe := hs.safe.stopHandle (hready .playpump fun _ => rfl)
      have hboth := hplaypump.stopHandle (h := .decoder) (hready .decoder nofun)
      refine (hs.stopsWriting hbusy hboth ?_ rfl rfl rfl).returns (.inr rfl)
      rintro (- | -) <;> rfl
  · exact absurd rfl hstops

theorem Blocked.relock (hs : s.Blocked k) {timedOut : Bool} (hkept : blockedKept k s (.relock timedOut) = true)
    (hstep : s.relock k timedOut = some s') : s'.Blocked k := by
  unfold OutStream.relock at hstep
  split at hstep
  · cases hstep
  · next hwaiting =>
    have hbusy : s.Busy k := hs.busy (by rw [not_not.mp hwaiting]; nofun)
    -- What the write asserts is that it finds what it left.
    have hholds : (decide (s.decoder = s.prevDecoder) && (!k.ops.hasPlaypump || decide (s.playpump = s.prevPlaypump)) &&
        !s.suspended) = true := by
      simp [hbusy.prevDecoder, hbusy.prevPlaypump, hbusy.suspended]
    rw [hholds] at hstep
    dsimp only at hstep
    generalize ht : ({ s with asserts := s.asserts ++ [true], prevDecoder := s.decoder, prevPlaypump := s.playpump,
                              writer := .running } : OutStream) = t at hstep
    have htBusy : t.Busy k := by
      subst ht
      exact ⟨hbusy.started, hbusy.suspended, hbusy.opened, hbusy.freed, rfl, rfl⟩
    have htBlocked : t.Blocked k := by
      subst ht
      refine ⟨fun _ => htBusy, hs.ready, hs.closed, hs.destroyed, ⟨fun b hb => ?_, hs.safe.uses⟩, hs.pending⟩
      exact (List.mem_append.mp hb).elim (hs.safe.asserts b) List.mem_singleton.mp
    cases hstep
    split
    · next htimedOut =>
      simp only [Bool.and_eq_true, decide_eq_true_eq] at htimedOut
      refine htBlocked.timesOut htBusy htimedOut.2 ?_
      have hkept : s.bytesWritten = 0 ∨ k.ops.status.all (· ∉ k.ops.timeoutStops) = true := by
        simpa [blockedKept, htimedOut.1] using hkept
      rw [← ht]
      refine hkept.imp id fun hall h hh => ?_
      rw [Option.mem_def.mp hh] at hall
      exact of_decide_eq_true hall
    · exact htBlocked

/-! ### The standby monitor -/

theorem Blocked.monitorRead (hs : s.Blocked k) (hstep : s.monitorRead k = some s') : s'.Blocked k := by
  unfold OutStream.monitorRead at hstep
  split at hstep
  · cases hstep
  · cases hstep
    split
    · exact hs.frame _ hs.pending
    · exact hs

theorem Blocked.monitorStandby (hs : s.Blocked k) (hkept : blockedKept k s .monitorStandby = true)
    (hstep : s.monitorStandby k = some s') : s'.Blocked k := by
  unfold OutStream.monitorStandby at hstep
  split at hstep
  · cases hstep
  · obtain ⟨t, ht, rfl⟩ := Option.map_eq_some_iff.mp hstep
    have hkept : blockedKept k s (.standby false) = true := by simpa [blockedKept] using hkept
    have htBlocked := hs.standby hkept ht
    exact htBlocked.frame _ htBlocked.pending

theorem Blocked.monitorSuspend (hs : s.Blocked k) (hkept : blockedKept k s .monitorSuspend = true)
    (hstep : s.monitorSuspend = some s') : s'.Blocked k := by
  unfold OutStream.monitorSuspend at hstep
  split at hstep
  · cases hstep
  · cases hstep
    exact (hs.suspend (of_decide_eq_true hkept) true).frame _ hs.pending

/-! ### Runs -/

theorem Blocked.step (hs : s.Blocked k) {a : BlockedAction} (hkept : blockedKept k s a = true)
    (hstep : s.step k a = some s') : s'.Blocked k := by
  cases a with
  | beginWrite bytes started primed => exact hs.beginWrite hstep
  | iterate answer => exact hs.iterate hstep
  | endWrite => exact hs.endWrite hstep
  | relock timedOut => exact hs.relock hkept hstep
  | standby debounce => exact hs.standby hkept hstep
  | screenState on debounce => exact hs.screenState hkept hstep
  | close freed debounce => exact hs.close hkept hstep
  | joined i => exact hs.joined hkept hstep
  | monitorRead => exact hs.monitorRead hstep
  | monitorStandby => exact hs.monitorStandby hkept hstep
  | monitorSuspend => exact hs.monitorSuspend hkept hstep

theorem Blocked.init : (OutStream.init k).Blocked k :=
  .notStarted ⟨nofun, nofun⟩ rfl rfl (fun _ _ h _ => by cases h <;> rfl) nofun nofun

/-- In every run in which nothing gets in between, a write goes on with the stream that it waited for, and uses no handle
    that is stopped or closed. -/
theorem blocked_write_safe (k : OutputKind) (s : OutStream)
    (h : Reaches (OutStream.step k) (fun s a => blockedKept k s a = true) (init k) s) : s.WriteSafe :=
  (h.invariant (P := fun s => Blocked k s) Blocked.init fun _ _ _ hs hkept hstep => hs.step hkept hstep).safe

/-- Two writes wait, and the second one times out; between them the stream is in standby. -/
theorem blocked_write_safe_twice : ∃ s : OutStream,
    (s.uses.length = 8 ∧ s.asserts.length = 2 ∧ s.decoderState.stopped = true) ∧ s.WriteSafe := by
  obtain ⟨s, hs, hp⟩ := Reaches.exists_of_run (OutStream.step (.direct true)) (blockedKept (.direct true))
    (init (.direct true))
    [.beginWrite 2 true false, .iterate (.space 1 true), .iterate (.noSpace false), .monitorRead, .relock false,
      .iterate (.space 1 true), .endWrite, .monitorStandby, .beginWrite 1 true false, .iterate (.noSpace false), .relock true,
      .monitorSuspend, .close true false]
    (fun s => s.uses.length = 8 ∧ s.asserts.length = 2 ∧ s.decoderState.stopped = true) (by decide +kernel)
  exact ⟨s, of_decide_eq_true hp, blocked_write_safe (.direct true) s hs⟩

/-- While a write waits for space, the standby monitor stops the stream and suspends it. -/
theorem suspended_while_writing : ∃ s, Reaches (OutStream.step .nexus) (fun _ _ => True) (init .nexus) s ∧
    ¬ s.WriteSafe := by
  obtain ⟨s, hs, hp⟩ := Reaches.exists_of_run (OutStream.step .nexus) (fun _ _ => true) (init .nexus)
    [.beginWrite 2 true false, .iterate (.noSpace false), .monitorRead, .monitorStandby, .monitorSuspend, .relock false,
      .iterate .getBufferFails]
    (fun s => false ∈ s.asserts ∧ s.uses.any (·.stopped)) (by decide +kernel)
  obtain ⟨hassert, -⟩ := of_decide_eq_true hp
  exact ⟨s, hs.mono fun _ _ _ => trivial, fun h => Bool.false_ne_true (h.asserts false hassert)⟩

end OutStream
end BcmPlatform.Audio
