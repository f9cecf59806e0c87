import BcmPlatform.Audio.StandbyMonitor
import BcmPlatform.Lib.Runs

/-! The standby monitor counts its callbacks, calls only those that are registered, and gives its mutex back before it
    sleeps. But a stream is closed with its lock held while `UnregisterCallback` waits for the mutex, and the thread that has
    the mutex waits for the lock of the stream in its callback. -/

namespace BcmPlatform.Audio
open Lib

namespace StandbyCallbacks
variable {m m' : StandbyCallbacks} {registrations : List Registration}

/-- The slots are counted, and each holds what was registered there. -/
structure Sound (m : StandbyCallbacks) (registrations : List Registration) : Prop where
  count : m.numCallbacks = m.callbacks.countP Option.isSome
  callbacks : m.callbacks.length = maxStandbyMonitorCallbacks
  contexts : m.contexts.length = maxStandbyMonitorCallbacks
  registered : ∀ id callback, m.callbacks[id]? = some (some callback) →
    ∃ context, m.contexts[id]? = some (some context) ∧ { id, callback, context } ∈ registrations

theorem Sound.init : Sound {} registrations := by
  refine ⟨rfl, rfl, rfl, fun id callback hid => ?_⟩
  have hnone := List.eq_of_mem_replicate (List.mem_of_getElem? hid)
  cases hnone

theorem Sound.mono (h : m.Sound registrations) {registrations' : List Registration}
    (hsub : ∀ r ∈ registrations, r ∈ registrations') : m.Sound registrations' where
  count := h.count
  callbacks := h.callbacks
  contexts := h.contexts
  registered id callback hid :=
    have ⟨context, hcontext, hmem⟩ := h.registered id callback hid
    ⟨context, hcontext, hsub _ hmem⟩

theorem Sound.fill (h : m.Sound registrations) {i : Nat} (hi : m.callbacks[i]? = some none) (callback : StandbyCallback)
    (context : Nat) : Sound
      { callbacks := m.callbacks.set i callback, contexts := m.contexts.set i context, numCallbacks := m.numCallbacks + 1 }
      (registrations ++ [{ id := i, callback, context }]) := by
  obtain ⟨hlt, hnone⟩ := List.getElem?_eq_some_iff.mp hi
  refine ⟨?_, (List.length_set ..).trans h.callbacks, (List.length_set ..).trans h.contexts, fun id callback' hid => ?_⟩
  · simp [List.countP_set hlt, hnone, h.count]
  · by_cases hne : i = id
    · subst hne
      rw [List.getElem?_set_self hlt] at hid
      cases hid
      exact ⟨context, List.getElem?_set_self (by rw [h.contexts, ← h.callbacks]; exact hlt), by simp⟩
    · rw [List.getElem?_set_ne hne] at hid
      obtain ⟨context', hcontext, hmem⟩ := h.registered id callback' hid
      exact ⟨context', (List.getElem?_set_ne hne).trans hcontext, List.mem_append_left _ hmem⟩

theorem Sound.clear (h : m.Sound registrations) {id : Nat} (hid : ∃ callback, m.callbacks[id]? = some (some callback)) :
    Sound { callbacks := m.callbacks.set id none, contexts := m.contexts.set id none, numCallbacks := m.numCallbacks - 1 }
      (registrations.filter (·.id ≠ id)) := by
  obtain ⟨callback, hcallback⟩ := hid
  obtain ⟨hlt, hsome⟩ := List.getElem?_eq_some_iff.mp hcallback
  refine ⟨?_, (List.length_set ..).trans h.callbacks, (List.length_set ..).trans h.contexts, fun id' callback' hid' => ?_⟩
  · simp [List.countP_set hlt, hsome, h.count]
  · by_cases hne : id = id'
    · subst hne
      rw [List.getElem?_set_self hlt] at hid'
      cases hid'
    · rw [List.getElem?_set_ne hne] at hid'
      obtain ⟨context', hcontext, hmem⟩ := h.registered id' callback' hid'
      refine ⟨context', (List.getElem?_set_ne hne).trans hcontext, List.mem_filter.mpr ⟨hmem, ?_⟩⟩
      exact decide_eq_true (Ne.symm hne)

theorem Sound.empty (h : m.Sound registrations) (hzero : m.numCallbacks = 0) {id : Nat} {callback : StandbyCallback} :
    m.callbacks[id]? ≠ some (some callback) := by
  intro hid
  have hcount := h.count.symm.trans hzero
  exact List.countP_eq_zero.mp hcount _ (List.mem_of_getElem? hid) rfl

theorem Sound.of_zero (h : m.Sound registrations) (hzero : m.numCallbacks = 0) (registrations' : List Registration) :
    m.Sound registrations' :=
  ⟨h.count, h.callbacks, h.contexts, fun _ _ hid => absurd hid (h.empty hzero)⟩

/-- A registration fills a free slot, and starts the thread when it is the first; or it fails and leaves what there was. -/
theorem Sound.registerCallback (h : m.Sound registrations) {callback : StandbyCallback} {context : Nat} {run started : Bool}
    {id : Option Nat} (heq : m.registerCallback callback context run = (id, started, m')) :
    (id = none ∧ m'.Sound registrations ∧ m'.numCallbacks = m.numCallbacks) ∨
    (∃ i, id = some i ∧ m'.Sound (registrations ++ [{ id := i, callback, context }]) ∧
      m'.numCallbacks = m.numCallbacks + 1 ∧ (m.numCallbacks = 0 → started = true)) := by
  unfold StandbyCallbacks.registerCallback at heq
  split at heq
  · cases heq
    exact .inl ⟨rfl, h, rfl⟩
  · next i hfind =>
    have hi : m.callbacks[i]? = some none := by
      obtain ⟨hlt, hnone, -⟩ := List.findIdx?_eq_some_iff_getElem.mp hfind
      rw [List.getElem?_eq_getElem hlt, Option.isNone_iff_eq_none.mp hnone]
    have hfill := h.fill hi callback context
    dsimp only at heq
    split at heq
    · next hne =>
      cases heq
      exact .inr ⟨i, rfl, hfill, rfl, fun hzero => absurd (congrArg (· + 1) hzero) hne⟩
    · split at heq
      · cases heq
        exact .inr ⟨i, rfl, hfill, rfl, fun _ => rfl⟩
      · cases heq
        refine .inl ⟨rfl, ?_, rfl⟩
        obtain ⟨hlt, -⟩ := List.getElem?_eq_some_iff.mp hi
        -- The slot is empty again, so that only what was registered before is left.
        refine (hfill.clear ⟨callback, List.getElem?_set_self hlt⟩).mono fun r hr => ?_
        rw [List.mem_filter, List.mem_append] at hr
        rcases hr with ⟨hr | hr, hne⟩
        · exact hr
        · simp [List.mem_singleton.mp hr] at hne

theorem Sound.unregisterCallback (h : m.Sound registrations) {id : Nat} {removed : Bool}
    (heq : m.unregisterCallback id = (removed, m')) :
    m'.Sound (registrations.filter (·.id ≠ id)) ∧ (removed = false → m' = m) := by
  have hkeep (hempty : ∀ callback, m.callbacks[id]? ≠ some (some callback)) :
      m.Sound (registrations.filter (·.id ≠ id)) := by
    refine ⟨h.count, h.callbacks, h.contexts, fun id' callback hid' => ?_⟩
    obtain ⟨context, hcontext, hmem⟩ := h.registered id' callback hid'
    refine ⟨context, hcontext, List.mem_filter.mpr ⟨hmem, decide_eq_true ?_⟩⟩
    rintro rfl
    exact hempty callback hid'
  unfold StandbyCallbacks.unregisterCallback at heq
  split at heq
  · next hge =>
    cases heq
    refine ⟨hkeep fun callback hid => ?_, fun _ => rfl⟩
    rw [List.getElem?_eq_none (h.callbacks ▸ hge)] at hid
    cases hid
  · next hlt =>
    split at heq
    · next hzero =>
      cases heq
      exact ⟨hkeep fun callback => h.empty hzero, fun _ => rfl⟩
    · split at heq
      · next hnone =>
        cases heq
        refine ⟨hkeep fun callback hid => ?_, fun _ => rfl⟩
        rw [hnone] at hid
        cases hid
      · next hsome =>
        cases heq
        refine ⟨h.clear ?_, nofun⟩
        have hlt : id < m.callbacks.length := h.callbacks ▸ Nat.lt_of_not_ge hlt
        rw [List.getElem?_eq_getElem hlt] at hsome ⊢
        cases hslot : m.callbacks[id] with
        | none => exact absurd (congrArg some hslot) hsome
        | some callback => exact ⟨callback, rfl⟩

end StandbyCallbacks

/-- The call has the mutex. -/
def DeviceCall.hasMutex : DeviceCall → Bool
  | .registers _ | .unregisters _ _ .hasMutex | .unregisters _ _ .waitsForExit => true
  | _ => false

def DeviceCall.waitsForMutex : DeviceCall → Bool
  | .opens _ | .unregisters _ _ .waitsForMutex => true
  | _ => false

def DeviceCall.waitsForExit : DeviceCall → Bool
  | .unregisters _ _ .waitsForExit => true
  | _ => false

/-- The thread has the mutex. -/
def MonitorThread.hasMutex : MonitorThread → Bool
  | .locked | .slot .. | .callback .. | .unlocks => true
  | _ => false

/-- The callback waits for the lock of a stream. -/
def MonitorThread.waitsFor (stream : Nat) : MonitorThread → Bool
  | .callback _ _ context .waitsToRead | .callback _ _ context .waitsToStop => context = stream
  | _ => false

namespace StandbyMonitor
variable {s s' : StandbyMonitor}

/-- The callback that the thread is in is the one in its slot. -/
def Calls (m : StandbyCallbacks) (thread : MonitorThread) : Prop := ∀ i callback context place,
  thread = .callback i callback context place →
    m.callbacks[i]? = some (some callback) ∧ m.contexts[i]? = some (some context)

structure Monitored (s : StandbyMonitor) : Prop where
  sound : s.monitored.Sound s.registrations
  device : s.mutex = some .device ↔ s.call.hasMutex = true
  monitor : s.mutex = some .monitor ↔ s.thread.hasMutex = true
  running : s.thread ≠ .gone → s.monitored.numCallbacks = 0 → s.call.waitsForExit = true
  exits : s.call.waitsForExit = true → s.monitored.numCallbacks = 0
  calls : Calls s.monitored s.thread

theorem Monitored.call (hs : s.Monitored) (streams : List MonitoredStream) (locks : Nat → Option LockHolder)
    {call : DeviceCall} (hmutex : call.hasMutex = s.call.hasMutex) (hexit : call.waitsForExit = s.call.waitsForExit) :
    Monitored { s with streams, locks, call } where
  sound := hs.sound
  device := hs.device.trans (hmutex ▸ Iff.rfl)
  monitor := hs.monitor
  running hrun hzero := hexit.trans (hs.running hrun hzero)
  exits hwaits := hs.exits (hexit ▸ hwaits)
  calls := hs.calls

theorem Monitored.thread (hs : s.Monitored) (locks : Nat → Option LockHolder) {thread : MonitorThread}
    (hmutex : thread.hasMutex = s.thread.hasMutex) (hgone : s.thread ≠ .gone) (hcalls : Calls s.monitored thread) :
    Monitored { s with locks, thread } where
  sound := hs.sound
  device := hs.device
  monitor := hs.monitor.trans (hmutex ▸ Iff.rfl)
  running _ := hs.running hgone
  exits := hs.exits
  calls := hcalls

theorem waitsForExit_hasMutex {call : DeviceCall} (h : call.waitsForExit = true) : call.hasMutex = true := by
  unfold DeviceCall.waitsForExit at h
  split at h
  · rfl
  · cases h

theorem Monitored.hasCallbacks (hs : s.Monitored) (hthread : s.thread.hasMutex = true) : s.monitored.numCallbacks ≠ 0 := by
  intro hzero
  have hgone : s.thread ≠ .gone := by
    rintro hgone
    rw [hgone] at hthread
    cases hthread
  have hdevice := hs.device.mpr (waitsForExit_hasMutex (hs.running hgone hzero))
  rw [hs.monitor.mpr hthread] at hdevice
  cases hdevice

theorem Monitored.notCalling (hs : s.Monitored) (hcall : s.call.hasMutex = true) : s.thread.hasMutex = false := by
  cases hthread : s.thread.hasMutex with
  | false => rfl
  | true =>
    have hmonitor := hs.monitor.mpr hthread
    rw [hs.device.mpr hcall] at hmonitor
    cases hmonitor

theorem Calls.of_not_hasMutex {m : StandbyCallbacks} {thread : MonitorThread} (h : thread.hasMutex = false) :
    Calls m thread := by
  rintro i callback context place rfl
  cases h

/-! ### Opening and closing a stream -/

theorem Monitored.openStream (hs : s.Monitored) {callback : StandbyCallback} (hstep : s.openStream callback = some s') :
    s'.Monitored := by
  unfold StandbyMonitor.openStream at hstep
  split at hstep
  · cases hstep
  · next hnone =>
    have hcall := not_not.mp hnone
    cases hstep
    exact hs.call _ s.locks (by rw [hcall]; rfl) (by rw [hcall]; rfl)

theorem Monitored.closeStream (hs : s.Monitored) {stream : Nat} (hstep : s.closeStream stream = some s') :
    s'.Monitored := by
  unfold StandbyMonitor.closeStream at hstep
  split at hstep
  · cases hstep
  · split at hstep
    · cases hstep
    · next hnone =>
      simp only [Bool.or_eq_true, decide_eq_true_eq, not_or, not_not] at hnone
      cases hstep
      exact hs.call s.streams s.locks (by rw [hnone.1.1]; rfl) (by rw [hnone.1.1]; rfl)

theorem Monitored.lockStream (hs : s.Monitored) (hstep : s.lockStream = some s') : s'.Monitored := by
  unfold StandbyMonitor.lockStream at hstep
  split at hstep
  · next stream hcall =>
    split at hstep
    · cases hstep
    · cases hstep
      exact hs.call s.streams _ (by rw [hcall]; rfl) (by rw [hcall]; rfl)
  · cases hstep

theorem Monitored.stopWaits (hs : s.Monitored) (hstep : s.stopWaits = some s') : s'.Monitored := by
  unfold StandbyMonitor.stopWaits at hstep
  split at hstep
  · next stream hcall =>
    split at hstep
    · cases hstep
    · split at hstep
      · cases hstep
      · cases hstep
        exact hs.call s.streams _ (by rw [hcall]; rfl) (by rw [hcall]; rfl)
  · cases hstep

theorem Monitored.stopped (hs : s.Monitored) (hstep : s.stopped = some s') : s'.Monitored := by
  unfold StandbyMonitor.stopped at hstep
  split at hstep
  · next stream hcall =>
    cases hstep
    exact hs.call s.streams s.locks (by rw [hcall]; rfl) (by rw [hcall]; rfl)
  · cases hstep

theorem Monitored.lockMutex (hs : s.Monitored) (hstep : s.lockMutex = some s') : s'.Monitored := by
  unfold StandbyMonitor.lockMutex at hstep
  split at hstep
  · cases hstep
  · next hfree =>
    have hmutex : s.mutex = none := not_not.mp hfree
    have hthread : s.thread.hasMutex ≠ true := fun hhas => by
      rw [hs.monitor.mpr hhas] at hmutex
      cases hmutex
    have hgets {call : DeviceCall} (hhas : call.hasMutex = true) (hexit : call.waitsForExit = s.call.waitsForExit) :
        Monitored { s with mutex := some .device, call } :=
      ⟨hs.sound, iff_of_true rfl hhas, iff_of_false nofun hthread,
        fun hrun hzero => hexit.trans (hs.running hrun hzero), fun hwaits => hs.exits (hexit ▸ hwaits), hs.calls⟩
    split at hstep
    · next stream hcall =>
      cases hstep
      exact hgets rfl (by rw [hcall]; rfl)
    · next stream locked hcall =>
      cases hstep
      exact hgets rfl (by rw [hcall]; rfl)
    · cases hstep

theorem Monitored.register (hs : s.Monitored) {run : Bool} (hstep : s.register run = some s') : s'.Monitored := by
  unfold StandbyMonitor.register at hstep
  split at hstep
  · next stream hcall =>
    have hfree : s.thread.hasMutex = false := hs.notCalling (by rw [hcall]; rfl)
    split at hstep
    · cases hstep
    · next x hx =>
      split at hstep
      · next started monitored heq =>
        cases hstep
        rcases hs.sound.registerCallback heq with ⟨-, hsound, hnum⟩ | ⟨i, hi, -⟩
        · refine ⟨hsound, iff_of_false nofun nofun, iff_of_false nofun (hfree ▸ Bool.false_ne_true), fun hrun hzero => ?_,
            nofun, .of_not_hasMutex hfree⟩
          have hwaits := hs.running hrun (hnum.symm.trans hzero)
          rw [hcall] at hwaits
          cases hwaits
        · cases hi
      · next id started monitored heq =>
        cases hstep
        rcases hs.sound.registerCallback heq with ⟨hnone, -⟩ | ⟨i, hi, hsound, hnum, -⟩
        · cases hnone
        · cases hi
          have hthread : (if started then .loop else s.thread : MonitorThread).hasMutex = false := by
            cases started
            · exact hfree
            · rfl
          refine ⟨hsound, iff_of_false nofun nofun, iff_of_false nofun (hthread ▸ Bool.false_ne_true), fun _ hzero => ?_,
            nofun, .of_not_hasMutex hthread⟩
          exact absurd (hnum.symm.trans hzero) (Nat.succ_ne_zero _)
  · cases hstep

theorem Monitored.opened (hs : s.Monitored) {ok : Bool} (hstep : s.opened ok = some s') : s'.Monitored := by
  unfold StandbyMonitor.opened at hstep
  split at hstep
  · next stream hcall =>
    split at hstep
    · cases hstep
      exact hs.call s.streams s.locks (by rw [hcall]; rfl) (by rw [hcall]; rfl)
    · split at hstep
      · cases hstep
      · split at hstep
        · cases hstep
          exact hs.call s.streams s.locks (by rw [hcall]; rfl) (by rw [hcall]; rfl)
        · cases hstep
  · cases hstep

theorem Monitored.returns {stream id : Nat} {locked : Bool} (hsound : s.monitored.Sound (s.registrations.filter (·.id ≠ id)))
    (hthread : s.thread.hasMutex = false) (hrunning : s.thread ≠ .gone → s.monitored.numCallbacks ≠ 0) :
    (s.returns stream id locked).Monitored :=
  ⟨hsound, iff_of_false nofun nofun, iff_of_false nofun (hthread ▸ Bool.false_ne_true),
    fun hrun hzero => absurd hzero (hrunning hrun), nofun, .of_not_hasMutex hthread⟩

theorem Monitored.unregister (hs : s.Monitored) (hstep : s.unregister = some s') : s'.Monitored := by
  unfold StandbyMonitor.unregister at hstep
  split at hstep
  · next stream locked hcall =>
    have hfree : s.thread.hasMutex = false := hs.notCalling (by rw [hcall]; rfl)
    split at hstep
    · cases hstep
    · next id hid =>
      generalize heq : s.monitored.unregisterCallback id = result at hstep
      obtain ⟨removed, monitored⟩ := result
      obtain ⟨hsound, hkeeps⟩ := hs.sound.unregisterCallback heq
      dsimp only at hstep
      cases hstep
      split
      · next hlast =>
        simp only [Bool.and_eq_true, decide_eq_true_eq] at hlast
        exact ⟨hsound.mono fun r hr => (List.mem_filter.mp hr).1, hs.device.trans (by rw [hcall]; exact Iff.rfl), hs.monitor,
          fun _ _ => rfl, fun _ => hlast.2, .of_not_hasMutex hfree⟩
      · next hlast =>
        refine .returns hsound hfree fun hrun hzero => ?_
        cases removed with
        | true => exact hlast (decide_eq_true hzero)
        | false =>
          have hwaits := hs.running hrun (hkeeps rfl ▸ hzero)
          rw [hcall] at hwaits
          cases hwaits
  · cases hstep

theorem Monitored.exited (hs : s.Monitored) (hstep : s.exited = some s') : s'.Monitored := by
  unfold StandbyMonitor.exited at hstep
  split at hstep
  · next stream locked hcall =>
    split at hstep
    · cases hstep
    · next id hid =>
      split at hstep
      · cases hstep
      · next hgone =>
        have hgone := not_not.mp hgone
        have hzero := hs.exits (by rw [hcall]; rfl)
        cases hstep
        exact .returns (hs.sound.of_zero hzero _) (by rw [hgone]; rfl) fun hrun => absurd hgone hrun
  · cases hstep

theorem Monitored.callEnds (hs : s.Monitored) (hstep : s.callEnds = some s') : s'.Monitored := by
  unfold StandbyMonitor.callEnds at hstep
  split at hstep
  · next stream locked hcall =>
    cases hstep
    exact hs.call _ _ (by rw [hcall]; rfl) (by rw [hcall]; rfl)
  · cases hstep

/-! ### `threadLoop` -/

theorem Monitored.loop (hs : s.Monitored) (hstep : s.loop = some s') : s'.Monitored := by
  unfold StandbyMonitor.loop at hstep
  split at hstep
  · cases hstep
  · next hloop =>
    have hthread := not_not.mp hloop
    cases hstep
    refine hs.thread s.locks ?_ (by rw [hthread]; nofun) (.of_not_hasMutex ?_)
    · rw [hthread]
      split <;> rfl
    · split <;> rfl

theorem Monitored.tryLock (hs : s.Monitored) (hstep : s.tryLock = some s') : s'.Monitored := by
  unfold StandbyMonitor.tryLock at hstep
  split at hstep
  · cases hstep
  · next htries =>
    have hthread := not_not.mp htries
    have hgone : s.thread ≠ .gone := by
      rw [hthread]
      nofun
    cases hstep
    split
    · next hfree =>
      have hcall : s.call.hasMutex ≠ true := fun hhas => by
        rw [hs.device.mpr hhas] at hfree
        cases hfree
      exact ⟨hs.sound, iff_of_false nofun hcall, iff_of_true rfl rfl, fun _ => hs.running hgone, hs.exits, nofun⟩
    · exact hs.thread s.locks (by rw [hthread]; rfl) hgone nofun

theorem Monitored.status (hs : s.Monitored) {ackNeeded standby : Bool} (hstep : s.status ackNeeded standby = some s') :
    s'.Monitored := by
  unfold StandbyMonitor.status at hstep
  split at hstep
  · cases hstep
  · next hlocked =>
    have hthread := not_not.mp hlocked
    have hzero : s.monitored.numCallbacks ≠ 0 := hs.hasCallbacks (by rw [hthread]; rfl)
    cases hstep
    rw [if_neg hzero]
    refine hs.thread s.locks ?_ (by rw [hthread]; nofun) ?_
    · rw [hthread]
      split <;> rfl
    · split <;> nofun

theorem Monitored.slot (hs : s.Monitored) (hstep : s.slot = some s') : s'.Monitored := by
  unfold StandbyMonitor.slot at hstep
  split at hstep
  · next i ack hthread =>
    have hgone : s.thread ≠ .gone := by
      rw [hthread]
      exact fun hgone => by cases hgone
    have hgoes {thread : MonitorThread} (hmutex : thread.hasMutex = true) (hcalls : Calls s.monitored thread) :
        Monitored { s with thread } :=
      hs.thread s.locks (by rw [hmutex, hthread]; rfl) hgone hcalls
    cases hstep
    split
    · exact hgoes rfl fun _ _ _ _ hcalls => by cases hcalls
    · split
      · exact hgoes rfl fun _ _ _ _ hcalls => by cases hcalls
      · next callback hcallback =>
        split
        · exact hgoes rfl fun _ _ _ _ hcalls => by cases hcalls
        · split
          · exact hgoes rfl fun _ _ _ _ hcalls => by cases hcalls
          · next context hcontext =>
            refine hgoes rfl ?_
            rintro i callback context place ⟨⟩
            exact ⟨Option.join_eq_some_iff.mp hcallback, Option.join_eq_some_iff.mp hcontext⟩
  · cases hstep

theorem Monitored.callbackLocks (hs : s.Monitored) (hstep : s.callbackLocks = some s') : s'.Monitored := by
  unfold StandbyMonitor.callbackLocks at hstep
  split at hstep
  · next i callback context place hthread =>
    have hin (place : CallbackPlace) (locks : Nat → Option LockHolder) :
        Monitored { s with locks, thread := .callback i callback context place } := by
      refine hs.thread locks (by rw [hthread]; rfl) (by rw [hthread]; nofun) ?_
      rintro i callback context place' ⟨⟩
      exact hs.calls _ _ _ _ hthread
    split at hstep
    · cases hstep
    · split at hstep
      · cases hstep
        exact hin .reads _
      · cases hstep
        exact hin .stops _
      · cases hstep
  · cases hstep

theorem Monitored.callbackReads (hs : s.Monitored) {started : Bool} (hstep : s.callbackReads started = some s') :
    s'.Monitored := by
  unfold StandbyMonitor.callbackReads at hstep
  split at hstep
  · next i callback context hthread =>
    cases hstep
    refine hs.thread _ ?_ (by rw [hthread]; nofun) ?_
    · rw [hthread]
      split <;> rfl
    · split
      · rintro i callback context place ⟨⟩
        exact hs.calls _ _ _ _ hthread
      · nofun
  · cases hstep

theorem Monitored.callbackStops (hs : s.Monitored) (hstep : s.callbackStops = some s') : s'.Monitored := by
  unfold StandbyMonitor.callbackStops at hstep
  split at hstep
  · next i callback context hthread =>
    cases hstep
    refine hs.thread _ (by rw [hthread]; rfl) (by rw [hthread]; nofun) ?_
    rintro i callback context place ⟨⟩
    exact hs.calls _ _ _ _ hthread
  · cases hstep

theorem Monitored.callbackSuspends (hs : s.Monitored) (hstep : s.callbackSuspends = some s') : s'.Monitored := by
  unfold StandbyMonitor.callbackSuspends at hstep
  split at hstep
  · next i callback context hthread =>
    cases hstep
    exact hs.thread s.locks (by rw [hthread]; rfl) (by rw [hthread]; nofun) nofun
  · cases hstep

theorem Monitored.unlock (hs : s.Monitored) (hstep : s.unlock = some s') : s'.Monitored := by
  unfold StandbyMonitor.unlock at hstep
  split at hstep
  · cases hstep
  · next hunlocks =>
    have hthread := not_not.mp hunlocks
    have hcall : s.call.hasMutex ≠ true := fun hhas => by
      have hfree := hs.notCalling hhas
      rw [hthread] at hfree
      cases hfree
    cases hstep
    exact ⟨hs.sound, iff_of_false nofun hcall, iff_of_false nofun nofun, fun _ => hs.running (by rw [hthread]; nofun),
      hs.exits, nofun⟩

theorem Monitored.wake (hs : s.Monitored) (hstep : s.wake = some s') : s'.Monitored := by
  unfold StandbyMonitor.wake at hstep
  split at hstep
  · cases hstep
  · next hsleeps =>
    have hthread := not_not.mp hsleeps
    cases hstep
    exact hs.thread s.locks (by rw [hthread]; rfl) (by rw [hthread]; nofun) nofun

/-! ### Runs -/

theorem Monitored.take (hs : s.Monitored) {stream : Nat} (hstep : s.take stream = some s') : s'.Monitored := by
  unfold StandbyMonitor.take at hstep
  split at hstep
  · cases hstep
  · cases hstep
    exact hs.call s.streams _ rfl rfl

theorem Monitored.give (hs : s.Monitored) {stream : Nat} (hstep : s.give stream = some s') : s'.Monitored := by
  unfold StandbyMonitor.give at hstep
  split at hstep
  · cases hstep
  · cases hstep
    exact hs.call s.streams _ rfl rfl

theorem Monitored.step (hs : s.Monitored) {a : MonitorAction} (hstep : s.step a = some s') : s'.Monitored := by
  cases a with
  | openStream callback => exact hs.openStream hstep
  | closeStream stream => exact hs.closeStream hstep
  | lockStream => exact hs.lockStream hstep
  | stopWaits => exact hs.stopWaits hstep
  | stopped => exact hs.stopped hstep
  | lockMutex => exact hs.lockMutex hstep
  | register run => exact hs.register hstep
  | opened ok => exact hs.opened hstep
  | unregister => exact hs.unregister hstep
  | exited => exact hs.exited hstep
  | callEnds => exact hs.callEnds hstep
  | loop => exact hs.loop hstep
  | tryLock => exact hs.tryLock hstep
  | status ackNeeded standby => exact hs.status hstep
  | slot => exact hs.slot hstep
  | callbackLocks => exact hs.callbackLocks hstep
  | callbackReads started => exact hs.callbackReads hstep
  | callbackStops => exact hs.callbackStops hstep
  | callbackSuspends => exact hs.callbackSuspends hstep
  | unlock => exact hs.unlock hstep
  | wake => exact hs.wake hstep
  | take stream => exact hs.take hstep
  | give stream => exact hs.give hstep

theorem Monitored.init : ({} : StandbyMonitor).Monitored :=
  ⟨.init, iff_of_false nofun nofun, iff_of_false nofun nofun, fun hgone => absurd rfl hgone, nofun, nofun⟩

/-- The callbacks are counted, only a callback that is registered runs, with its context, and the thread does not sleep with
    the mutex. -/
structure MonitorSound (s : StandbyMonitor) : Prop where
  counts : s.monitored.numCallbacks = s.monitored.callbacks.countP Option.isSome
  calls : ∀ id callback context place, s.thread = .callback id callback context place →
    { id, callback, context } ∈ s.registrations
  unlocked : s.thread = .sleeps → s.mutex ≠ some .monitor

theorem Monitored.monitorSound (hs : s.Monitored) : s.MonitorSound := by
  refine ⟨hs.sound.count, fun id callback context place hthread => ?_, fun hsleeps hmutex => ?_⟩
  · obtain ⟨hcallback, hcontext⟩ := hs.calls _ _ _ _ hthread
    obtain ⟨context', hcontext', hmem⟩ := hs.sound.registered id callback hcallback
    rw [hcontext] at hcontext'
    cases hcontext'
    exact hmem
  · have hhas := hs.monitor.mp hmutex
    rw [hsleeps] at hhas
    cases hhas

/-- The call waits for the mutex that the thread has, or for the exit of the thread. -/
def CallWaits (s : StandbyMonitor) : Prop :=
  s.call.waitsForMutex = true ∧ s.mutex = some .monitor ∨ s.call.waitsForExit = true

/-- The call waits for the thread, and the thread for a lock that the call has. -/
def Deadlock (s : StandbyMonitor) : Prop :=
  s.CallWaits ∧ ∃ stream, s.thread.waitsFor stream = true ∧ s.locks stream = some .device

/-- A close takes the lock of its stream only while the callback of the stream does not wait for it, and the callback of a
    stream is called only while no close has its lock. -/
def monitorKept (s : StandbyMonitor) : MonitorAction → Bool
  | .lockStream => match s.call with
    | .closes stream => !s.thread.waitsFor stream
    | _ => true
  | .slot => match s.thread with
    | .slot i true => (s.monitored.contexts[i]?.join).all fun context => s.locks context ≠ some .device
    | _ => true
  | _ => true

/-- The thread does not wait for a lock that the call has. -/
def Apart (s : StandbyMonitor) : Prop := ∀ stream, s.thread.waitsFor stream = true → s.locks stream ≠ some .device

theorem Apart.not_deadlock (hs : s.Apart) : ¬ s.Deadlock := by
  rintro ⟨-, stream, hwaits, hlock⟩
  exact hs stream hwaits hlock

theorem waitsFor_eq {thread : MonitorThread} {stream : Nat} (h : thread.waitsFor stream = true) :
    ∃ i callback, thread = .callback i callback stream .waitsToRead ∨ thread = .callback i callback stream .waitsToStop := by
  unfold MonitorThread.waitsFor at h
  split at h
  · next i callback context => exact ⟨i, callback, .inl (by rw [of_decide_eq_true h])⟩
  · next i callback context => exact ⟨i, callback, .inr (by rw [of_decide_eq_true h])⟩
  · cases h

theorem CallWaits.eq (h : s.CallWaits) :
    s.mutex = some .monitor ∧ (∃ stream, s.call = .opens stream) ∨
    s.mutex = some .monitor ∧ (∃ stream locked, s.call = .unregisters stream locked .waitsForMutex) ∨
    ∃ stream locked, s.call = .unregisters stream locked .waitsForExit := by
  rcases h with ⟨hwaits, hmutex⟩ | hwaits
  · unfold DeviceCall.waitsForMutex at hwaits
    split at hwaits
    · next stream hcall => exact .inl ⟨hmutex, stream, hcall⟩
    · next stream locked hcall => exact .inr (.inl ⟨hmutex, stream, locked, hcall⟩)
    · cases hwaits
  · unfold DeviceCall.waitsForExit at hwaits
    split at hwaits
    · next stream locked hcall => exact .inr (.inr ⟨stream, locked, hcall⟩)
    · cases hwaits

theorem Deadlock.step (hs : s.Deadlock) {a : MonitorAction} (hstep : s.step a = some s') : s'.Deadlock := by
  obtain ⟨hcall, stream, hwaits, hlock⟩ := hs
  have hupdate {stream' : Nat} {holder : Option LockHolder} (hne : s.locks stream' ≠ some .device) :
      Deadlock { s with locks := Function.update s.locks stream' holder } := by
    refine ⟨hcall, stream, hwaits, (Function.update_of_ne ?_ ..).trans hlock⟩
    rintro rfl
    exact hne hlock
  obtain ⟨i, callback, hthread⟩ := waitsFor_eq hwaits
  cases a with
  | take stream' =>
    simp only [StandbyMonitor.step, StandbyMonitor.take] at hstep
    split at hstep
    · cases hstep
    · next hfree =>
      cases hstep
      exact hupdate fun hheld => Option.some_ne_none _ (hheld.symm.trans (not_not.mp hfree))
  | give stream' =>
    simp only [StandbyMonitor.step, StandbyMonitor.give] at hstep
    split at hstep
    · cases hstep
    · next hother =>
      cases hstep
      refine hupdate fun hheld => ?_
      have hdevice := hheld.symm.trans (not_not.mp hother)
      cases hdevice
  | closeStream stream' =>
    have hcall : s.call ≠ .none := by
      rcases hcall.eq with ⟨-, _, hcall⟩ | ⟨-, _, _, hcall⟩ | ⟨_, _, hcall⟩ <;> simp [hcall]
    simp only [StandbyMonitor.step, StandbyMonitor.closeStream] at hstep
    split at hstep
    · cases hstep
    · simp [hcall] at hstep
  | exited =>
    have hgone : s.thread ≠ .gone := by
      rcases hthread with hthread | hthread <;> simp [hthread]
    simp only [StandbyMonitor.step, StandbyMonitor.exited] at hstep
    split at hstep
    · split at hstep
      · cases hstep
      · rw [if_pos hgone] at hstep
        cases hstep
    · cases hstep
  | _ =>
    exfalso
    rcases hthread with hthread | hthread <;>
      rcases hcall.eq with ⟨hmutex, _, hcall⟩ | ⟨hmutex, _, _, hcall⟩ | ⟨_, _, hcall⟩ <;>
      simp [StandbyMonitor.step, openStream, lockStream, stopWaits, stopped, lockMutex, register, opened, unregister, callEnds,
        loop, tryLock, status, slot, callbackLocks, callbackReads, callbackStops, callbackSuspends, unlock, wake, *] at hstep

theorem Apart.update (hs : s.Apart) (stream : Nat) {holder : Option LockHolder} (hholder : holder ≠ some .device) :
    Apart { s with locks := Function.update s.locks stream holder } := by
  intro stream' hwaits
  by_cases heq : stream' = stream
  · subst heq
    exact (Function.update_self ..).trans_ne hholder
  · exact (Function.update_of_ne heq ..).trans_ne (hs stream' hwaits)

theorem Apart.of_not_waits (h : ∀ stream, s.thread.waitsFor stream = false) : s.Apart := by
  intro stream hwaits
  rw [h stream] at hwaits
  cases hwaits

theorem Apart.lockStream (hs : s.Apart) (hkept : monitorKept s .lockStream = true) (hstep : s.lockStream = some s') :
    s'.Apart := by
  unfold StandbyMonitor.lockStream at hstep
  split at hstep
  · next stream hcall =>
    simp only [monitorKept, hcall, Bool.not_eq_true'] at hkept
    split at hstep
    · cases hstep
    · cases hstep
      intro stream' hwaits
      have hne : stream' ≠ stream := by
        rintro rfl
        rw [hkept] at hwaits
        cases hwaits
      exact (Function.update_of_ne hne ..).trans_ne (hs stream' hwaits)
  · cases hstep

theorem Apart.register (hs : s.Apart) {run : Bool} (hstep : s.register run = some s') : s'.Apart := by
  unfold StandbyMonitor.register at hstep
  split at hstep
  · split at hstep
    · cases hstep
    · split at hstep
      · cases hstep
        exact hs
      · next started _ _ =>
        cases hstep
        cases started
        · exact hs
        · exact .of_not_waits fun _ => rfl
  · cases hstep

theorem Apart.callEnds (hs : s.Apart) (hstep : s.callEnds = some s') : s'.Apart := by
  unfold StandbyMonitor.callEnds at hstep
  split at hstep
  · next stream locked _ =>
    cases hstep
    cases locked
    · exact hs
    · exact hs.update stream nofun
  · cases hstep

theorem Apart.slot (hkept : monitorKept s .slot = true) (hstep : s.slot = some s') : s'.Apart := by
  unfold StandbyMonitor.slot at hstep
  split at hstep
  · next i ack hthread =>
    cases hstep
    split
    · exact .of_not_waits fun _ => rfl
    · split
      · exact .of_not_waits fun _ => rfl
      · split
        · exact .of_not_waits fun _ => rfl
        · next hack =>
          split
          · exact .of_not_waits fun _ => rfl
          · next context hcontext =>
            have hack : ack = true := by simpa using hack
            subst hack
            simp only [monitorKept, hthread, hcontext, Option.all_some, decide_eq_true_eq] at hkept
            intro stream hwaits
            cases (of_decide_eq_true hwaits : context = stream)
            exact hkept
  · cases hstep

theorem Apart.callbackReads {started : Bool} (hstep : s.callbackReads started = some s') : s'.Apart := by
  unfold StandbyMonitor.callbackReads at hstep
  split at hstep
  · next i callback context hthread =>
    cases hstep
    split
    · intro stream hwaits
      cases (of_decide_eq_true hwaits : context = stream)
      exact (Function.update_self ..).trans_ne nofun
    · exact .of_not_waits fun _ => rfl
  · cases hstep

theorem Apart.step (hs : s.Apart) {a : MonitorAction} (hkept : monitorKept s a = true) (hstep : s.step a = some s') :
    s'.Apart := by
  cases a with
  | openStream callback =>
    simp only [StandbyMonitor.step, StandbyMonitor.openStream] at hstep
    split at hstep <;> cases hstep
    exact hs
  | closeStream stream =>
    simp only [StandbyMonitor.step, StandbyMonitor.closeStream] at hstep
    repeat' split at hstep
    all_goals cases hstep
    exact hs
  | lockStream => exact hs.lockStream hkept hstep
  | stopWaits =>
    simp only [StandbyMonitor.step, StandbyMonitor.stopWaits] at hstep
    repeat' split at hstep
    all_goals cases hstep
    exact hs.update _ fun hdevice => by cases hdevice
  | stopped =>
    simp only [StandbyMonitor.step, StandbyMonitor.stopped] at hstep
    split at hstep <;> cases hstep
    exact hs
  | lockMutex =>
    simp only [StandbyMonitor.step, StandbyMonitor.lockMutex] at hstep
    repeat' split at hstep
    all_goals cases hstep
    all_goals exact hs
  | register run => exact hs.register hstep
  | opened ok =>
    simp only [StandbyMonitor.step, StandbyMonitor.opened] at hstep
    repeat' split at hstep
    all_goals cases hstep
    all_goals exact hs
  | unregister =>
    simp only [StandbyMonitor.step, StandbyMonitor.unregister] at hstep
    repeat' split at hstep
    all_goals cases hstep
    all_goals exact hs
  | exited =>
    simp only [StandbyMonitor.step, StandbyMonitor.exited] at hstep
    repeat' split at hstep
    all_goals cases hstep
    exact hs
  | callEnds => exact hs.callEnds hstep
  | loop =>
    simp only [StandbyMonitor.step, StandbyMonitor.loop] at hstep
    split at hstep <;> cases hstep
    refine .of_not_waits fun _ => ?_
    dsimp only
    split <;> rfl
  | tryLock =>
    simp only [StandbyMonitor.step, StandbyMonitor.tryLock] at hstep
    split at hstep <;> cases hstep
    refine .of_not_waits fun _ => ?_
    split <;> rfl
  | status ackNeeded standby =>
    simp only [StandbyMonitor.step, StandbyMonitor.status] at hstep
    split at hstep <;> cases hstep
    refine .of_not_waits fun _ => ?_
    dsimp only
    split
    · rfl
    · split <;> rfl
  | slot => exact .slot hkept hstep
  | callbackLocks =>
    simp only [StandbyMonitor.step, StandbyMonitor.callbackLocks] at hstep
    repeat' split at hstep
    all_goals cases hstep
    all_goals exact .of_not_waits fun _ => rfl
  | callbackReads started => exact .callbackReads hstep
  | callbackStops =>
    simp only [StandbyMonitor.step, StandbyMonitor.callbackStops] at hstep
    split at hstep <;> cases hstep
    exact .of_not_waits fun _ => rfl
  | callbackSuspends =>
    simp only [StandbyMonitor.step, StandbyMonitor.callbackSuspends] at hstep
    split at hstep <;> cases hstep
    exact .of_not_waits fun _ => rfl
  | unlock =>
    simp only [StandbyMonitor.step, StandbyMonitor.unlock] at hstep
    split at hstep <;> cases hstep
    exact .of_not_waits fun _ => rfl
  | wake =>
    simp only [StandbyMonitor.step, StandbyMonitor.wake] at hstep
    split at hstep <;> cases hstep
    exact .of_not_waits fun _ => rfl
  | take stream =>
    simp only [StandbyMonitor.step, StandbyMonitor.take] at hstep
    split at hstep <;> cases hstep
    exact hs.update stream fun hdevice => by cases hdevice
  | give stream =>
    simp only [StandbyMonitor.step, StandbyMonitor.give] at hstep
    split at hstep <;> cases hstep
    exact hs.update stream fun hdevice => by cases hdevice

/-- The count, the callbacks and the mutex are right in every run; and in every run in which the close of a stream and the
    callback of the stream keep apart there is no deadlock. -/
theorem monitor_stops (s : StandbyMonitor) (h : Reaches StandbyMonitor.step (fun _ _ => True) {} s) :
    s.MonitorSound ∧ (Reaches StandbyMonitor.step (fun s a => monitorKept s a = true) {} s → ¬ s.Deadlock) := by
  refine ⟨(h.invariant (P := Monitored) Monitored.init fun _ _ _ hs _ hstep => hs.step hstep).monitorSound, fun hkept => ?_⟩
  have hinit : ({} : StandbyMonitor).Apart := .of_not_waits fun _ => rfl
  exact (hkept.invariant (P := Apart) hinit fun _ _ _ hs hok hstep => hs.step hok hstep).not_deadlock

/-- Two streams are opened; the thread asks both and stops the first one. Then both are closed and the thread exits. -/
theorem monitor_stops_two : ∃ s : StandbyMonitor,
    (s.thread = .gone ∧ s.monitored.numCallbacks = 0 ∧ s.call = .none ∧ s.streams.length = 2) ∧
    s.MonitorSound ∧ ¬ s.Deadlock := by
  obtain ⟨s, hs, hp⟩ := Reaches.exists_of_run StandbyMonitor.step monitorKept {}
    [.openStream .nexus, .lockMutex, .register true, .loop, .opened true, .openStream .tunnel, .lockMutex, .register true,
      .opened true, .tryLock, .status true true, .slot, .callbackLocks, .callbackReads true, .callbackLocks, .callbackStops,
      .callbackSuspends, .slot, .callbackLocks, .closeStream 0, .lockStream, .stopped, .callbackReads false, .slot, .slot,
      .unlock, .lockMutex, .unregister, .callEnds, .closeStream 1, .lockStream, .stopWaits, .lockStream, .stopped, .lockMutex,
      .unregister, .wake, .loop, .exited, .callEnds]
    (fun s => s.thread = .gone ∧ s.monitored.numCallbacks = 0 ∧ s.call = .none ∧ s.streams.length = 2) (by decide +kernel)
  obtain ⟨hsound, hfree⟩ := monitor_stops s (hs.mono fun _ _ _ => trivial)
  exact ⟨s, of_decide_eq_true hp, hsound, hfree hs⟩

/-- The thread calls the callback of a stream; before the callback gets the lock of the stream, a close takes it, and then
    waits for the mutex. -/
theorem close_deadlocks : ∃ s, Reaches StandbyMonitor.step (fun _ _ => True) {} s ∧ s.Deadlock := by
  obtain ⟨s, hs, hp⟩ := Reaches.exists_of_run StandbyMonitor.step (fun _ _ => true) {}
    [.openStream .nexus, .lockMutex, .register true, .opened true, .loop, .tryLock, .status true true, .slot, .closeStream 0,
      .lockStream, .stopped]
    (fun s => (s.call.waitsForMutex = true ∧ s.mutex = some .monitor) ∧ s.thread.waitsFor 0 = true ∧
      s.locks 0 = some .device) (by decide +kernel)
  obtain ⟨hcall, hthread⟩ := of_decide_eq_true hp
  exact ⟨s, hs.mono fun _ _ _ => trivial, .inl hcall, 0, hthread⟩

end StandbyMonitor
end BcmPlatform.Audio
