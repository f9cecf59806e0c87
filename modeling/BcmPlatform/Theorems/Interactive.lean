import Mathlib.Algebra.GroupWithZero.Nat
import BcmPlatform.Power.Interactive
import BcmPlatform.Lib.Runs

/-! Requests to turn the screen on and off serialise where each one finds the thread of the one before in its loop. The flags
    that a request reads are those of the thread before only from there on. -/

namespace BcmPlatform.Power
open Lib

/-- The thread has not reset the flags. -/
def ThreadPlace.starting : ThreadPlace → Bool
  | .standbyFinish | .doze false | .setsDozeState false | .resetsFlags => true
  | _ => false

/-- The thread is inside the loop of `power_event_monitor_thread`. -/
def ThreadPlace.inLoop : ThreadPlace → Bool
  | .testsExit | .polls | .setsPoweroffState | .preparesSuspend _ | .doze true | .setsDozeState true => true
  | _ => false

/-- The thread is idle in the loop. -/
def ThreadPlace.idle : ThreadPlace → Bool
  | .testsExit | .polls => true
  | _ => false

/-- The thread has the power state of its request still to set. -/
def ThreadPlace.sets (on : Bool) : ThreadPlace → Bool
  | .standbyFinish => on
  | .doze false | .setsDozeState false => !on
  | _ => false

/-- The thread sets no power state unless there is a power event. -/
def ThreadPlace.settled : ThreadPlace → Bool
  | .resetsFlags | .testsExit | .polls | .exits => true
  | _ => false

/-- The steps that a thread in the loop takes at most until it has exited, when it is told to exit. -/
def ThreadPlace.exitDistance : ThreadPlace → Nat
  | .exits => 1
  | .testsExit => 2
  | .setsDozeState _ => 3
  | .doze _ => 4
  | .preparesSuspend _ => 5
  | .setsPoweroffState => 6
  | _ => 7

def PowerAction.ofThread : PowerAction → Bool
  | .thread _ | .polled .. | .poweroffSet .. => true
  | _ => false

/-- The request that is being made. -/
def InteractiveCall.request : InteractiveCall → Option Bool
  | .kills on | .waits on | .creates on => some on
  | .releases => some true
  | .none => .none

/-- The request has created its thread. -/
def InteractiveCall.created : InteractiveCall → Bool
  | .none | .releases => true
  | _ => false

/-- The request waits for the thread. -/
def InteractiveCall.waiting : InteractiveCall → Bool
  | .waits _ => true
  | _ => false

namespace PowerHal
variable {config : PowerConfig} {s s' : PowerHal}

/-- The power state that a request asks for. -/
def requested (config : PowerConfig) (on : Bool) : PowerState := if on then .s0 else config.dozeState

def exitDistance (s : PowerHal) : Nat := (s.threads.map ThreadPlace.exitDistance).sum

/-- One thread at most is in the loop; the threads before have exited when a request creates its thread; what the last
    request asked for is what is set, and the wake lock is held after a request with `on` only for a shutdown; and a thread
    that is told to exit comes nearer to it with each of its steps. -/
structure Serialised (config : PowerConfig) (s : PowerHal) : Prop where
  one : s.threads.countP ThreadPlace.inLoop ≤ 1
  killed : ∀ on, s.call = .creates on → s.threads = []
  settled : s.call = .none → (∀ p ∈ s.threads, p.idle = true) → s.eventSince = false → ∀ on, s.lastRequest = some on →
    s.lastState = some (requested config on) ∧ (on = true → s.wakeLockAcquired = true → s.shutdownStarted = true)
  heard : ∀ on, s.call = .waits on → s.exited = false → s.exit = true ∧ s.threads ≠ []
  returns : ∀ on, s.call = .waits on → s.exited = false → ∀ a s', s.step config a = some s' →
    s'.exited = true ∨ s'.exitDistance + (if a.ofThread then 1 else 0) ≤ s.exitDistance

/-- `power_kill_thread` reads the flags only when the thread before has reset them. -/
def interactiveKept (s : PowerHal) : PowerAction → Bool
  | .killThread => s.threads.all fun p => !p.starting
  | _ => true

/-! ### One thread at a time -/

def Quiet (s : PowerHal) : Prop := s.threads = [] ∧ s.exited = true

/-- The thread of the last request has not reset the flags. -/
def Starting (s : PowerHal) : Prop :=
  s.exited = true ∧ s.call.waiting = false ∧ ∃ p, s.threads = [p] ∧ p.starting = true

/-- The thread has reset the flags; it is told to exit while a request waits for it. -/
def Monitoring (s : PowerHal) : Prop :=
  s.exited = false ∧ s.exit = s.call.waiting ∧ ∃ p, s.threads = [p] ∧ p.starting = false

structure Serial (s : PowerHal) : Prop where
  phase : s.Quiet ∨ s.Starting ∨ s.Monitoring
  creates : ∀ on, s.call = .creates on → s.threads = []

theorem Serial.get (hs : s.Serial) {i : Nat} {p : ThreadPlace} (hp : s.threads[i]? = some p) :
    i = 0 ∧ s.threads = [p] := by
  have hone {q : ThreadPlace} (hq : s.threads = [q]) : i = 0 ∧ s.threads = [p] := by
    rw [hq] at hp ⊢
    cases i with
    | zero =>
      cases hp
      exact ⟨rfl, rfl⟩
    | succ i => cases hp
  rcases hs.phase with hquiet | ⟨-, -, q, hq, -⟩ | ⟨-, -, q, hq, -⟩
  · rw [hquiet.1] at hp
    cases hp
  · exact hone hq
  · exact hone hq

theorem Serial.move (hs : s.Serial) {p q : ThreadPlace} (hp : s.threads = [p]) (hq : q.starting = p.starting)
    (hexited : s'.exited = s.exited) (hexit : s'.exit = s.exit) (hcall : s'.call = s.call) (hthreads : s'.threads = [q]) :
    s'.Serial := by
  refine ⟨?_, fun on hcreates => ?_⟩
  · rcases hs.phase with hquiet | ⟨hflag, hwaits, r, hr, hstarting⟩ | ⟨hflag, hwaits, r, hr, hstarting⟩
    · cases hp.symm.trans hquiet.1
    · cases hp.symm.trans hr
      exact .inr (.inl ⟨hexited.trans hflag, hcall ▸ hwaits, q, hthreads, hq.trans hstarting⟩)
    · cases hp.symm.trans hr
      exact .inr (.inr ⟨hexited.trans hflag, (hexit.trans hwaits).trans (by rw [hcall]), q, hthreads, hq.trans hstarting⟩)
  · rw [hs.creates on (hcall ▸ hcreates)] at hp
    cases hp

theorem Serial.frame (hs : s.Serial) (hexited : s'.exited = s.exited) (hexit : s'.exit = s.exit)
    (hwaits : s'.call.waiting = s.call.waiting) (hcreates : ∀ on, s'.call ≠ .creates on) (hthreads : s'.threads = s.threads) :
    s'.Serial := by
  refine ⟨?_, fun on hcall => absurd hcall (hcreates on)⟩
  unfold Quiet Starting Monitoring
  rw [hexited, hexit, hwaits, hthreads]
  exact hs.phase

/-! ### What was asked for last -/

/-- Since the last thread was created: it has the requested state still to set, or that was what was set last. After a
    request with `on` the wake lock is held only for a shutdown. -/
structure Settles (config : PowerConfig) (s : PowerHal) : Prop where
  request : ∀ on, s.call.request = some on → s.lastRequest = some on
  state : s.call.created = true → s.eventSince = false → ∀ on, s.lastRequest = some on →
    (∃ p, s.threads = [p] ∧ p.sets on = true) ∨
    s.lastState = some (requested config on) ∧ ∀ p ∈ s.threads, p.settled = true
  wakeLock : s.call = .none → s.eventSince = false → s.lastRequest = some true → s.wakeLockAcquired = true →
    s.shutdownStarted = true

theorem Settles.move (hs : s.Settles config) {p : ThreadPlace} (hp : s.threads = [p]) (hcall : s'.call = s.call)
    (hrequest : s'.lastRequest = s.lastRequest) (hevent : s'.eventSince = false → s.eventSince = false)
    (hsets : s'.eventSince = false → ∀ on, p.sets on = true → (∃ q, s'.threads = [q] ∧ q.sets on = true) ∨
      s'.lastState = some (requested config on) ∧ ∀ q ∈ s'.threads, q.settled = true)
    (hsettled : s'.eventSince = false → p.settled = true → s'.lastState = s.lastState ∧ ∀ q ∈ s'.threads, q.settled = true)
    (hlock : p.sets true = true ∨ p.settled = true →
      s'.wakeLockAcquired = s.wakeLockAcquired ∧ s'.shutdownStarted = s.shutdownStarted) : s'.Settles config := by
  refine ⟨fun on hon => ?_, fun hcreated hnone on hon => ?_, fun hidle hnone hon hheld => ?_⟩
  · rw [hcall] at hon
    rw [hrequest]
    exact hs.request on hon
  · rw [hcall] at hcreated
    rw [hrequest] at hon
    rcases hs.state hcreated (hevent hnone) on hon with ⟨q, hq, hqsets⟩ | ⟨hstate, hall⟩
    · cases hp.symm.trans hq
      exact hsets hnone on hqsets
    · obtain ⟨hkeeps, hall'⟩ := hsettled hnone (hall p (by simp [hp]))
      exact .inr ⟨hkeeps.trans hstate, hall'⟩
  · rw [hcall] at hidle
    rw [hrequest] at hon
    have hp : p.sets true = true ∨ p.settled = true := by
      rcases hs.state (by rw [hidle]; rfl) (hevent hnone) true hon with ⟨q, hq, hqsets⟩ | ⟨-, hall⟩
      · cases hp.symm.trans hq
        exact .inl hqsets
      · exact .inr (hall p (by simp [hp]))
    obtain ⟨hsame, hshutdown⟩ := hlock hp
    rw [hsame] at hheld
    rw [hshutdown]
    exact hs.wakeLock hidle (hevent hnone) hon hheld

theorem Settles.frame (hs : s.Settles config) (hcall : s'.call = s.call) (hthreads : s'.threads = s.threads)
    (hrequest : s'.lastRequest = s.lastRequest) (hevent : s'.eventSince = s.eventSince) (hstate : s'.lastState = s.lastState)
    (hlock : s'.wakeLockAcquired = true → s'.shutdownStarted = true ∨
      s.wakeLockAcquired = true ∧ s'.shutdownStarted = s.shutdownStarted) : s'.Settles config := by
  refine ⟨?_, ?_, fun hidle hnone hon hheld => ?_⟩
  · rw [hcall, hrequest]
    exact hs.request
  · rw [hcall, hthreads, hrequest, hevent, hstate]
    exact hs.state
  · rcases hlock hheld with hshutdown | ⟨hheld, hshutdown⟩
    · exact hshutdown
    · rw [hshutdown]
      exact hs.wakeLock (hcall ▸ hidle) (hevent ▸ hnone) (hrequest ▸ hon) hheld

theorem Settles.requesting (hcreated : s.call.created = false)
    (hrequest : ∀ on, s.call.request = some on → s.lastRequest = some on) : s.Settles config := by
  refine ⟨hrequest, fun hcreated' => ?_, fun hidle => ?_⟩
  · rw [hcreated] at hcreated'
    cases hcreated'
  · rw [hidle] at hcreated
    cases hcreated

/-! ### What the functions change -/

theorem releaseWakeLock_eq : s.releaseWakeLock = { s with wakeLockAcquired := s.wakeLockAcquired && s.shutdownStarted } := by
  unfold releaseWakeLock
  cases s with
  | mk exit exited wakeLockAcquired shutdownStarted =>
    cases wakeLockAcquired <;> cases shutdownStarted <;> rfl

theorem powerDoze_eq (s : PowerHal) (config : PowerConfig) (timeout : Int) : ∃ wakeLockAcquired dozeTimerArmed,
    s.powerDoze config timeout = { s with wakeLockAcquired, dozeTimerArmed } := by
  unfold powerDoze
  dsimp only
  generalize (if config.offState = .s2 || config.offState = .s3 || config.offState = .s5 then timeout else -1) = timeout
  split
  · split
    · exact ⟨_, _, rfl⟩
    · exact ⟨_, s.dozeTimerArmed, rfl⟩
  · rw [releaseWakeLock_eq]
    split
    · exact ⟨_, _, rfl⟩
    · exact ⟨_, s.dozeTimerArmed, rfl⟩

theorem powerSetState_eq (s : PowerHal) (state : PowerState) : ∃ wakeLockAcquired shutdowns,
    s.powerSetState state = { s with lastState := some state, wakeLockAcquired, shutdowns } := by
  unfold powerSetState
  dsimp only
  split
  · exact ⟨_, _, rfl⟩
  · exact ⟨s.wakeLockAcquired, s.shutdowns, rfl⟩

/-! ### The threads -/

structure Kept (config : PowerConfig) (s : PowerHal) : Prop where
  serial : s.Serial
  settles : s.Settles config

theorem moveTo_threads {p q : ThreadPlace} (hp : s.threads = [p]) : (s.moveTo 0 q).threads = [q] := by
  unfold moveTo
  rw [hp]
  rfl

theorem settled_of_singleton {q : ThreadPlace} (hq : s.threads = [q]) (hsettled : q.settled = true) :
    ∀ p ∈ s.threads, p.settled = true := by
  simp [hq, hsettled]

theorem Kept.standbyFinish (hs : s.Kept config) (hp : s.threads = [.standbyFinish]) :
    ((s.powerSetState .s0).moveTo 0 .resetsFlags).Kept config := by
  have hq : ((s.powerSetState .s0).moveTo 0 .resetsFlags).threads = [.resetsFlags] := moveTo_threads hp
  refine ⟨hs.serial.move (q := .resetsFlags) hp rfl rfl rfl rfl hq, hs.settles.move hp rfl rfl id (fun _ on hsets => .inr ?_)
    nofun fun _ => ⟨rfl, rfl⟩⟩
  cases (hsets : on = true)
  exact ⟨rfl, settled_of_singleton hq rfl⟩

theorem Kept.doze (hs : s.Kept config) {inLoop : Bool} (hp : s.threads = [.doze inLoop]) (timeout : Int) :
    ((s.powerDoze config timeout).moveTo 0 (.setsDozeState inLoop)).Kept config := by
  obtain ⟨wakeLockAcquired, dozeTimerArmed, heq⟩ := powerDoze_eq s config timeout
  rw [heq]
  have hq := moveTo_threads (s := { s with wakeLockAcquired, dozeTimerArmed }) (q := .setsDozeState inLoop) hp
  refine ⟨hs.serial.move hp ?_ rfl rfl rfl hq, hs.settles.move hp rfl rfl id (fun _ on hsets => .inl ⟨_, hq, ?_⟩) ?_ ?_⟩
  · cases inLoop <;> rfl
  · cases inLoop
    · exact hsets
    · cases hsets
  · cases inLoop <;> nofun
  · cases inLoop <;> rintro (hno | hno) <;> cases hno

theorem Kept.setsDozeState (hs : s.Kept config) {inLoop : Bool} (hp : s.threads = [.setsDozeState inLoop]) :
    ((s.powerSetState config.dozeState).moveTo 0 (if inLoop then .testsExit else .resetsFlags)).Kept config := by
  obtain ⟨wakeLockAcquired, shutdowns, heq⟩ := powerSetState_eq s config.dozeState
  rw [heq]
  have hq := moveTo_threads (s := { s with lastState := some config.dozeState, wakeLockAcquired, shutdowns })
    (q := if inLoop then .testsExit else .resetsFlags) hp
  refine ⟨hs.serial.move hp ?_ rfl rfl rfl hq, hs.settles.move hp rfl rfl id (fun _ on hsets => .inr ?_) ?_ ?_⟩
  · cases inLoop <;> rfl
  · cases inLoop
    · cases on
      · exact ⟨rfl, settled_of_singleton hq rfl⟩
      · cases hsets
    · cases hsets
  · cases inLoop <;> nofun
  · cases inLoop <;> rintro (hno | hno) <;> cases hno

theorem Kept.resetsFlags (hs : s.Kept config) (hp : s.threads = [.resetsFlags]) {q : ThreadPlace}
    (hstarting : q.starting = false) (hsettled : q.settled = true) :
    (PowerHal.moveTo 0 q { s with exit := false, exited := false }).Kept config := by
  have hq := moveTo_threads (s := { s with exit := false, exited := false }) (q := q) hp
  refine ⟨⟨.inr (.inr ⟨rfl, ?_, q, hq, hstarting⟩), fun on hcreates => ?_⟩,
    hs.settles.move hp rfl rfl id (fun _ on hsets => ?_) (fun _ _ => ⟨rfl, settled_of_singleton hq hsettled⟩)
      fun _ => ⟨rfl, rfl⟩⟩
  · rcases hs.serial.phase with hquiet | ⟨-, hwaits, -⟩ | ⟨-, -, r, hr, hno⟩
    · cases hp.symm.trans hquiet.1
    · exact hwaits.symm
    · cases hp.symm.trans hr
      cases hno
  · cases hp.symm.trans (hs.serial.creates on hcreates)
  · cases hsets

theorem Kept.goesOn (hs : s.Kept config) {p q : ThreadPlace} (hp : s.threads = [p]) (hstarting : q.starting = p.starting)
    (hsets : ∀ on, p.sets on = false) (hsettled : p.settled = true → q.settled = true) :
    (s.moveTo 0 q).Kept config := by
  have hq := moveTo_threads (q := q) hp
  refine ⟨hs.serial.move hp hstarting rfl rfl rfl hq, hs.settles.move hp rfl rfl id (fun _ on hset => ?_)
    (fun _ hset => ⟨rfl, settled_of_singleton hq (hsettled hset)⟩) fun _ => ⟨rfl, rfl⟩⟩
  rw [hsets on] at hset
  cases hset

theorem Kept.exits (hs : s.Kept config) (hp : s.threads = [.exits]) :
    Kept config { s with exited := true, threads := s.threads.eraseIdx 0 } := by
  have hnil : s.threads.eraseIdx 0 = [] := by
    rw [hp]
    rfl
  refine ⟨⟨.inl ⟨hnil, rfl⟩, fun _ _ => hnil⟩, hs.settles.move hp rfl rfl id nofun (fun _ _ => ⟨rfl, ?_⟩) fun _ => ⟨rfl, rfl⟩⟩
  intro q hq
  rw [hnil] at hq
  cases hq

theorem Kept.thread (hs : s.Kept config) {i : Nat} (hstep : s.thread config i = some s') : s'.Kept config := by
  unfold PowerHal.thread at hstep
  split at hstep
  · next hplace =>
    obtain ⟨rfl, hp⟩ := hs.serial.get hplace
    cases hstep
    exact hs.standbyFinish hp
  · next inLoop hplace =>
    obtain ⟨rfl, hp⟩ := hs.serial.get hplace
    cases hstep
    exact hs.doze hp _
  · next inLoop hplace =>
    obtain ⟨rfl, hp⟩ := hs.serial.get hplace
    cases hstep
    exact hs.setsDozeState hp
  · next hplace =>
    obtain ⟨rfl, hp⟩ := hs.serial.get hplace
    cases hstep
    split
    · exact hs.resetsFlags hp rfl rfl
    · exact hs.resetsFlags hp rfl rfl
  · next hplace =>
    obtain ⟨rfl, hp⟩ := hs.serial.get hplace
    cases hstep
    split
    · exact hs.goesOn hp rfl (fun _ => rfl) fun _ => rfl
    · exact hs.goesOn hp rfl (fun _ => rfl) fun _ => rfl
  · next shutdown hplace =>
    obtain ⟨rfl, hp⟩ := hs.serial.get hplace
    cases hstep
    split
    · exact hs.goesOn hp rfl (fun _ => rfl) nofun
    · exact hs.goesOn hp rfl (fun _ => rfl) nofun
  · next hplace =>
    obtain ⟨rfl, hp⟩ := hs.serial.get hplace
    cases hstep
    exact hs.exits hp
  · cases hstep

theorem Kept.event (hs : s.Kept config) (hp : s.threads = [.polls]) {q : ThreadPlace} (hstarting : q.starting = false) :
    (PowerHal.moveTo 0 q { s with eventSince := true }).Kept config := by
  have hq := moveTo_threads (s := { s with eventSince := true }) (q := q) hp
  exact ⟨hs.serial.move hp hstarting rfl rfl rfl hq, hs.settles.move hp rfl rfl nofun nofun nofun fun _ => ⟨rfl, rfl⟩⟩

theorem Kept.polled (hs : s.Kept config) {i : Nat} {answer : PollAnswer} (hstep : s.polled i answer = some s') :
    s'.Kept config := by
  unfold PowerHal.polled at hstep
  split at hstep
  · cases hstep
  · next hplace =>
    obtain ⟨rfl, hp⟩ := hs.serial.get (not_not.mp hplace)
    cases hstep
    cases answer with
    | timedOut | readFails | fails => exact hs.goesOn hp rfl (fun _ => rfl) fun _ => rfl
    | suspending | shutdown | otherEvent => exact hs.event hp rfl

theorem Kept.poweroffSet (hs : s.Kept config) {i : Nat} {ok : Bool} (hstep : s.poweroffSet config i ok = some s') :
    s'.Kept config := by
  unfold PowerHal.poweroffSet at hstep
  split at hstep
  · cases hstep
  · next hplace =>
    obtain ⟨rfl, hp⟩ := hs.serial.get (not_not.mp hplace)
    obtain ⟨wakeLockAcquired, shutdowns, heq⟩ := powerSetState_eq s config.offState
    rw [heq] at hstep
    cases hstep
    have hq := moveTo_threads (s := { s with lastState := some config.offState, wakeLockAcquired, shutdowns })
      (q := if ok then .preparesSuspend false else .testsExit) hp
    refine ⟨hs.serial.move hp ?_ rfl rfl rfl hq, hs.settles.move hp rfl rfl id nofun nofun ?_⟩
    · cases ok <;> rfl
    · rintro (hno | hno) <;> cases hno

/-! ### `power_set_interactive` -/

theorem Kept.setInteractive (hs : s.Kept config) {on : Bool} (hstep : s.setInteractive on = some s') : s'.Kept config := by
  unfold PowerHal.setInteractive at hstep
  split at hstep
  · cases hstep
  · next hnone =>
    have hcall : s.call = .none := not_not.mp hnone
    have hwaiting : s.call.waiting = false := by
      rw [hcall]
      rfl
    cases hstep
    split
    · next hon =>
      split
      · exact hs
      · refine ⟨hs.serial.frame rfl rfl hwaiting.symm nofun rfl, .requesting rfl ?_⟩
        rintro on ⟨⟩
        rfl
    · refine ⟨hs.serial.frame rfl rfl hwaiting.symm nofun rfl, .requesting rfl ?_⟩
      rintro on ⟨⟩
      rfl

theorem Kept.killThread (hs : s.Kept config) (hkept : interactiveKept s .killThread = true) (hstep : s.killThread = some s') :
    s'.Kept config := by
  unfold PowerHal.killThread at hstep
  split at hstep
  · next on hcall =>
    have hrequest := hs.settles.request on (by rw [hcall]; rfl)
    cases hstep
    rcases hs.serial.phase with hquiet | ⟨-, -, p, hp, hstarting⟩ | ⟨hflag, -, p, hp, hstarting⟩
    · rw [if_pos hquiet.2]
      refine ⟨⟨.inl hquiet, fun _ _ => hquiet.1⟩, .requesting rfl ?_⟩
      rintro on ⟨⟩
      exact hrequest
    · simp [interactiveKept, hp, hstarting] at hkept
    · rw [if_neg (by rw [hflag]; nofun)]
      refine ⟨⟨.inr (.inr ⟨hflag, rfl, p, hp, hstarting⟩), nofun⟩, .requesting rfl ?_⟩
      rintro on ⟨⟩
      exact hrequest
  · cases hstep

theorem Kept.killed (hs : s.Kept config) (hstep : s.killed = some s') : s'.Kept config := by
  unfold PowerHal.killed at hstep
  split at hstep
  · next on hcall =>
    have hrequest := hs.settles.request on (by rw [hcall]; rfl)
    split at hstep
    · next hexited =>
      cases hstep
      have hquiet : s.Quiet := by
        rcases hs.serial.phase with hquiet | ⟨-, hwaits, -⟩ | ⟨hflag, -⟩
        · exact hquiet
        · rw [hcall] at hwaits
          cases hwaits
        · rw [hflag] at hexited
          cases hexited
      refine ⟨⟨.inl hquiet, fun _ _ => hquiet.1⟩, .requesting rfl ?_⟩
      rintro on ⟨⟩
      exact hrequest
    · cases hstep
  · cases hstep

theorem Kept.createThread (hs : s.Kept config) (hstep : s.createThread = some s') : s'.Kept config := by
  unfold PowerHal.createThread at hstep
  split at hstep
  · next on hcall =>
    have hrequest := hs.settles.request on (by rw [hcall]; rfl)
    have hnil := hs.serial.creates on hcall
    have hexited : s.exited = true := by
      rcases hs.serial.phase with hquiet | ⟨-, -, p, hp, -⟩ | ⟨-, -, p, hp, -⟩
      · exact hquiet.2
      · cases hnil.symm.trans hp
      · cases hnil.symm.trans hp
    cases hstep
    have hthreads : s.threads ++ [if on then .standbyFinish else .doze false] =
        [if on then .standbyFinish else .doze false] := by
      rw [hnil]
      rfl
    refine ⟨⟨.inr (.inl ⟨hexited, ?_, _, hthreads, ?_⟩), ?_⟩, ?_, fun _ _ on' hon' => .inl ⟨_, hthreads, ?_⟩, ?_⟩
    · cases on <;> rfl
    · cases on <;> rfl
    · cases on <;> nofun
    · cases on
      · nofun
      · rintro on' ⟨⟩
        exact hrequest
    · cases hrequest.symm.trans hon'
      cases on <;> rfl
    · cases on
      · intro _ _ hon
        cases hrequest.symm.trans hon
      · nofun
  · cases hstep

theorem Kept.finishInteractive (hs : s.Kept config) (hstep : s.finishInteractive = some s') : s'.Kept config := by
  unfold PowerHal.finishInteractive at hstep
  split at hstep
  · cases hstep
  · next hreleases =>
    have hcall : s.call = .releases := not_not.mp hreleases
    rw [releaseWakeLock_eq] at hstep
    cases hstep
    refine ⟨hs.serial.frame rfl rfl (by rw [hcall]; rfl) nofun rfl, nofun,
      fun _ => hs.settles.state (by rw [hcall]; rfl), ?_⟩
    intro _ _ _ hheld
    exact (Bool.and_eq_true_iff.mp hheld).2

/-! ### The doze timer and the shutdown -/

theorem Kept.dozeTimerExpires (hs : s.Kept config) (hstep : s.dozeTimerExpires = some s') : s'.Kept config := by
  unfold PowerHal.dozeTimerExpires at hstep
  split at hstep
  · cases hstep
  · cases hstep
    exact ⟨⟨hs.serial.phase, hs.serial.creates⟩, hs.settles.frame rfl rfl rfl rfl rfl fun hheld => .inr ⟨hheld, rfl⟩⟩

theorem Kept.dozeTimerCallback (hs : s.Kept config) (hstep : s.dozeTimerCallback = some s') : s'.Kept config := by
  unfold PowerHal.dozeTimerCallback at hstep
  split at hstep
  · cases hstep
  · rw [releaseWakeLock_eq] at hstep
    cases hstep
    exact ⟨⟨hs.serial.phase, hs.serial.creates⟩,
      hs.settles.frame rfl rfl rfl rfl rfl fun hheld => .inr ⟨(Bool.and_eq_true_iff.mp hheld).1, rfl⟩⟩

theorem Kept.shutdown (hs : s.Kept config) (hstep : s.shutdown = some s') : s'.Kept config := by
  unfold PowerHal.shutdown at hstep
  split at hstep
  · cases hstep
  · cases hstep
    exact ⟨⟨hs.serial.phase, hs.serial.creates⟩, hs.settles.frame rfl rfl rfl rfl rfl fun _ => .inl rfl⟩

theorem Kept.step (hs : s.Kept config) {a : PowerAction} (hkept : interactiveKept s a = true)
    (hstep : s.step config a = some s') : s'.Kept config := by
  cases a with
  | setInteractive on => exact hs.setInteractive hstep
  | killThread => exact hs.killThread hkept hstep
  | killed => exact hs.killed hstep
  | createThread => exact hs.createThread hstep
  | releaseWakeLock => exact hs.finishInteractive hstep
  | thread i => exact hs.thread hstep
  | polled i answer => exact hs.polled hstep
  | poweroffSet i ok => exact hs.poweroffSet hstep
  | dozeTimerExpires => exact hs.dozeTimerExpires hstep
  | dozeTimerCallback => exact hs.dozeTimerCallback hstep
  | shutdown => exact hs.shutdown hstep

theorem Kept.init : Kept config {} :=
  ⟨⟨.inl ⟨rfl, rfl⟩, nofun⟩, ⟨nofun, fun _ _ _ => nofun, fun _ _ => nofun⟩⟩

/-! ### The exit of a thread -/

theorem exitDistance_eq {p : ThreadPlace} (hp : s.threads = [p]) : s.exitDistance = p.exitDistance := by
  rw [exitDistance, hp, List.map_singleton, List.sum_singleton]

theorem Serial.told (hs : s.Serial) {on : Bool} (hcall : s.call = .waits on) (hexited : s.exited = false) :
    s.exit = true ∧ ∃ p, s.threads = [p] ∧ p.starting = false := by
  rcases hs.phase with hquiet | ⟨hflag, -⟩ | ⟨-, hexit, hp⟩
  · rw [hquiet.2] at hexited
    cases hexited
  · rw [hflag] at hexited
    cases hexited
  · rw [hcall] at hexit
    exact ⟨hexit, hp⟩

theorem Serial.thread_nearer (hs : s.Serial) (hexit : s.exit = true) {p : ThreadPlace} (hp : s.threads = [p])
    (hstarting : p.starting = false) {i : Nat} (hstep : s.thread config i = some s') :
    s'.exited = true ∨ s'.exitDistance + 1 ≤ s.exitDistance := by
  have hmoves {t : PowerHal} {q : ThreadPlace} (ht : t.threads = [p]) (hq : q.exitDistance + 1 ≤ p.exitDistance) :
      (t.moveTo 0 q).exitDistance + 1 ≤ s.exitDistance := by
    rwa [exitDistance_eq (moveTo_threads ht), exitDistance_eq hp]
  unfold PowerHal.thread at hstep
  split at hstep
  · next hplace =>
    obtain ⟨rfl, hp'⟩ := hs.get hplace
    cases hp.symm.trans hp'
    cases hstarting
  · next inLoop hplace =>
    obtain ⟨rfl, hp'⟩ := hs.get hplace
    cases hp.symm.trans hp'
    obtain ⟨wakeLockAcquired, dozeTimerArmed, heq⟩ :=
      powerDoze_eq s config (if inLoop then config.wakeTimeout else config.dozeTimeout)
    rw [heq] at hstep
    cases hstep
    exact .inr (hmoves hp (Nat.le_refl _))
  · next inLoop hplace =>
    obtain ⟨rfl, hp'⟩ := hs.get hplace
    cases hp.symm.trans hp'
    obtain ⟨wakeLockAcquired, shutdowns, heq⟩ := powerSetState_eq s config.dozeState
    rw [heq] at hstep
    cases hstep
    cases inLoop with
    | false => cases hstarting
    | true => exact .inr (hmoves hp (Nat.le_refl _))
  · next hplace =>
    obtain ⟨rfl, hp'⟩ := hs.get hplace
    cases hp.symm.trans hp'
    cases hstarting
  · next hplace =>
    obtain ⟨rfl, hp'⟩ := hs.get hplace
    cases hp.symm.trans hp'
    rw [hexit] at hstep
    cases hstep
    exact .inr (hmoves hp (Nat.le_refl _))
  · next shutdown hplace =>
    obtain ⟨rfl, hp'⟩ := hs.get hplace
    cases hp.symm.trans hp'
    cases hstep
    cases shutdown with
    | false => exact .inr (hmoves hp (Nat.le_refl _))
    | true => exact .inr (hmoves hp (Nat.le_add_right _ 2))
  · next hplace =>
    cases hstep
    exact .inl rfl
  · cases hstep

theorem Serial.nearer (hs : s.Serial) {on : Bool} (hcall : s.call = .waits on) (hexited : s.exited = false)
    {a : PowerAction} (hstep : s.step config a = some s') :
    s'.exited = true ∨ s'.exitDistance + (if a.ofThread then 1 else 0) ≤ s.exitDistance := by
  obtain ⟨hexit, p, hp, hstarting⟩ := hs.told hcall hexited
  have hmoves {t : PowerHal} {q : ThreadPlace} (ht : t.threads = [p]) (hq : q.exitDistance + 1 ≤ p.exitDistance) :
      (t.moveTo 0 q).exitDistance + 1 ≤ s.exitDistance := by
    rwa [exitDistance_eq (moveTo_threads ht), exitDistance_eq hp]
  cases a with
  | setInteractive on' => simp [PowerHal.step, PowerHal.setInteractive, hcall] at hstep
  | killThread => simp [PowerHal.step, PowerHal.killThread, hcall] at hstep
  | killed => simp [PowerHal.step, PowerHal.killed, hcall, hexited] at hstep
  | createThread => simp [PowerHal.step, PowerHal.createThread, hcall] at hstep
  | releaseWakeLock => simp [PowerHal.step, PowerHal.finishInteractive, hcall] at hstep
  | thread i => exact hs.thread_nearer hexit hp hstarting hstep
  | polled i answer =>
    simp only [PowerHal.step, PowerHal.polled] at hstep
    split at hstep
    · cases hstep
    · next hplace =>
      obtain ⟨rfl, hp'⟩ := hs.get (not_not.mp hplace)
      cases hp.symm.trans hp'
      cases hstep
      right
      cases answer <;> exact hmoves hp (by decide)
  | poweroffSet i ok =>
    simp only [PowerHal.step, PowerHal.poweroffSet] at hstep
    split at hstep
    · cases hstep
    · next hplace =>
      obtain ⟨rfl, hp'⟩ := hs.get (not_not.mp hplace)
      cases hp.symm.trans hp'
      obtain ⟨wakeLockAcquired, shutdowns, heq⟩ := powerSetState_eq s config.offState
      rw [heq] at hstep
      cases hstep
      right
      cases ok <;> exact hmoves hp (by decide)
  | dozeTimerExpires =>
    simp only [PowerHal.step, PowerHal.dozeTimerExpires] at hstep
    split at hstep
    · cases hstep
    · cases hstep
      exact .inr (Nat.le_refl _)
  | dozeTimerCallback =>
    simp only [PowerHal.step, PowerHal.dozeTimerCallback] at hstep
    split at hstep
    · cases hstep
    · rw [releaseWakeLock_eq] at hstep
      cases hstep
      exact .inr (Nat.le_refl _)
  | shutdown =>
    simp only [PowerHal.step, PowerHal.shutdown] at hstep
    split at hstep
    · cases hstep
    · cases hstep
      exact .inr (Nat.le_refl _)

/-! ### Runs -/

theorem sets_of_idle {p : ThreadPlace} {on : Bool} (hidle : p.idle = true) : p.sets on = false := by
  cases p <;> first | rfl | cases hidle

theorem Kept.serialised (hs : s.Kept config) : s.Serialised config := by
  refine ⟨?_, hs.serial.creates, fun hnone hidle hevent on hon => ?_, fun on hcall hexited => ?_,
    fun on hcall hexited a s' hstep => hs.serial.nearer hcall hexited hstep⟩
  · have hlength : s.threads.length ≤ 1 := by
      rcases hs.serial.phase with hquiet | ⟨-, -, p, hp, -⟩ | ⟨-, -, p, hp, -⟩
      · simp [hquiet.1]
      · simp [hp]
      · simp [hp]
    exact Nat.le_trans List.countP_le_length hlength
  · refine ⟨?_, ?_⟩
    · rcases hs.settles.state (by rw [hnone]; rfl) hevent on hon with ⟨p, hp, hsets⟩ | ⟨hstate, -⟩
      · rw [sets_of_idle (hidle p (by simp [hp]))] at hsets
        cases hsets
      · exact hstate
    · rintro rfl hheld
      exact hs.settles.wakeLock hnone hevent hon hheld
  · obtain ⟨hexit, p, hp, -⟩ := hs.serial.told hcall hexited
    refine ⟨hexit, ?_⟩
    rw [hp]
    nofun

/-- In every run in which each request finds the thread of the one before past its reset of the flags, the requests
    serialise. -/
theorem requests_serialise (config : PowerConfig) (s : PowerHal)
    (h : Reaches (PowerHal.step config) (fun s a => interactiveKept s a = true) {} s) : s.Serialised config :=
  (h.invariant (P := Kept config) Kept.init fun _ _ _ hs hkept hstep => hs.step hkept hstep).serialised

/-- The screen is turned off; the system suspends and resumes; then the screen is turned on while the thread polls. -/
theorem requests_serialise_off_on : ∃ s : PowerHal,
    (s.call = .none ∧ s.threads = [.polls] ∧ s.lastRequest = some true ∧ s.eventSince = false ∧ s.lastState = some .s0) ∧
    s.Serialised {} := by
  obtain ⟨s, hs, hp⟩ := Reaches.exists_of_run (PowerHal.step {}) interactiveKept {}
    [.setInteractive false, .killThread, .createThread, .thread 0, .thread 0, .thread 0, .thread 0, .polled 0 .suspending,
      .poweroffSet 0 true, .thread 0, .thread 0, .thread 0, .thread 0, .dozeTimerExpires, .setInteractive true, .killThread,
      .dozeTimerCallback, .polled 0 .timedOut, .thread 0, .thread 0, .killed, .createThread, .thread 0, .releaseWakeLock, .thread 0, .thread 0]
    (fun s => s.call = .none ∧ s.threads = [.polls] ∧ s.lastRequest = some true ∧ s.eventSince = false ∧
      s.lastState = some .s0) (by decide +kernel)
  exact ⟨s, of_decide_eq_true hp, requests_serialise {} s hs⟩

/-- The screen is turned on before the thread of the request before has reset the flags: both threads get into the loop. -/
theorem two_monitors : ∃ s, Reaches (PowerHal.step {}) (fun _ _ => True) {} s ∧ ¬ s.Serialised {} := by
  obtain ⟨s, hs, hp⟩ := Reaches.exists_of_run (PowerHal.step {}) (fun _ _ => true) {}
    [.setInteractive false, .killThread, .createThread, .setInteractive true, .killThread, .createThread, .thread 1,
      .releaseWakeLock, .thread 1, .thread 0, .thread 0, .thread 0]
    (fun s => s.threads.countP ThreadPlace.inLoop = 2 ∧ s.lastRequest = some true ∧ s.lastState = some .s05)
    (by decide +kernel)
  obtain ⟨htwo, -⟩ := of_decide_eq_true hp
  refine ⟨s, hs.mono fun _ _ _ => trivial, fun h => ?_⟩
  have hone := h.one
  rw [htwo] at hone
  exact absurd hone (by decide)

end PowerHal
end BcmPlatform.Power
