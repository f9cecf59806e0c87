import BcmPlatform.Audio.OutputStreams
import BcmPlatform.Lib.Runs
import Mathlib.Data.List.Count

/-! What the backends of the output streams acquire, when they open, and that they give it back: an open that fails at once, and
    an open that succeeds when it is closed. -/

namespace BcmPlatform.Audio
open Lib

/-! ### The slots of the standby monitor -/

namespace StandbyCallbacks

/-- The full slots are counted, and each has a context. -/
structure Paired (m : StandbyCallbacks) : Prop where
  count : m.numCallbacks = m.callbacks.countP Option.isSome
  callbacks : m.callbacks.length = maxStandbyMonitorCallbacks
  contexts : m.contexts.length = maxStandbyMonitorCallbacks
  paired : ∀ i : Nat, m.callbacks[i]? = some none ↔ m.contexts[i]? = some none

/-- A slot is filled. -/
def filled (m : StandbyCallbacks) (i : Nat) (callback : StandbyCallback) (context : Nat) : StandbyCallbacks :=
  { callbacks := m.callbacks.set i callback, contexts := m.contexts.set i context, numCallbacks := m.numCallbacks + 1 }

/-- A slot is emptied. -/
def cleared (m : StandbyCallbacks) (i : Nat) : StandbyCallbacks :=
  { callbacks := m.callbacks.set i none, contexts := m.contexts.set i none, numCallbacks := m.numCallbacks - 1 }

variable {m : StandbyCallbacks} {i : Nat} {callback : StandbyCallback} {context : Nat}

theorem Paired.init : ({} : StandbyCallbacks).Paired :=
  ⟨rfl, rfl, rfl, fun i => by simp [List.getElem?_replicate]⟩

theorem Paired.lt (h : m.Paired) {slot : Option StandbyCallback} (hi : m.callbacks[i]? = some slot) :
    i < m.callbacks.length ∧ i < m.contexts.length := by
  obtain ⟨hlt, -⟩ := List.getElem?_eq_some_iff.mp hi
  exact ⟨hlt, by rw [h.contexts, ← h.callbacks]; exact hlt⟩

theorem Paired.cleared_filled (h : m.Paired) (hi : m.callbacks[i]? = some none) :
    (m.filled i callback context).cleared i = m := by
  obtain ⟨hcallback, hcallbackNone⟩ := List.getElem?_eq_some_iff.mp hi
  obtain ⟨hcontext, hcontextNone⟩ := List.getElem?_eq_some_iff.mp ((h.paired i).mp hi)
  rw [filled, cleared]
  dsimp only
  rw [List.set_set, List.set_set, Nat.add_sub_cancel, ← hcallbackNone, ← hcontextNone, List.set_getElem_self,
    List.set_getElem_self]

theorem Paired.set (h : m.Paired) (hi : i < m.callbacks.length) {slot : Option StandbyCallback} {slot' : Option Nat}
    (hslot : slot = none ↔ slot' = none) {n : Nat} (hn : n = (m.callbacks.set i slot).countP Option.isSome) :
    StandbyCallbacks.Paired { callbacks := m.callbacks.set i slot, contexts := m.contexts.set i slot', numCallbacks := n } := by
  have hi' : i < m.contexts.length := by rw [h.contexts, ← h.callbacks]; exact hi
  refine ⟨hn, (List.length_set ..).trans h.callbacks, (List.length_set ..).trans h.contexts, fun j => ?_⟩
  by_cases hij : i = j
  · subst hij
    dsimp only
    rw [List.getElem?_set_self hi, List.getElem?_set_self hi', Option.some_inj, Option.some_inj]
    exact hslot
  · dsimp only
    rw [List.getElem?_set_ne hij, List.getElem?_set_ne hij]
    exact h.paired j

theorem Paired.filled (h : m.Paired) (hi : m.callbacks[i]? = some none) : (m.filled i callback context).Paired := by
  obtain ⟨hlt, hnone⟩ := List.getElem?_eq_some_iff.mp hi
  exact h.set hlt (iff_of_false (Option.some_ne_none _) (Option.some_ne_none _)) (by simp [List.countP_set hlt, hnone, h.count])

theorem Paired.cleared (h : m.Paired) (hi : m.callbacks[i]? = some (some callback)) : (m.cleared i).Paired := by
  obtain ⟨hlt, hsome⟩ := List.getElem?_eq_some_iff.mp hi
  exact h.set hlt (iff_of_true rfl rfl) (by simp [List.countP_set hlt, hsome, h.count])

theorem Paired.unregister (h : m.Paired) (hi : m.callbacks[i]? = some (some callback)) :
    m.unregisterCallback i = (true, m.cleared i) := by
  obtain ⟨hlt, -⟩ := h.lt hi
  have hcount : m.numCallbacks ≠ 0 := by
    rw [h.count]
    intro hzero
    exact List.countP_eq_zero.mp hzero _ (List.mem_of_getElem? hi) rfl
  rw [unregisterCallback, if_neg (by rw [← h.callbacks]; omega), if_neg hcount, if_neg (by rw [hi]; simp)]
  rfl

theorem Paired.register (h : m.Paired) (callback : StandbyCallback) (context : Nat) (run : Bool) :
    (∃ started, m.registerCallback callback context run = (none, started, m)) ∨
      ∃ i started, m.callbacks[i]? = some none ∧
        m.registerCallback callback context run = (some i, started, m.filled i callback context) := by
  rw [registerCallback]
  split
  · exact Or.inl ⟨_, rfl⟩
  · next i hfind =>
    have hi : m.callbacks[i]? = some none := by
      obtain ⟨hlt, hnone, -⟩ := List.findIdx?_eq_some_iff_getElem.mp hfind
      rw [List.getElem?_eq_getElem hlt, Option.isNone_iff_eq_none.mp hnone]
    dsimp only
    split
    · exact Or.inr ⟨i, _, hi, rfl⟩
    · split
      · exact Or.inr ⟨i, _, hi, rfl⟩
      · exact Or.inl ⟨_, congrArg (fun m => (none, false, m)) (h.cleared_filled hi)⟩

end StandbyCallbacks
/-! ### What a backend acquires and gives back -/

/-- What is acquired is given back, and none of it is the debug file, which is not the backend's. -/
def Returns (events : List BoutEvent) : Prop :=
  ∀ r, events.count (.acquire r) = events.count (.release r) ∧
    events.count (.acquire r) ≤ if r = .debugFile then 0 else 1

/-- The resources are acquired, each once, and none is given back; the debug file is not one of them. -/
def Acquires (events : List BoutEvent) (resources : List BoutResource) : Prop :=
  ∀ r, events.count (.acquire r) = resources.count r ∧ events.count (.release r) = 0 ∧
    resources.count r ≤ if r = .debugFile then 0 else 1

/-- What the backend of an open stream has, in the order in which it gives it back. -/
def Bout.backendOwned (b : Bout) : List BoutResource :=
  match b.device with
  | .nexus => ifHas b.event .event ++ [.standbyCallback] ++ [.connection, .allocation, .client]
  | .direct =>
    ifHas b.savedOutputMode .outputMode ++
      (if b.playpumpMode then ifHas b.pidChannel .pidChannel ++ ifHas b.playpump .playpump else []) ++
      ifHas b.event .event ++ [.standbyCallback] ++ [.connection, .allocation, .client]
  | .tunnel =>
    ifHas b.pidChannel .pidChannel ++ ifHas (decide (b.stcChannelOwner = .output) && b.stcChannel = .own) .stcChannel ++
      ifHas b.playpump .playpump ++ [.standbyCallback] ++
      (ifHas b.event .event ++ [.connection, .allocation, .client] ++ ifHas b.pesDebug .pesDebug)

theorem Bout.client_mem_backendOwned (b : Bout) : .client ∈ b.backendOwned := by
  rw [backendOwned]
  cases b.device <;> simp

/-- What a stream has. -/
def Bout.owned (b : Bout) : List BoutResource :=
  ifHas b.outDebugFile .debugFile ++ if b.destroyed then [] else b.backendOwned

section
variable {m : StandbyCallbacks} {bout : Bout} {a : BoutAnswers} {rest : Bout → List BoutEvent → StandbyCallbacks → BoutOpened}

theorem unregisterStandby_of_some (h : m.Paired) {i : Nat} {callback : StandbyCallback}
    (hi : m.callbacks[i]? = some (some callback)) :
    unregisterStandby (some i) m = (releases [.standbyCallback], m.cleared i) := by
  rw [unregisterStandby, h.unregister hi]
  rfl

theorem unregisterStandby_filled (h : m.Paired) {i : Nat} (hi : m.callbacks[i]? = some none) (callback : StandbyCallback)
    (context : Nat) : unregisterStandby (some i) (m.filled i callback context) = (releases [.standbyCallback], m) := by
  have hslot : (m.filled i callback context).callbacks[i]? = some (some callback) := List.getElem?_set_self (h.lt hi).1
  rw [unregisterStandby_of_some (h.filled hi) hslot, h.cleared_filled hi]

theorem joinAndRegister_cases (h : m.Paired) :
    (∃ events, joinAndRegister bout a m rest = { bout := none, events, monitor := m } ∧ Returns events) ∨
      ∃ i, m.callbacks[i]? = some none ∧ joinAndRegister bout a m rest =
        rest { bout with standbyCallback := some i, event := true } (joined ++ acquires [.standbyCallback])
          (m.filled i bout.device.standbyMonitor bout.id) := by
  rw [joinAndRegister]
  split
  · exact Or.inl ⟨_, rfl, fun r => by cases r <;> decide⟩
  · split
    · exact Or.inl ⟨_, rfl, fun r => by cases r <;> decide⟩
    · split
      · exact Or.inl ⟨_, rfl, fun r => by cases r <;> decide⟩
      · split
        · exact Or.inl ⟨_, rfl, fun r => by cases r <;> decide⟩
        · rcases h.register bout.device.standbyMonitor bout.id a.run with ⟨started, hnone⟩ | ⟨i, started, hi, hsome⟩
          · rw [hnone]
            exact Or.inl ⟨_, rfl, fun r => by cases r <;> decide⟩
          · rw [hsome]
            exact Or.inr ⟨i, hi, rfl⟩

/-- What an open has done: all is as before, or the stream is open with its callback registered. -/
inductive Opened (bout : Bout) (m : StandbyCallbacks) : BoutOpened → Prop where
  | failed {events : List BoutEvent} (hreturns : Returns events) : Opened bout m { bout := none, events, monitor := m }
  | opened {b : Bout} {events : List BoutEvent} {i : Nat} (hi : m.callbacks[i]? = some none) (hid : b.id = bout.id)
      (hdevice : b.device = bout.device) (hfile : b.outDebugFile = bout.outDebugFile) (hopen : b.destroyed = false)
      (hcallback : b.standbyCallback = some i) (hacquires : Acquires events b.backendOwned) :
      Opened bout m { bout := some b, events, monitor := m.filled i bout.device.standbyMonitor bout.id }

/-- A stream before it is opened. -/
structure Bout.Fresh (b : Bout) : Prop where
  destroyed : b.destroyed = false
  playpumpMode : b.playpumpMode = false
  playpump : b.playpump = false
  pidChannel : b.pidChannel = false
  savedOutputMode : b.savedOutputMode = false
  stcChannel : b.stcChannel ≠ .own
  pesDebug : b.pesDebug = false

theorem errPlaypump_opened (h : m.Paired) {i : Nat} (hi : m.callbacks[i]? = some none) {b : Bout}
    (hcallback : b.standbyCallback = some i) {events : List BoutEvent}
    (hreturns : Returns (events ++ releases [.standbyCallback] ++ errCallback)) :
    Opened bout m (errPlaypump events b (m.filled i bout.device.standbyMonitor bout.id)) := by
  rw [errPlaypump, hcallback, unregisterStandby_filled h hi]
  exact .failed hreturns

theorem nexusBoutOpen_opened (h : m.Paired) (hfresh : bout.Fresh) (hdevice : bout.device = .nexus) :
    Opened bout m (nexusBoutOpen bout a m) := by
  rw [nexusBoutOpen]
  rcases joinAndRegister_cases h with ⟨events, hfailed, hreturns⟩ | ⟨i, hi, hopened⟩
  · rw [hfailed]
    exact .failed hreturns
  · rw [hopened]
    refine .opened hi rfl rfl rfl hfresh.destroyed rfl ?_
    simp only [Bout.backendOwned, hdevice]
    exact fun r => by cases r <;> decide

theorem directBoutOpen_opened (h : m.Paired) (hfresh : bout.Fresh) (hdevice : bout.device = .direct) :
    Opened bout m (directBoutOpen bout a m) := by
  rw [directBoutOpen]
  split
  · exact .failed fun r => by cases r <;> decide
  · next playpumpMode _ =>
    rcases joinAndRegister_cases h with ⟨events, hfailed, hreturns⟩ | ⟨i, hi, hopened⟩
    · rw [hfailed]
      exact .failed hreturns
    · rw [hopened]
      split
      · refine .opened hi rfl rfl rfl hfresh.destroyed rfl ?_
        simp only [Bout.backendOwned, hdevice, hfresh.savedOutputMode, hfresh.playpumpMode, hfresh.playpump, hfresh.pidChannel]
        exact fun r => by cases r <;> decide
      · split
        · exact errPlaypump_opened h hi rfl fun r => by cases r <;> decide
        · split
          · exact errPlaypump_opened h hi rfl fun r => by cases r <;> decide
          · refine .opened hi rfl rfl rfl hfresh.destroyed rfl ?_
            simp only [Bout.backendOwned, hdevice]
            cases a.direct.forcePcm
            · exact fun r => by cases r <;> decide
            · exact fun r => by cases r <;> decide

theorem tunnelBoutOpen_opened (h : m.Paired) (hfresh : bout.Fresh) (hdevice : bout.device = .tunnel) :
    Opened bout m (tunnelBoutOpen bout a m) := by
  rw [tunnelBoutOpen]
  rcases joinAndRegister_cases h with ⟨events, hfailed, hreturns⟩ | ⟨i, hi, hopened⟩
  · rw [hfailed]
    exact .failed hreturns
  · rw [hopened]
    dsimp only
    split
    · exact errPlaypump_opened h hi rfl fun r => by cases r <;> decide
    · split
      · exact errPlaypump_opened h hi rfl fun r => by cases r <;> decide
      · split
        · exact errPlaypump_opened h hi rfl fun r => by cases r <;> decide
        · split
          · refine errPlaypump_opened h hi rfl ?_
            cases decide (bout.stcChannelOwner = .output) && !a.hwSyncFake
            · exact fun r => by cases r <;> decide
            · exact fun r => by cases r <;> decide
          · refine .opened hi rfl rfl rfl hfresh.destroyed rfl ?_
            simp only [Bout.backendOwned, hdevice]
            by_cases howner : bout.stcChannelOwner = .output
            · simp only [howner, if_true, decide_true, Bool.true_and]
              cases a.hwSyncFake <;> cases a.pesDebug <;> exact fun r => by cases r <;> decide
            · simp only [howner, if_false, decide_false, Bool.false_and]
              cases a.pesDebug <;> exact fun r => by cases r <;> decide

theorem doBoutOpen_opened (h : m.Paired) (hfresh : bout.Fresh) : Opened bout m (doBoutOpen bout a m) := by
  rw [doBoutOpen]
  cases hdevice : bout.device with
  | nexus => exact nexusBoutOpen_opened h hfresh hdevice
  | direct => exact directBoutOpen_opened h hfresh hdevice
  | tunnel => exact tunnelBoutOpen_opened h hfresh hdevice

end

/-! ### When a backend opens -/

/-- A callback can be registered. -/
def StandbyCallbacks.accepts (m : StandbyCallbacks) (run : Bool) : Bool :=
  m.callbacks.any Option.isNone && (m.numCallbacks != 0 || run)

/-- All steps succeed that the backends share. -/
def BoutAnswers.joins (a : BoutAnswers) : Bool := a.join && a.alloc && a.acquire && a.connect && a.event

/-- The backend of a new stream takes its configuration, and its own steps succeed. -/
def Bout.opens (bout : Bout) (a : BoutAnswers) : Bool :=
  match bout.device with
  | .nexus => true
  | .direct =>
    (directPlaypumpMode bout.config a.direct).any fun playpumpMode =>
      !playpumpMode || (a.playpump && a.playpumpSettings && a.pidChannel)
  | .tunnel =>
    a.playpump && a.playpumpSettings && a.playpumpStatus && (bout.stcChannelOwner != .output || a.hwSyncFake || a.stcChannel) &&
      a.pidChannel

section
variable {m : StandbyCallbacks} {bout : Bout} {a : BoutAnswers} {rest : Bout → List BoutEvent → StandbyCallbacks → BoutOpened}

theorem StandbyCallbacks.registerCallback_isSome (callback : StandbyCallback) (context : Nat) (run : Bool) :
    (m.registerCallback callback context run).1.isSome = m.accepts run := by
  rw [registerCallback, accepts, ← List.findIdx?_isSome]
  cases m.callbacks.findIdx? Option.isNone with
  | none => rfl
  | some i =>
    dsimp only
    split
    · next hcount =>
      have hne : m.numCallbacks ≠ 0 := by omega
      rw [bne_iff_ne.mpr hne]
      rfl
    · next hcount =>
      have hzero : m.numCallbacks = 0 := by omega
      rw [hzero]
      cases run <;> rfl

theorem joinAndRegister_isSome (ok : Bool)
    (hrest : ∀ i events m, (rest { bout with standbyCallback := some i, event := true } events m).bout.isSome = ok) :
    (joinAndRegister bout a m rest).bout.isSome = (a.joins && m.accepts a.run && ok) := by
  rw [joinAndRegister, BoutAnswers.joins, ← StandbyCallbacks.registerCallback_isSome bout.device.standbyMonitor bout.id]
  cases a.join <;> cases a.alloc <;> cases a.acquire <;> cases a.connect <;> cases a.event <;> try rfl
  rcases m.registerCallback bout.device.standbyMonitor bout.id a.run with ⟨_ | i, started, m'⟩
  · rfl
  · exact hrest i _ m'

theorem nexusBoutOpen_isSome : (nexusBoutOpen bout a m).bout.isSome = (a.joins && m.accepts a.run) := by
  rw [nexusBoutOpen, joinAndRegister_isSome true fun _ _ _ => rfl, Bool.and_true]

theorem directBoutOpen_isSome (hdevice : bout.device = .direct) :
    (directBoutOpen bout a m).bout.isSome = (a.joins && m.accepts a.run && bout.opens a) := by
  rw [directBoutOpen, Bout.opens, hdevice]
  cases directPlaypumpMode bout.config a.direct with
  | none => exact (Bool.and_false _).symm
  | some playpumpMode =>
    refine joinAndRegister_isSome _ fun i events m => ?_
    cases playpumpMode <;> cases a.playpump <;> cases a.playpumpSettings <;> cases a.pidChannel <;> rfl

theorem tunnelBoutOpen_isSome (hdevice : bout.device = .tunnel) :
    (tunnelBoutOpen bout a m).bout.isSome = (a.joins && m.accepts a.run && bout.opens a) := by
  rw [tunnelBoutOpen, Bout.opens, hdevice]
  refine joinAndRegister_isSome _ fun i events m => ?_
  dsimp only
  cases a.playpump <;> cases a.playpumpSettings <;> cases a.playpumpStatus <;> try rfl
  cases bout.stcChannelOwner <;> cases a.hwSyncFake <;> cases a.stcChannel <;> cases a.pidChannel <;> rfl

theorem doBoutOpen_isSome : (doBoutOpen bout a m).bout.isSome = (a.joins && m.accepts a.run && bout.opens a) := by
  cases hdevice : bout.device with
  | nexus =>
    rw [doBoutOpen, hdevice, Bout.opens, hdevice, Bool.and_true]
    exact nexusBoutOpen_isSome
  | direct =>
    rw [doBoutOpen, hdevice]
    exact directBoutOpen_isSome hdevice
  | tunnel =>
    rw [doBoutOpen, hdevice]
    exact tunnelBoutOpen_isSome hdevice

end
/-! ### What a close gives back -/

/-- What a close has done: nothing, if it was done before, or the callback and all that the backend has are given back. -/
inductive Closed (b : Bout) (m : StandbyCallbacks) : BoutClosed → Prop where
  | before (hdestroyed : b.destroyed = true) : Closed b m { bout := b, events := [], monitor := m }
  | closed {b' : Bout} {i : Nat} (hopen : b.destroyed = false) (hcallback : b.standbyCallback = some i) (hid : b'.id = b.id)
      (hdevice : b'.device = b.device) (hfile : b'.outDebugFile = b.outDebugFile)
      (hdestroyed : b.device ≠ .nexus → b'.destroyed = true) :
      Closed b m { bout := b', events := releases b.backendOwned, monitor := m.cleared i }

section
variable {m : StandbyCallbacks} {b : Bout} {i : Nat} {callback : StandbyCallback}

theorem releases_append (xs ys : List BoutResource) : releases (xs ++ ys) = releases xs ++ releases ys := List.map_append

theorem closeAround_eq (h : m.Paired) (hcallback : b.standbyCallback = some i) (hi : m.callbacks[i]? = some (some callback))
    (before after : List BoutResource) :
    closeAround b before after m =
      { bout := b, events := releases (before ++ [.standbyCallback] ++ after), monitor := m.cleared i } := by
  rw [closeAround, hcallback, unregisterStandby_of_some h hi, releases_append, releases_append]

theorem nexusBoutClose_closed (h : m.Paired) (hopen : b.destroyed = false) (hcallback : b.standbyCallback = some i)
    (hi : m.callbacks[i]? = some (some callback)) (hdevice : b.device = .nexus) : Closed b m (nexusBoutClose b m) := by
  have howned : b.backendOwned = ifHas b.event .event ++ [.standbyCallback] ++ [.connection, .allocation, .client] := by
    rw [Bout.backendOwned, hdevice]
  rw [nexusBoutClose, closeAround_eq h hcallback hi, ← howned]
  exact .closed hopen hcallback rfl rfl rfl fun hne => absurd hdevice hne

theorem directBoutClose_closed (h : m.Paired) (hopen : b.destroyed = false) (hcallback : b.standbyCallback = some i)
    (hi : m.callbacks[i]? = some (some callback)) (hdevice : b.device = .direct) : Closed b m (directBoutClose b m) := by
  have howned : b.backendOwned = ifHas b.savedOutputMode .outputMode ++
      (if b.playpumpMode then ifHas b.pidChannel .pidChannel ++ ifHas b.playpump .playpump else []) ++
      ifHas b.event .event ++ [.standbyCallback] ++ [.connection, .allocation, .client] := by
    rw [Bout.backendOwned, hdevice]
  rw [directBoutClose, if_neg (by rw [hopen]; decide)]
  dsimp only
  rw [closeAround_eq h hcallback hi, ← howned]
  split
  · exact .closed hopen hcallback rfl rfl rfl fun _ => rfl
  · exact .closed hopen hcallback rfl rfl rfl fun _ => rfl

theorem tunnelBoutClose_closed (h : m.Paired) (hopen : b.destroyed = false) (hcallback : b.standbyCallback = some i)
    (hi : m.callbacks[i]? = some (some callback)) (hdevice : b.device = .tunnel) : Closed b m (tunnelBoutClose b m) := by
  have howned : b.backendOwned =
      ifHas b.pidChannel .pidChannel ++ ifHas (decide (b.stcChannelOwner = .output) && b.stcChannel = .own) .stcChannel ++
        ifHas b.playpump .playpump ++ [.standbyCallback] ++
        (ifHas b.event .event ++ [.connection, .allocation, .client] ++ ifHas b.pesDebug .pesDebug) := by
    rw [Bout.backendOwned, hdevice]
  rw [tunnelBoutClose, if_neg (by rw [hopen]; decide)]
  dsimp only
  rw [closeAround_eq h hcallback hi, ← howned]
  exact .closed hopen hcallback rfl rfl rfl fun _ => rfl

theorem doBoutClose_of_destroyed (hdestroyed : b.destroyed = true) (hdevice : b.device ≠ .nexus) :
    doBoutClose b m = { bout := b, events := [], monitor := m } := by
  cases hcase : b.device with
  | nexus => exact absurd hcase hdevice
  | direct =>
    rw [doBoutClose, hcase]
    exact if_pos hdestroyed
  | tunnel =>
    rw [doBoutClose, hcase]
    exact if_pos hdestroyed

theorem doBoutClose_closed (h : m.Paired) (hnexus : b.device = .nexus → b.destroyed = false)
    (hregistered : b.destroyed = false →
      ∃ i callback, b.standbyCallback = some i ∧ m.callbacks[i]? = some (some callback)) :
    Closed b m (doBoutClose b m) := by
  cases hdestroyed : b.destroyed with
  | false =>
    obtain ⟨i, callback, hcallback, hi⟩ := hregistered hdestroyed
    rw [doBoutClose]
    cases hdevice : b.device with
    | nexus => exact nexusBoutClose_closed h hdestroyed hcallback hi hdevice
    | direct => exact directBoutClose_closed h hdestroyed hcallback hi hdevice
    | tunnel => exact tunnelBoutClose_closed h hdestroyed hcallback hi hdevice
  | true =>
    have hdevice : b.device ≠ .nexus := by
      intro hdevice
      rw [hnexus hdevice] at hdestroyed
      cases hdestroyed
    rw [doBoutClose_of_destroyed hdestroyed hdevice]
    exact .before hdestroyed

theorem Closed.bout {c : BoutClosed} (h : Closed b m c) (hopen : b.destroyed = false) :
    c.bout.id = b.id ∧ c.bout.device = b.device ∧ c.bout.outDebugFile = b.outDebugFile ∧
      (b.device ≠ .nexus → c.bout.destroyed = true) := by
  cases h with
  | before hdestroyed =>
    rw [hopen] at hdestroyed
    cases hdestroyed
  | closed _ _ hid hdevice hfile hdestroyed => exact ⟨hid, hdevice, hfile, hdestroyed⟩

end
end BcmPlatform.Audio
