import BcmPlatform.Ir.KeyThread
import BcmPlatform.Lib.Runs

/-! The key events are taps: an iteration that emits anything puts the held key up before the next one goes down. A press
    that the IR callback signals reaches the thread only if the thread takes it before the wait times out and before a
    repeat overwrites it. -/

namespace BcmPlatform.Ir
open Lib

namespace KeyThread
variable {s s' : KeyThread} {a : KeyThreadAction} {map : UInt32 → UInt16} {wakeupKey : UInt16}

/-! ### What each step does -/

/-- The key that an iteration takes from its wait. -/
def taken (res : WaitResult) (s : KeyThread) : UInt16 := if res = .timedOut then keyReserved else s.key

theorem handle_cases (res : WaitResult) (s : KeyThread) :
    (res ≠ .error ∧ (res = .timedOut ∨ s.again = false) ∧ s.handle res = { s with
      key := s.taken res, again := false, oldKey := s.taken res, place := .between
      log := s.log ++ [.iteration res (keyEvents { s with key := s.taken res })] }) ∨
    ((res = .error ∨ res = .ok ∧ s.again = true ∨ s.exitPending = true) ∧ ∃ again, s.handle res = { s with
      key := s.taken res, again, place := .between, log := s.log ++ [.iteration res []] }) := by
  cases hexit : s.exitPending with
  | true =>
    refine .inr ⟨.inr (.inr rfl), ?_⟩
    cases res <;> simp [handle, taken, hexit]
  | false =>
    cases res with
    | ok =>
      cases hagain : s.again with
      | true =>
        refine .inr ⟨.inr (.inl ⟨rfl, rfl⟩), true, ?_⟩
        simp [handle, taken, hagain, hexit]
      | false =>
        refine .inl ⟨nofun, .inr rfl, ?_⟩
        simp [handle, taken, hexit, hagain, keyEvents]
    | timedOut =>
      refine .inl ⟨nofun, .inl rfl, ?_⟩
      simp [handle, taken, hexit, keyEvents]
    | error =>
      refine .inr ⟨.inl rfl, s.again, ?_⟩
      simp [handle, taken, hexit]

/-- The steps: a signal, the end of an iteration, or one that changes no key. -/
inductive Moves (s : KeyThread) : KeyThreadAction → KeyThread → Prop where
  | signal (nexusKey : UInt32) (again : Bool) : Moves s (.signal nexusKey again) (s.signal nexusKey again)
  | wait : Moves s .wait { s with place := .waiting (s.key ≠ keyReserved) }
  | wake (res : WaitResult) : Moves s (.wake res) { s with place := .woken res }
  | iterate {res : WaitResult} (hplace : s.place = .woken res) : Moves s .iterate (s.handle res)
  | requestExit : Moves s .requestExit { s with exitPending := true }

theorem moves_of_step (h : s.step a = some s') : Moves s a s' := by
  cases a with
  | signal nexusKey again =>
    cases h
    exact .signal nexusKey again
  | wait =>
    simp only [step, KeyThread.wait] at h
    split at h <;> cases h
    exact .wait
  | wake res =>
    simp only [step, KeyThread.wake] at h
    split at h
    · split at h <;> cases h
      exact .wake res
    · cases h
  | iterate =>
    simp only [step, KeyThread.iterate] at h
    split at h <;> cases h
    next hplace => exact .iterate hplace
  | requestExit =>
    cases h
    exact .requestExit

/-! ### The events are taps -/

theorem events_signal (nexusKey : UInt32) (again : Bool) (s : KeyThread) : (s.signal nexusKey again).events = s.events := by
  simp [events, signal, KeyLog.events]

theorem held_ne {key : UInt16} (h : key ∈ s.held) : key ≠ keyReserved := by
  unfold held at h
  split at h
  · cases h
  · next hne =>
    cases h
    exact hne

theorem keyEvents_eq (s : KeyThread) : s.keyEvents = s.held.toList.map .release ++
    (if s.wakeupKey ≠ 0 && s.key = s.wakeupKey then tap keyWakeup else []) ++
    (held { s with oldKey := s.key }).toList.map .press := by
  unfold keyEvents held
  congr 1
  · congr 1
    split <;> simp_all
  · split <;> simp_all

theorem tapped_keyEvents (h : Tapped (· ≠ keyReserved) s.events s.held) :
    Tapped (· ≠ keyReserved) (s.events ++ s.keyEvents) (held { s with oldKey := s.key }) := by
  rw [keyEvents_eq, List.append_assoc, ← List.append_assoc]
  have hreleased := h.releaseHeld
  split
  · rw [← List.append_assoc]
    exact (hreleased.tap (by decide)).pressNext fun key => held_ne
  · rw [List.nil_append]
    exact hreleased.pressNext fun key => held_ne

theorem tapped_step (h : Tapped (· ≠ keyReserved) s.events s.held) (hstep : s.step a = some s') :
    Tapped (· ≠ keyReserved) s'.events s'.held := by
  cases moves_of_step hstep with
  | signal nexusKey again =>
    rw [events_signal]
    exact h
  | wait | wake _ | requestExit => exact h
  | @iterate res hplace =>
    obtain ⟨-, -, heq⟩ | ⟨-, again, heq⟩ := handle_cases res s <;> rw [heq]
    · have htapped := tapped_keyEvents (s := { s with key := s.taken res }) h
      simpa [events, KeyLog.events, held] using htapped
    · simpa [events, KeyLog.events, held] using h

theorem held_step (hstep : s.step a = some s') : ∃ new, s'.events = s.events ++ new ∧
    ∀ key ∈ s.held, new = [] ∧ s'.held = some key ∨ .release key ∈ new := by
  cases moves_of_step hstep with
  | signal nexusKey again => exact ⟨[], by rw [events_signal, List.append_nil], fun key hkey => .inl ⟨rfl, hkey⟩⟩
  | wait | wake _ | requestExit => exact ⟨[], (List.append_nil _).symm, fun key hkey => .inl ⟨rfl, hkey⟩⟩
  | @iterate res hplace =>
    obtain ⟨-, -, heq⟩ | ⟨-, again, heq⟩ := handle_cases res s <;> rw [heq]
    · refine ⟨keyEvents { s with key := s.taken res }, by simp [events, KeyLog.events], fun key hkey => .inr ?_⟩
      rw [keyEvents_eq]
      refine List.mem_append_left _ (List.mem_append_left _ ?_)
      exact List.mem_map_of_mem (Option.mem_toList.mpr hkey)
    · exact ⟨[], by simp [events, KeyLog.events], fun key hkey => .inl ⟨rfl, hkey⟩⟩

theorem held_run {ok : KeyThread → KeyThreadAction → Prop} (h : Reaches step ok s s') :
    ∃ new, s'.events = s.events ++ new ∧ ∀ key ∈ s.held, new = [] ∧ s'.held = some key ∨ .release key ∈ new := by
  induction h with
  | init => exact ⟨[], (List.append_nil _).symm, fun key hkey => .inl ⟨rfl, hkey⟩⟩
  | step _ _ hstep ih =>
    obtain ⟨new, hevents, hkept⟩ := ih
    obtain ⟨more, hmore, hkept'⟩ := held_step hstep
    refine ⟨new ++ more, by rw [hmore, hevents, List.append_assoc], fun key hkey => ?_⟩
    obtain ⟨rfl, hheld⟩ | hmem := hkept key hkey
    · exact hkept' key hheld
    · exact .inr (List.mem_append_left _ hmem)

theorem held_of_timedOut (hplace : s.place = .woken .timedOut) (hexit : s.exitPending = false)
    (hstep : s.step .iterate = some s') : s'.held = none := by
  simp only [step, KeyThread.iterate, hplace] at hstep
  cases hstep
  simp [handle, held, hexit]

/-- In every run the events are taps of keys, with `oldKey` down at the end. From any state on, the first iteration whose
    wait times out leaves no key down, and what was down before has gone up. -/
theorem keys_bracketed (map : UInt32 → UInt16) (wakeupKey : UInt16) (s : KeyThread)
    (h : Reaches step (fun _ _ => True) (init map wakeupKey) s) :
    Tapped (· ≠ keyReserved) s.events s.held ∧
    ∀ s₁ s₂, Reaches step (fun s a => (∀ nexusKey again, a ≠ .signal nexusKey again) ∧ a ≠ .requestExit ∧
        ¬ (a = .iterate ∧ s.place = .woken .timedOut)) s s₁ →
      s.exitPending = false → s₁.place = .woken .timedOut → s₁.step .iterate = some s₂ →
      s₂.held = none ∧ ∃ new, s₂.events = s.events ++ new ∧ ∀ key ∈ s.held, .release key ∈ new := by
  refine ⟨h.invariant (P := fun s => Tapped (· ≠ keyReserved) s.events s.held) ?_ fun s a s' hs _ => tapped_step hs, ?_⟩
  · exact Tapped.nil
  · intro s₁ s₂ hrun hexit hplace hstep
    have hexit₁ : s₁.exitPending = false := by
      refine hrun.invariant (P := fun s => s.exitPending = false) hexit fun s a s' hs hok hstep => ?_
      cases moves_of_step hstep with
      | signal | wait | wake => exact hs
      | @iterate res _ => obtain ⟨-, -, heq⟩ | ⟨-, again, heq⟩ := handle_cases res s <;> rwa [heq]
      | requestExit => exact absurd rfl hok.2.1
    have hheld := held_of_timedOut hplace hexit₁ hstep
    obtain ⟨new, hevents, hkept⟩ := held_run ((hrun.mono fun _ _ _ => trivial).step (a := .iterate) trivial hstep)
    refine ⟨hheld, new, hevents, fun key hkey => (hkept key hkey).resolve_left ?_⟩
    rintro ⟨-, hsome⟩
    rw [hheld] at hsome
    cases hsome

/-- The remote of the examples below. -/
def remote : UInt32 → UInt16
  | 1 => 30
  | 2 => 31
  | _ => keyReserved

/-- A key goes down, repeats, and goes up when the repeats end. -/
theorem keys_bracketed_held : ∃ s : KeyThread, s.held = some 30 ∧ Tapped (· ≠ keyReserved) s.events s.held := by
  obtain ⟨s, hs, hp⟩ := Reaches.exists_of_run step (fun _ _ => true) (init remote 0)
    [.wait, .signal 1 false, .iterate, .wait, .signal 1 true, .iterate] (fun s => s.held = some 30) (by decide)
  exact ⟨s, of_decide_eq_true hp, (keys_bracketed remote 0 s (hs.mono fun _ _ _ => trivial)).1⟩

/-! ### Presses -/

/-- The press of `key` was signalled: the next iteration that takes what its wait brought emits it, if no other press takes
    its place before. -/
def Followed (key : UInt16) : List KeyLog → Prop
  | [] => True
  | .signal _ again :: rest => again = true → Followed key rest
  | .iteration res events :: rest => if res = .error then Followed key rest else .press key ∈ events

/-- No press is lost. -/
def NoPressLost (log : List KeyLog) : Prop :=
  ∀ before key after, log = before ++ .signal key false :: after → key ≠ keyReserved → Followed key after

/-- The press that waits for its iteration, after one more entry. -/
def pendingNext (pending : Option UInt16) : KeyLog → Option UInt16
  | .signal key false => if key = keyReserved then none else some key
  | .signal _ true => pending
  | .iteration res _ => if res = .error then pending else none

def pending (log : List KeyLog) : Option UInt16 := log.foldl pendingNext none

theorem pending_append (log : List KeyLog) (e : KeyLog) : pending (log ++ [e]) = pendingNext (pending log) e := by
  simp [pending]

theorem Followed.append {key : UInt16} {e : KeyLog} : ∀ {after : List KeyLog}, Followed key after →
    (after.foldl pendingNext (some key) = some key → Followed key [e]) → Followed key (after ++ [e])
  | [], _, h => h rfl
  | .signal other again :: rest, hafter, h => by
    intro hagain
    subst hagain
    exact Followed.append (hafter rfl) h
  | .iteration res events :: rest, hafter, h => by
    simp only [Followed, List.cons_append] at hafter ⊢
    split
    · next hres =>
      rw [if_pos hres] at hafter
      refine Followed.append hafter fun hpending => h ?_
      rw [List.foldl_cons, pendingNext, if_pos hres]
      exact hpending
    · next hres =>
      rw [if_neg hres] at hafter
      exact hafter

theorem NoPressLost.append {log : List KeyLog} {e : KeyLog} (h : NoPressLost log)
    (he : ∀ key ∈ pending log, Followed key [e]) : NoPressLost (log ++ [e]) := by
  intro before key after heq hkey
  rcases List.eq_nil_or_concat after with rfl | ⟨after, last, rfl⟩
  · trivial
  · rw [List.concat_eq_append, ← List.cons_append, ← List.append_assoc] at heq
    obtain ⟨rfl, hlast⟩ := List.append_inj' heq rfl
    cases hlast
    rw [List.concat_eq_append]
    refine (h before key after rfl hkey).append fun hpending => he key ?_
    simpa [pending, pendingNext, hkey] using hpending

/-- A step that takes no pending press away: its wait does not time out, and a repeat does not overwrite it. -/
def keepsPress (s : KeyThread) : KeyThreadAction → Bool
  | .signal nexusKey true =>
    (pending s.log).isNone || s.oldKey = keyReserved && pending s.log = some (s.map nexusKey)
  | .signal _ false | .wait | .wake _ => true
  | .iterate => (pending s.log).isNone || s.place ≠ .woken .timedOut
  | .requestExit => false

/-- A pending press is still in `key`. -/
structure Keeps (s : KeyThread) : Prop where
  running : s.exitPending = false
  pending : ∀ key ∈ pending s.log, key ≠ keyReserved ∧ s.key = key ∧ s.again = false
  lost : NoPressLost s.log

theorem Keeps.signal (h : s.Keeps) {nexusKey : UInt32} {again : Bool} (hok : s.keepsPress (.signal nexusKey again) = true) :
    (s.signal nexusKey again).Keeps where
  running := h.running
  pending := by
    intro key hkey
    rw [KeyThread.signal, pending_append] at hkey
    cases again with
    | false =>
      simp only [pendingNext] at hkey
      split at hkey <;> cases hkey
      next hne => exact ⟨hne, by simp [KeyThread.signal], rfl⟩
    | true =>
      have hpending : KeyThread.pending s.log = some key := hkey
      simp only [keepsPress, hpending, Option.isNone_some, Bool.false_or, Bool.and_eq_true, decide_eq_true_eq] at hok
      obtain ⟨hold, hmap⟩ := hok
      exact ⟨(h.pending key hpending).1, by simp [KeyThread.signal, hold, Option.some.inj hmap],
        by simp [KeyThread.signal, hold]⟩
  lost := h.lost.append fun _ _ _ => trivial

theorem Keeps.handle (h : s.Keeps) {res : WaitResult} (hok : res = .timedOut → KeyThread.pending s.log = none) :
    (s.handle res).Keeps := by
  cases res with
  | error =>
    have heq : s.handle .error = { s with place := .between, log := s.log ++ [.iteration .error []] } := by
      simp [KeyThread.handle]
    rw [heq]
    refine ⟨h.running, ?_, h.lost.append fun _ _ => trivial⟩
    rw [pending_append]
    exact h.pending
  | timedOut =>
    have hnone := hok rfl
    obtain ⟨-, -, heq⟩ | ⟨-, again, heq⟩ := handle_cases .timedOut s <;> rw [heq] <;>
      refine ⟨h.running, ?_, h.lost.append (by rw [hnone]; nofun)⟩ <;> rw [pending_append] <;> nofun
  | ok =>
    obtain ⟨-, -, heq⟩ | ⟨hquiet, again, heq⟩ := handle_cases .ok s <;> rw [heq] <;>
      refine ⟨h.running, by rw [pending_append]; nofun, h.lost.append fun key hkey => ?_⟩ <;>
      obtain ⟨hne, hkey', hagain⟩ := h.pending key hkey
    · simp [Followed, keyEvents, taken, hkey', hne]
    · simp [hagain, h.running] at hquiet

theorem Keeps.step (h : s.Keeps) (hok : s.keepsPress a = true) (hstep : s.step a = some s') : s'.Keeps := by
  cases moves_of_step hstep with
  | signal nexusKey again => exact h.signal hok
  | wait | wake _ => exact ⟨h.running, h.pending, h.lost⟩
  | @iterate res hplace =>
    refine h.handle fun hres => ?_
    simpa [keepsPress, hplace, hres] using hok
  | requestExit => cases hok

/-- In every run in which no wait times out under a press that the thread has not taken yet, and no repeat overwrites one,
    no press is lost. -/
theorem press_followed (map : UInt32 → UInt16) (wakeupKey : UInt16) (s : KeyThread)
    (h : Reaches step (fun s a => s.keepsPress a = true) (init map wakeupKey) s) : NoPressLost s.log := by
  have hinit : (init map wakeupKey).Keeps := by
    refine ⟨rfl, nofun, ?_⟩
    intro before key after heq
    simp [init] at heq
  exact (h.invariant (P := Keeps) hinit fun s a s' hs hok hstep => hs.step hok hstep).lost

/-- Two keys one after the other, with a repeat of the first. -/
theorem press_followed_twice : ∃ s : KeyThread, s.events = taps [30] (some 31) ∧ NoPressLost s.log := by
  obtain ⟨s, hs, hp⟩ := Reaches.exists_of_run step keepsPress (init remote 0)
    [.wait, .signal 1 false, .iterate, .wait, .signal 1 true, .iterate, .wait, .signal 2 false, .iterate]
    (fun s => s.events = taps [30] (some 31)) (by decide)
  exact ⟨s, of_decide_eq_true hp, press_followed remote 0 s hs⟩

/-- The signal comes before the thread waits, and nobody wakes the thread before its wait times out. -/
theorem press_lost_between_waits : ∃ s, Reaches step (fun _ a => a ≠ .requestExit) (init remote 0) s ∧ ¬ NoPressLost s.log := by
  obtain ⟨s, hs, hp⟩ := Reaches.exists_of_run step (fun _ a => a ≠ .requestExit) (init remote 0)
    [.signal 1 false, .wait, .wake .timedOut, .iterate]
    (fun s => s.log = [.signal 30 false, .iteration .timedOut []]) (by decide)
  refine ⟨s, hs.mono fun _ _ h => of_decide_eq_true h, fun h => ?_⟩
  have hfollowed := h [] 30 _ (of_decide_eq_true hp) (by decide)
  simp [Followed] at hfollowed

end KeyThread
end BcmPlatform.Ir
