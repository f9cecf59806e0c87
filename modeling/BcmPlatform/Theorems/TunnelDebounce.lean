import BcmPlatform.Audio.TunnelDebounce
import BcmPlatform.Lib.Runs

/-! A pause or a resume that comes while the output is debounced is done by the thread when it wakes up. `debounce` tells
    that there is a thread; it no longer does when `start` resets it, or when a thread is created while `stop` waits. -/

namespace BcmPlatform.Audio
open Lib

namespace TunnelOut
variable {s s' : TunnelOut} {t : DebounceThread} {created : Bool} {now : Nat} {a : TrickAnswers}

/-- The decoder is as it was asked for. -/
def Applied (s : TunnelOut) : PauseRequest → Prop
  | .pause => s.rate = .zero ∧ s.stcFrozen = true
  | .resume => s.rate = .normal ∧ s.stcFrozen = false

/-- There is no thread. -/
structure Idle (s : TunnelOut) : Prop where
  debounce : s.debounce = false
  threads : s.threads = []
  pausing : s.debouncePausing = false
  more : s.debounceMore = false
  stopping : s.debounceStopping = false
  request : s.joining = [] → ∀ r, s.lastRequest = some r → s.Applied r

/-- There is one thread. It is the one that every `stop` waits for, and it will do what was asked for last. -/
structure Busy (s : TunnelOut) : Prop where
  debounce : s.debounce = true
  threads : s.threads = [{ id := s.debounceThread }]
  joining : ∀ thread ∈ s.joining, thread = s.debounceThread
  stopping : s.debounceStopping = true ↔ s.joining ≠ []
  notDetached : s.debounceThread ∉ s.detached
  created : s.debounceThread < s.nextThread
  request : s.joining = [] → ∀ r, s.lastRequest = some r → (s.debouncePausing = true ↔ r = .pause)

structure Debouncing (s : TunnelOut) : Prop where
  phase : s.Idle ∨ s.Busy
  expired : s.debounceExpired = false
  detached : ∀ thread ∈ s.detached, thread < s.nextThread
  joining : ∀ thread ∈ s.joining, thread ∉ s.detached
  touches : ∀ t ∈ s.touches, t.stopReturned = false

theorem setTrickState_eq {rate before : DecodeRate} {frozen : Bool} (hset : a.setTrickState = true)
    (hfreeze : a.freeze = true) : s.setTrickState rate before frozen a = { s with rate, stcFrozen := frozen } := by
  simp [setTrickState, hset, hfreeze]

/-! ### The callers -/

/-- Every Nexus call succeeds. -/
def nexusSucceeds : DebounceAction → Bool
  | .start a => a.playpumpStart && a.decoderStart
  | .pause _ _ a | .resume a | .wake _ _ _ a => a.setTrickState && a.freeze
  | .stop | .joined _ => true

/-- The output is not started while a thread debounces it, and no thread is created while `stop` waits for another. -/
def debounceKept (s : TunnelOut) : DebounceAction → Bool
  | .start a => !s.debounce || !a.opened
  | .pause created _ _ => s.debounce || !created || s.joining = []
  | _ => true

theorem Idle.threads_stopped (h : s.Idle) : s.stopped.Idle where
  debounce := h.debounce
  threads := by rw [stopped, h.threads, List.map_nil]
  pausing := h.pausing
  more := h.more
  stopping := h.stopping
  request := nofun

theorem Debouncing.start (h : s.Debouncing) {a : StartAnswers} (hkept : s.debounceKept (.start a) = true) :
    (s.start a).Debouncing := by
  unfold TunnelOut.start
  split
  · exact h
  · next hstarted =>
    rcases h.phase with hidle | hbusy
    · exact ⟨.inl ⟨rfl, hidle.threads, rfl, rfl, rfl, nofun⟩, rfl, h.detached, h.joining, h.touches⟩
    · simp only [debounceKept, hbusy.debounce, Bool.not_true, Bool.false_or, Bool.not_eq_true'] at hkept
      simp [hkept] at hstarted

theorem Debouncing.stop (h : s.Debouncing) : s.stop.Debouncing := by
  unfold TunnelOut.stop
  rcases h.phase with hidle | hbusy
  · rw [if_neg (by simp [hidle.debounce])]
    exact ⟨.inl hidle.threads_stopped, h.expired, h.detached, h.joining, h.touches⟩
  · rw [if_pos hbusy.debounce]
    refine ⟨.inr ⟨hbusy.debounce, hbusy.threads, ?_, ?_, hbusy.notDetached, hbusy.created, nofun⟩, h.expired, h.detached,
      ?_, h.touches⟩
    · intro thread hthread
      exact (List.mem_append.mp hthread).elim (hbusy.joining thread) List.mem_singleton.mp
    · exact iff_of_true rfl (List.append_ne_nil_of_right_ne_nil _ (List.cons_ne_nil _ _))
    · intro thread hthread
      rcases List.mem_append.mp hthread with hthread | hthread
      · exact h.joining thread hthread
      · exact List.mem_singleton.mp hthread ▸ hbusy.notDetached

theorem Debouncing.joined (h : s.Debouncing) {thread : Nat} (hstep : s.joined thread = some s') : s'.Debouncing := by
  unfold TunnelOut.joined at hstep
  split at hstep
  · next hreturns =>
    cases hstep
    obtain ⟨hjoining, hexited⟩ := hreturns
    have hidle : s.Idle := by
      refine h.phase.resolve_right fun hbusy => hexited { id := s.debounceThread } ?_ (hbusy.joining thread hjoining).symm
      rw [hbusy.threads]
      exact List.mem_singleton_self _
    exact ⟨.inl ⟨hidle.debounce, by rw [stopped, hidle.threads, List.map_nil], hidle.pausing, hidle.more, hidle.stopping, nofun⟩,
      h.expired, h.detached, fun thread hthread => h.joining thread (List.mem_of_mem_erase hthread), h.touches⟩
  · cases hstep

theorem Debouncing.direct (h : s.Debouncing) (hidle : s.Idle) {rate : DecodeRate} {frozen : Bool} {r : PauseRequest}
    (happlied : Applied { s with rate, stcFrozen := frozen } r) :
    Debouncing { s with rate, stcFrozen := frozen, lastRequest := some r } := by
  refine ⟨.inl ⟨hidle.debounce, hidle.threads, hidle.pausing, hidle.more, hidle.stopping, ?_⟩, h.expired, h.detached,
    h.joining, h.touches⟩
  rintro - r' hr
  cases hr
  exact happlied

theorem Debouncing.deferred (h : s.Debouncing) (hbusy : s.Busy) {pausing : Bool} {r : PauseRequest} (more : Bool)
    (lastPauseTime : Nat) (hpausing : pausing = true ↔ r = .pause) :
    Debouncing { s with
      debouncePausing := pausing, debounceMore := more, lastPauseTime, lastRequest := some r } := by
  refine ⟨.inr ⟨hbusy.debounce, hbusy.threads, hbusy.joining, hbusy.stopping, hbusy.notDetached, hbusy.created, ?_⟩,
    h.expired, h.detached, h.joining, h.touches⟩
  rintro - r' hr
  cases hr
  exact hpausing

theorem Debouncing.pause (h : s.Debouncing) (ha : nexusSucceeds (.pause created now a) = true)
    (hkept : s.debounceKept (.pause created now a) = true) :
    Debouncing { s.pause created now a with lastRequest := some .pause } := by
  obtain ⟨hset, hfreeze⟩ := Bool.and_eq_true_iff.mp ha
  unfold TunnelOut.pause
  rcases h.phase with hidle | hbusy
  · cases created with
    | true =>
      have hjoining : s.joining = [] := by simpa [debounceKept, hidle.debounce] using hkept
      have hfresh : s.nextThread ∉ s.detached := fun hmem => Nat.lt_irrefl _ (h.detached _ hmem)
      rw [if_pos (by rw [hidle.debounce]; rfl)]
      refine ⟨.inr ⟨rfl, by rw [hidle.threads]; rfl, ?_, ?_, hfresh, Nat.lt_succ_self _, ?_⟩, h.expired, ?_, h.joining,
        h.touches⟩
      · intro thread hthread
        rw [hjoining] at hthread
        cases hthread
      · exact iff_of_false (by rw [hidle.stopping]; exact Bool.false_ne_true) (not_not.mpr hjoining)
      · rintro - r hr
        cases hr
        exact iff_of_true rfl rfl
      · exact fun thread hthread => Nat.lt_succ_of_lt (h.detached thread hthread)
    | false =>
      rw [if_neg (by simp), if_neg (by simp [hidle.debounce]), setTrickState_eq hset hfreeze]
      exact h.direct hidle ⟨rfl, rfl⟩
  · rw [if_neg (by simp [hbusy.debounce]), if_pos (by simp [hbusy.debounce, h.expired])]
    exact h.deferred hbusy _ _ (iff_of_true rfl rfl)

theorem Debouncing.resume (h : s.Debouncing) (ha : nexusSucceeds (.resume a) = true) :
    Debouncing { s.resume a with lastRequest := some .resume } := by
  obtain ⟨hset, hfreeze⟩ := Bool.and_eq_true_iff.mp ha
  unfold TunnelOut.resume
  rcases h.phase with hidle | hbusy
  · rw [if_neg (by simp [hidle.debounce]), setTrickState_eq hset hfreeze]
    exact h.direct hidle ⟨rfl, rfl⟩
  · rw [if_pos (by simp [hbusy.debounce, h.expired])]
    exact h.deferred hbusy false s.lastPauseTime (iff_of_false Bool.false_ne_true nofun)

/-! ### The thread -/

theorem Busy.finishTask_eq (h : s.Busy) (ha : nexusSucceeds (.wake t created now a) = true) : s.finishTask t created now a =
    if s.debounceStopping then { s.debounceReset with threads := s.threads.erase t }
    else { s.debounceReset with
      rate := if s.debouncePausing then .zero else .normal
      stcFrozen := s.debouncePausing
      touches := s.touches ++ [t]
      detached := s.detached ++ [t.id]
      threads := s.threads.erase t } := by
  obtain ⟨hset, hfreeze⟩ := Bool.and_eq_true_iff.mp ha
  unfold TunnelOut.finishTask
  cases hstopping : s.debounceStopping with
  | true => simp [debounceReset]
  | false =>
    cases hpausing : s.debouncePausing <;>
      simp [TunnelOut.pause, TunnelOut.resume, h.debounce, setTrickState_eq hset hfreeze, debounceReset]

theorem Debouncing.finishTask (h : s.Debouncing) (ht : t ∈ s.threads)
    (ha : nexusSucceeds (.wake t created now a) = true) :
    (s.finishTask t created now a).Debouncing := by
  have hbusy : s.Busy := by
    refine h.phase.resolve_left fun hidle => ?_
    rw [hidle.threads] at ht
    cases ht
  have ht : t = { id := s.debounceThread } := by
    rw [hbusy.threads] at ht
    exact List.mem_singleton.mp ht
  have hthreads : s.threads.erase t = [] := by rw [hbusy.threads, ht, List.erase_cons_head]
  rw [hbusy.finishTask_eq ha, hthreads]
  cases hstopping : s.debounceStopping with
  | true =>
    rw [if_pos rfl]
    refine ⟨.inl ⟨rfl, rfl, rfl, rfl, rfl, fun hjoining => ?_⟩, rfl, h.detached, h.joining, h.touches⟩
    exact absurd hjoining (hbusy.stopping.mp hstopping)
  | false =>
    rw [if_neg Bool.false_ne_true]
    have hjoining : s.joining = [] := by
      by_contra hne
      rw [hbusy.stopping.mpr hne] at hstopping
      cases hstopping
    refine ⟨.inl ⟨rfl, rfl, rfl, rfl, rfl, fun _ r hr => ?_⟩, rfl, ?_, ?_, ?_⟩
    · have hlast := hbusy.request hjoining r hr
      cases r with
      | pause => simp [Applied, hlast.mpr rfl]
      | resume =>
        have hpausing : s.debouncePausing = false := Bool.eq_false_iff.mpr fun hpausing => nomatch hlast.mp hpausing
        simp [Applied, hpausing]
    · intro thread hthread
      rcases List.mem_append.mp hthread with hthread | hthread
      · exact h.detached thread hthread
      · rw [List.mem_singleton.mp hthread, ht]
        exact hbusy.created
    · intro thread (hthread : thread ∈ s.joining)
      rw [hjoining] at hthread
      cases hthread
    · intro t' ht'
      rcases List.mem_append.mp ht' with ht' | ht'
      · exact h.touches t' ht'
      · rw [List.mem_singleton.mp ht', ht]

theorem Debouncing.wake (h : s.Debouncing) (ha : nexusSucceeds (.wake t created now a) = true)
    (hstep : s.wake t created now a = some s') : s'.Debouncing := by
  unfold TunnelOut.wake at hstep
  split at hstep
  · cases hstep
  · next ht =>
    have ht := not_not.mp ht
    split at hstep
    · have hless : Debouncing { s with debounceMore := false } := by
        refine ⟨h.phase.imp (fun hidle => ?_) (fun hbusy => ?_), h.expired, h.detached, h.joining, h.touches⟩
        · exact ⟨hidle.debounce, hidle.threads, hidle.pausing, rfl, hidle.stopping, hidle.request⟩
        · exact ⟨hbusy.debounce, hbusy.threads, hbusy.joining, hbusy.stopping, hbusy.notDetached, hbusy.created, hbusy.request⟩
      cases hstep
      split
      · exact hless
      · exact hless.finishTask ht ha
    · cases hstep
      exact h.finishTask ht ha

/-! ### Runs -/

theorem Debouncing.step (h : s.Debouncing) {a : DebounceAction} (ha : nexusSucceeds a = true)
    (hkept : s.debounceKept a = true) (hstep : s.step a = some s') : s'.Debouncing := by
  cases a with
  | start a =>
    cases hstep
    exact h.start hkept
  | stop =>
    cases hstep
    exact h.stop
  | joined thread => exact h.joined hstep
  | pause created now a =>
    cases hstep
    exact h.pause ha hkept
  | resume a =>
    cases hstep
    exact h.resume ha
  | wake t created now a => exact h.wake ha hstep

theorem Debouncing.init : Debouncing {} :=
  ⟨.inl ⟨rfl, rfl, rfl, rfl, rfl, nofun⟩, rfl, nofun, nofun, nofun⟩

/-- There is a thread just when `debounce` tells so, and no other; without one the decoder is as it was asked for; and no
    thread gets in the way of a `stop`. -/
structure DebounceConverges (s : TunnelOut) : Prop where
  one : s.threads.length ≤ 1
  debounce : s.debounce = true ↔ s.threads ≠ []
  applied : s.threads = [] → s.joining = [] → ∀ r, s.lastRequest = some r → s.Applied r
  joins : ∀ thread ∈ s.joining, thread ∉ s.detached
  touches : ∀ t ∈ s.touches, t.stopReturned = false

theorem Debouncing.converges (h : s.Debouncing) : s.DebounceConverges := by
  rcases h.phase with hidle | hbusy
  · refine ⟨?_, ?_, fun _ => hidle.request, h.joining, h.touches⟩
    · rw [hidle.threads]
      exact Nat.zero_le 1
    · rw [hidle.debounce, hidle.threads]
      exact iff_of_false Bool.false_ne_true (not_not.mpr rfl)
  · refine ⟨?_, ?_, fun hnone => ?_, h.joining, h.touches⟩
    · rw [hbusy.threads]
      exact Nat.le_refl 1
    · rw [hbusy.threads]
      exact iff_of_true hbusy.debounce (List.cons_ne_nil _ _)
    · rw [hbusy.threads] at hnone
      cases hnone

/-- In every run in which every Nexus call succeeds, and neither `start` nor a new thread gets in the way of a thread that
    is there or waited for, the last request is the one that takes effect. -/
theorem debounce_converges (s : TunnelOut)
    (h : Reaches TunnelOut.step (fun s a => (nexusSucceeds a && s.debounceKept a) = true) {} s) : s.DebounceConverges := by
  refine (h.invariant (P := Debouncing) Debouncing.init fun _ _ _ hs hok hstep => ?_).converges
  obtain ⟨ha, hkept⟩ := Bool.and_eq_true_iff.mp hok
  exact hs.step ha hkept hstep

/-- A pause is taken back and asked for again; the thread sleeps for the rest of the time and pauses. Then the output is
    stopped while the next thread sleeps. -/
theorem debounce_converges_again : ∃ s : TunnelOut,
    (s.rate = .zero ∧ s.stcFrozen = true ∧ s.threads = [] ∧ s.detached = [0]) ∧ s.DebounceConverges := by
  obtain ⟨s, hs, hp⟩ := Reaches.exists_of_run TunnelOut.step (fun s a => nexusSucceeds a && s.debounceKept a) {}
    [.start {}, .pause true 0 {}, .resume {}, .pause true 200000000 {}, .wake { id := 0 } true 300000000 {},
      .wake { id := 0 } true 500000000 {}, .pause true 600000000 {}, .stop, .wake { id := 1 } true 900000000 {}, .joined 1]
    (fun s => s.rate = .zero ∧ s.stcFrozen = true ∧ s.threads = [] ∧ s.detached = [0]) (by decide +kernel)
  exact ⟨s, of_decide_eq_true hp, debounce_converges s hs⟩

/-- The output is paused in standby and started before the thread wakes up. The next pause creates a second thread; the
    first one pauses and resets the flags, and the second one resumes. -/
theorem pause_lost_after_start : ∃ s, Reaches TunnelOut.step (fun _ a => nexusSucceeds a = true) {} s ∧
    ¬ s.DebounceConverges := by
  obtain ⟨s, hs, hp⟩ := Reaches.exists_of_run TunnelOut.step (fun _ a => nexusSucceeds a) {}
    [.pause true 0 {}, .start {}, .pause true 100000000 {}, .wake { id := 0 } true 300000000 {},
      .wake { id := 1 } true 400000000 {}]
    (fun s => s.threads = [] ∧ s.joining = [] ∧ s.lastRequest = some .pause ∧ s.rate = .normal) (by decide +kernel)
  obtain ⟨hthreads, hjoining, hlast, hrate⟩ := of_decide_eq_true hp
  refine ⟨s, hs, fun h => ?_⟩
  have hpaused := (h.applied hthreads hjoining .pause hlast).1
  rw [hrate] at hpaused
  cases hpaused

end TunnelOut
end BcmPlatform.Audio
