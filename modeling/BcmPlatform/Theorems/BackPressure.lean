import BcmPlatform.Theorems.SetWaits

/-! The primary display in fence mode: how many frames are on the list when a call blocks, and when it is back. The list is
    bounded in every run; that a call blocks only for frames on the list needs counters that count nothing else. -/

namespace BcmPlatform.Hwc
open Lib

/-- The release of a call that the composer owes for the item in its hand. -/
def Composer.owed : Composer → Nat
  | .dequeued _ forced | .composed _ forced | .freed forced => forced.toNat
  | _ => 0

theorem Composer.owed_le (composer : Composer) : composer.owed ≤ 1 := by
  cases composer <;> simp only [Composer.owed] <;> first | exact Bool.toNat_le _ | exact Nat.zero_le _

/-- The call has an item on the list that it has not waited for yet. -/
def Caller.mayWait : Caller → Nat
  | .appended _ _ | .installed _ _ | .signalled _ _ | .waitForced _ => 1
  | _ => 0

/-- The call signals an out-of-band frame. -/
def Caller.oobSignaled : Caller → Bool
  | .installed _ oob | .signalled _ oob => oob
  | _ => false

namespace HandOver
variable {s s' : HandOver} {a : HandOverAction} {oobs : Bool}

/-! ### The list is bounded -/

/-- The frames on the list, with the releases that are there already or that the composer owes: a call that is back adds
    no frame to them without taking a release. `oobs` tells whether calls may signal out-of-band frames. -/
structure Bounded (oobs : Bool) (s : HandOver) : Prop where
  fenceMode : s.fenceSupport = true
  display : s.display = .primary
  counted : s.composed + s.composerWorkList.length + s.caller.uncounted ≤ s.setCall
  oob : s.caller.oobSignaled = true → oobs = true
  frames : s.composerWorkList.length + s.composerEventForced.toNat + s.composer.owed ≤ 2 + oobs.toNat + s.caller.mayWait

/-- The step signals an out-of-band frame only if that is allowed. -/
def signalsOob (s : HandOver) : HandOverAction → Bool
  | .install _ oob => s.display = .primary && s.signalOobInline && oob
  | _ => false

theorem Bounded.chooseWait (h : s.Bounded oobs) {item : Nat} {oob : Bool} (hcaller : s.caller = .signalled item oob) :
    Bounded oobs { s with caller :=
      if !s.fenceSupport then .waitSync item else if s.waitsForced oob then .waitForced item else .idle } := by
  have ⟨hmode, hdisplay, hcounted, hoob, hframes⟩ := h
  rw [hcaller] at hcounted hoob hframes
  have heq : (if !s.fenceSupport then Caller.waitSync item else if s.waitsForced oob then .waitForced item else .idle) =
      if s.waitsForced oob then .waitForced item else .idle := by
    rw [hmode]
    rfl
  rw [heq]
  split
  · exact ⟨hmode, hdisplay, hcounted, nofun, hframes⟩
  · next hwaits =>
    refine ⟨hmode, hdisplay, hcounted, nofun, ?_⟩
    -- The call is not ahead by as many calls as it would wait for, so that the list is short.
    have hshort : s.setCall < s.composed + hwcSetCompThreshold + oob.toNat := by
      simpa [waitsForced, hdisplay] using hwaits
    have hlist : s.composerWorkList.length ≤ oobs.toNat := by
      have hle : oob.toNat ≤ oobs.toNat := by
        cases oob with
        | false => exact Nat.zero_le _
        | true => simp [hoob rfl]
      simp only [hwcSetCompThreshold, Caller.uncounted] at hshort hcounted
      omega
    have howed := s.composer.owed_le
    have hevent := s.composerEventForced.toNat_le
    show s.composerWorkList.length + s.composerEventForced.toNat + s.composer.owed ≤ 2 + oobs.toNat + 0
    omega

theorem Bounded.step (h : s.Bounded oobs) (hok : s.signalsOob a = true → oobs = true) (hstep : s.step a = some s') :
    s'.Bounded oobs := by
  have ⟨hmode, hdisplay, hcounted, hoob, hframes⟩ := h
  cases moves_of_step hstep with
  | enter hcaller =>
    rw [hcaller] at hcounted hframes
    exact ⟨hmode, hdisplay, Nat.succ_le_succ hcounted, nofun, hframes⟩
  | accept hcaller hpower =>
    rw [hcaller] at hcounted hframes
    exact ⟨hmode, hdisplay, hcounted, nofun, hframes⟩
  | skip hcaller hpower | allocFails hcaller =>
    rw [hcaller] at hframes
    exact ⟨hmode, hdisplay, Nat.le_trans (Nat.le_add_right _ _) hcounted, nofun, hframes⟩
  | append hcaller =>
    rw [hcaller] at hcounted hframes
    refine ⟨hmode, hdisplay, ?_, nofun, ?_⟩
    · rw [List.length_append]
      exact hcounted
    · simp only [Caller.mayWait, List.length_append, List.length_singleton] at hframes ⊢
      omega
  | install hcaller =>
    rw [hcaller] at hcounted hframes
    exact ⟨hmode, hdisplay, hcounted, hok, hframes⟩
  | setComposerEvent hcaller =>
    rw [hcaller] at hcounted hframes hoob
    exact ⟨hmode, hdisplay, hcounted, hoob, hframes⟩
  | chooseWait hcaller => exact h.chooseWait hcaller
  | wakeSync hcaller hevent =>
    rw [hcaller] at hcounted hframes
    exact ⟨hmode, hdisplay, hcounted, nofun, hframes⟩
  | wakeForced hcaller hevent =>
    rw [hcaller] at hcounted hframes
    refine ⟨hmode, hdisplay, hcounted, nofun, ?_⟩
    simp only [Caller.mayWait, hevent, Bool.toNat_true, Bool.toNat_false] at hframes ⊢
    omega
  | powerOn hcomposer hpower | powerOff hcomposer hpower | slept hcomposer | awake hcomposer hevent
  | drained hcomposer hlist | finish hcomposer | read hcomposer | free hcomposer =>
    rw [hcomposer] at hframes
    exact ⟨hmode, hdisplay, hcounted, hoob, hframes⟩
  | @dequeue item rest hcomposer hlist =>
    rw [hcomposer] at hframes
    rw [hlist, List.length_cons] at hcounted hframes
    refine ⟨hmode, hdisplay, ?_, hoob, ?_⟩
    · dsimp only
      omega
    · have howed := Composer.owed_le (.dequeued item (s.display = .primary && s.setCall ≥ s.composed + hwcSetCompThreshold))
      simp only [Composer.owed] at hframes howed ⊢
      omega
  | @release forced hcomposer =>
    rw [hcomposer] at hframes
    refine ⟨hmode, hdisplay, hcounted, hoob, Nat.le_trans ?_ hframes⟩
    cases s.composerEventForced <;> cases forced <;> simp [Composer.owed]
  | setPowerMode mode => exact ⟨hmode, hdisplay, hcounted, hoob, hframes⟩

/-! ### The counters -/

/-- The call is not skipped, and a call that signalled an out-of-band frame does not make its test with exactly two frames
    on the list. -/
def countsFrames (s : HandOver) : HandOverAction → Bool
  | .checkPower => s.powerMode.composes
  | .append allocated => allocated
  | .chooseWait => !(s.caller.oobSignaled && s.composerWorkList.length = hwcSetCompThreshold + 1)
  | _ => true

theorem counted_step (h : s.composed + s.composerWorkList.length + s.caller.uncounted = s.setCall)
    (hok : s.countsFrames a = true) (hstep : s.step a = some s') :
    s'.composed + s'.composerWorkList.length + s'.caller.uncounted = s'.setCall := by
  cases moves_of_step hstep with
  | enter hcaller | accept hcaller _ | install hcaller | setComposerEvent hcaller | wakeSync hcaller _
  | wakeForced hcaller _ =>
    rw [hcaller] at h
    simpa [Caller.uncounted] using h
  | skip hcaller hpower =>
    rw [countsFrames, hpower] at hok
    cases hok
  | allocFails hcaller => cases hok
  | append hcaller =>
    rw [hcaller] at h
    rw [List.length_append]
    exact h
  | chooseWait hcaller =>
    rw [hcaller] at h
    dsimp only
    split
    · exact h
    · split <;> exact h
  | dequeue hcomposer hlist =>
    rw [hlist, List.length_cons] at h
    dsimp only
    omega
  | powerOn _ _ | powerOff _ _ | slept _ | awake _ _ | drained _ _ | finish _ | read _ | free _ | release _
  | setPowerMode _ => exact h

/-- The frames that a call has to find on the list to block. -/
def framesToBlock (oob : Bool) : Nat := hwcSetCompThreshold + if oob then hwcSetCompInlineDelay else 0

/-- In every run the list is bounded after a call. In every run in which no call is skipped, and none that signalled an
    out-of-band frame makes its test with exactly two frames on the list, a call blocks only if that many frames are on the
    list. -/
theorem back_pressure (fenceRetire signalOobInline : Bool) (powerMode : PowerMode) (oobs : Bool) (s : HandOver)
    (h : Reaches HandOver.step (fun s a => s.signalsOob a = true → oobs = true)
      (init .primary true fenceRetire signalOobInline powerMode) s) :
    (s.caller = .idle →
      s.composerWorkList.length ≤ hwcSetCompThreshold + 1 + if oobs then hwcSetCompInlineDelay else 0) ∧
    (Reaches HandOver.step (fun s a => s.countsFrames a = true)
        (init .primary true fenceRetire signalOobInline powerMode) s →
      ∀ item oob s' item', s.caller = .signalled item oob → s.countsFrames .chooseWait = true →
        s.step .chooseWait = some s' → s'.caller = .waitForced item' → framesToBlock oob ≤ s.composerWorkList.length) := by
  have hbounded : s.Bounded oobs := by
    refine h.invariant (P := Bounded oobs) ?_ fun s a s' hs hok hstep => hs.step hok hstep
    unfold init
    exact ⟨rfl, rfl, Nat.le_refl _, nofun, Nat.zero_le _⟩
  constructor
  · intro hcaller
    have hframes := hbounded.frames
    rw [hcaller] at hframes
    have hdelay : oobs.toNat ≤ if oobs then hwcSetCompInlineDelay else 0 := by cases oobs <;> decide
    simp only [Caller.mayWait] at hframes
    simp only [hwcSetCompThreshold]
    omega
  · intro hrun item oob s' item' hcaller hok hstep hwaits
    have hcounted : s.composed + s.composerWorkList.length + s.caller.uncounted = s.setCall :=
      hrun.invariant (P := fun s => s.composed + s.composerWorkList.length + s.caller.uncounted = s.setCall) rfl
        fun s a s' hs hok hstep => counted_step hs hok hstep
    have hblocks : s.composed + hwcSetCompThreshold + oob.toNat ≤ s.setCall := by
      simp only [HandOver.step, HandOver.chooseWait, hcaller, hbounded.fenceMode] at hstep
      cases hstep
      simp only [Bool.not_true, Bool.false_eq_true, if_false] at hwaits
      split at hwaits
      · next hforced => simpa [waitsForced, hbounded.display] using hforced
      · cases hwaits
    rw [hcaller] at hcounted
    simp only [Caller.uncounted, hwcSetCompThreshold] at hcounted hblocks
    cases oob with
    | false =>
      show 1 + 0 ≤ s.composerWorkList.length
      simp only [Bool.toNat_false] at hblocks
      omega
    | true =>
      have hne : s.composerWorkList.length ≠ 2 := by
        rw [countsFrames, hcaller, Caller.oobSignaled, Bool.true_and, Bool.not_eq_true', decide_eq_false_iff_not] at hok
        exact hok
      show 1 + 2 ≤ s.composerWorkList.length
      simp only [Bool.toNat_true] at hblocks
      omega

/-- A call up to its test. -/
def postWith (oob : Bool) : List HandOverAction :=
  [.enter { hwLayers := [] }, .checkPower, .append true, .install { release := fun _ => none, retire := none } oob,
    .setComposerEvent]

/-- The first call finds its frame on the list and blocks. -/
theorem back_pressure_first : ∃ (s : HandOver) (item : Nat), s.caller = .signalled item false ∧ s.setCall = 1 ∧
    framesToBlock false ≤ s.composerWorkList.length := by
  obtain ⟨s, hs, hp⟩ := Reaches.exists_of_run HandOver.step countsFrames (init .primary true false false .normal)
    (postWith false) (fun s => s.caller = .signalled 0 false ∧ s.setCall = 1 ∧ s.composed = 0 ∧
      s.display = .primary ∧ s.fenceSupport = true) (by decide +kernel)
  obtain ⟨hcaller, hcall, hcomposed, hdisplay, hmode⟩ := of_decide_eq_true hp
  refine ⟨s, 0, hcaller, hcall, (back_pressure false false .normal true s (hs.mono fun _ _ _ _ => rfl)).2 hs 0 false
    { s with caller := .waitForced 0 } 0 hcaller ?_ ?_ rfl⟩
  · simp [countsFrames, hcaller, Caller.oobSignaled]
  · simp [HandOver.step, chooseWait, hcaller, hmode, waitsForced, hdisplay, hcall, hcomposed, hwcSetCompThreshold]

/-- A call blocks with nothing on the list after an earlier call was skipped. A call that signalled an out-of-band frame
    blocks with two frames on the list. -/
theorem blocks_without_frames :
    (∃ s s' item, Reaches HandOver.step (fun _ _ => True) (init .primary true false false .off) s ∧
      s.caller = .signalled item false ∧ s.step .chooseWait = some s' ∧ s'.caller = .waitForced item ∧
      s.composerWorkList.length < framesToBlock false) ∧
    ∃ s s' item, Reaches HandOver.step (fun _ _ => True) (init .primary true false true .normal) s ∧
      s.caller = .signalled item true ∧ s.step .chooseWait = some s' ∧ s'.caller = .waitForced item ∧
      s.composerWorkList.length < framesToBlock true := by
  have hblocks (s : HandOver) (item : Nat) (oob : Bool) (hcaller : s.caller = .signalled item oob)
      (hmode : s.fenceSupport = true) (hwaits : s.waitsForced oob = true) :
      s.step .chooseWait = some { s with caller := .waitForced item } := by
    simp [HandOver.step, chooseWait, hcaller, hmode, hwaits]
  constructor
  · obtain ⟨s, hs, hp⟩ := Reaches.exists_of_run HandOver.step (fun _ _ => true) (init .primary true false false .off)
      ([.enter { hwLayers := [] }, .checkPower, .setPowerMode .normal] ++ postWith false ++
        [.compose, .compose, .compose])
      (fun s => s.caller = .signalled 0 false ∧ s.fenceSupport = true ∧ s.waitsForced false = true ∧
        s.composerWorkList.length < framesToBlock false) (by decide +kernel)
    obtain ⟨hcaller, hmode, hwaits, hlist⟩ := of_decide_eq_true hp
    exact ⟨s, _, 0, hs.mono fun _ _ _ => trivial, hcaller, hblocks s 0 false hcaller hmode hwaits, rfl, hlist⟩
  · -- The composer takes the first frame before its call makes the test, and the release that it owes is left over.
    obtain ⟨s, hs, hp⟩ := Reaches.exists_of_run HandOver.step (fun _ _ => true) (init .primary true false true .normal)
      (postWith false ++ [.compose, .compose, .compose, .chooseWait, .compose, .compose, .compose] ++
        postWith false ++ [.chooseWait, .wake] ++ postWith true)
      (fun s => s.caller = .signalled 2 true ∧ s.fenceSupport = true ∧ s.waitsForced true = true ∧
        s.composerWorkList.length < framesToBlock true) (by decide +kernel)
    obtain ⟨hcaller, hmode, hwaits, hlist⟩ := of_decide_eq_true hp
    exact ⟨s, _, 2, hs.mono fun _ _ _ => trivial, hcaller, hblocks s 2 true hcaller hmode hwaits, rfl, hlist⟩

end HandOver
end BcmPlatform.Hwc
