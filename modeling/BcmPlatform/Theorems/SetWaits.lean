import BcmPlatform.Theorems.HandOver

/-! `hwc_set` waits for an event of the composer thread at its end. The thread sets it for every item that it takes, but
    it looks at the power mode first: a call that found the power on can be stranded when the power goes off. -/

namespace BcmPlatform.Hwc
open Lib

/-- The call found the power on and is not back yet. -/
def Caller.inFlight : Caller → Bool
  | .idle | .entered _ => false
  | _ => true

/-- The call is counted and has no item on the list yet. -/
def Caller.uncounted : Caller → Nat
  | .entered _ | .accepted _ => 1
  | _ => 0

/-- The item of the call is on the list, or it was. -/
def Caller.hasPosted : Caller → Bool
  | .idle | .entered _ | .accepted _ => false
  | _ => true

/-- The call has set `composer_event`. -/
def Caller.hasSignalled : Caller → Bool
  | .signalled _ _ | .waitSync _ | .waitForced _ => true
  | _ => false

/-- The composer has an item that it took from the list. -/
def Composer.busy : Composer → Bool
  | .dequeued _ _ | .composed _ _ | .freed _ => true
  | _ => false

/-- The composer sets the event of a call that has posted its item, before it waits again. -/
def Composer.atWork (fenceSupport : Bool) : Composer → Bool
  | .draining => true
  | .drained => !fenceSupport
  | composer => composer.busy

/-- The composer sets `composer_event_forced` when it is done with the item in its hand. -/
def Composer.forced : Composer → Bool
  | .dequeued _ forced | .composed _ forced | .freed forced => forced
  | _ => true

/-- The composer comes to its power check before it looks at the list again. In sync mode it still sets an event when it
    found the list empty. -/
def Composer.beforeCheck (fenceSupport : Bool) : Composer → Bool
  | .checkPower | .sleeping => true
  | .drained => fenceSupport
  | _ => false

namespace HandOver
variable {s s' : HandOver} {a : HandOverAction}

/-- The event that a call waits for at its end. -/
def awaited (s : HandOver) : Bool := if s.fenceSupport then s.composerEventForced else s.composerEventSync

/-- The state of the event that the call waits for now. -/
def waitsFor (s : HandOver) : Option Bool :=
  match s.caller with
  | .waitSync _ => some s.composerEventSync
  | .waitForced _ => some s.composerEventForced
  | _ => none

/-- The call found the power on, and its event is not set. -/
def callPending (s : HandOver) : Bool := s.caller.inFlight && !s.awaited

/-- The power does not go off while a call is pending and the composer is before its power check, and the composer does
    not go back to the check with the power off while a call is pending. -/
def powerKept (s : HandOver) : HandOverAction → Bool
  | .setPowerMode mode => mode.composes || !s.callPending || !s.composer.beforeCheck s.fenceSupport
  | .compose =>
    s.powerMode.composes || !s.callPending || !(s.fenceSupport && s.composer = .draining && s.composerWorkList = [])
  | _ => true

/-- The composer thread can come to the point where it sets the event, by its own steps. -/
def Served (s : HandOver) : Prop :=
  ∃ s', Reaches HandOver.step (fun _ a => a = .compose) s s' ∧ s'.waitsFor = some true

/-- A call that waits is woken, or can be. -/
def NotStranded (s : HandOver) : Prop := s.waitsFor = some false → s.Served

/-! ### The invariant -/

/-- Why the composer will set the event of a call. -/
structure Serves (s : HandOver) : Prop where
  display : s.display = .primary
  counted : s.composed + s.composerWorkList.length + s.caller.uncounted ≤ s.setCall
  forced : s.composer.forced = true
  posted : s.fenceSupport = true → s.caller.hasPosted = true →
    s.composerEventForced = true ∨ s.composerWorkList ≠ [] ∨ s.composer.busy = true
  signalled : s.caller.hasSignalled = true →
    s.awaited = true ∨ s.composerEvent = true ∨ s.composer.atWork s.fenceSupport = true
  powered : s.callPending = true → s.powerMode.composes = true ∨ s.composer.beforeCheck s.fenceSupport = false
  waitsSync : ∀ item, s.caller = .waitSync item → s.fenceSupport = false
  waitsForced : ∀ item, s.caller = .waitForced item → s.fenceSupport = true

theorem callPending_eq : s.callPending = true ↔ s.caller.inFlight = true ∧ s.awaited = false := by
  rw [callPending, Bool.and_eq_true, Bool.not_eq_true']

theorem Caller.hasPosted_of_hasSignalled {caller : Caller} (h : caller.hasSignalled = true) : caller.hasPosted = true := by
  cases caller <;> first | rfl | cases h

/-- The composer found the list empty: it has no item of a call in fence mode, and in sync mode it sets the event next. -/
theorem Serves.drained (h : s.Serves) (hok : s.powerKept .compose = true) (hcomposer : s.composer = .draining)
    (hlist : s.composerWorkList = []) : Serves { s with composer := .drained } := by
  obtain ⟨hdisplay, hcounted, -, hposted, -, -, hsync, hforcedMode⟩ := h
  rw [hcomposer] at hposted
  refine ⟨hdisplay, hcounted, rfl, hposted, fun hs => ?_, fun hpending => ?_, hsync, hforcedMode⟩
  · cases hmode : s.fenceSupport with
    | false => exact .inr (.inr rfl)
    | true =>
      obtain hset | hne | hbusy := hposted hmode (Caller.hasPosted_of_hasSignalled hs)
      · exact .inl (by simpa [awaited, hmode] using hset)
      · exact absurd hlist hne
      · cases hbusy
  · cases hmode : s.fenceSupport with
    | false => exact .inr rfl
    | true =>
      replace hpending : s.callPending = true := hpending
      simp only [powerKept, hcomposer, hlist, hmode, hpending] at hok
      exact .inl (by simpa using hok)

theorem Serves.finish (h : s.Serves) (hcomposer : s.composer = .drained) :
    Serves { s with composerEventSync := s.composerEventSync || !s.fenceSupport, composer := .checkPower } := by
  obtain ⟨hdisplay, hcounted, -, hposted, hsignalled, hpowered, hsync, hforcedMode⟩ := h
  rw [hcomposer] at hposted hsignalled hpowered
  refine ⟨hdisplay, hcounted, rfl, hposted, fun hs => ?_, fun hpending => ?_, hsync, hforcedMode⟩
  · cases hmode : s.fenceSupport with
    | false => exact .inl (by simp [awaited])
    | true =>
      obtain hset | hevent | hwork := hsignalled hs
      · exact .inl (by simpa [awaited, hmode] using hset)
      · exact .inr (.inl hevent)
      · rw [hmode] at hwork
        cases hwork
  · obtain ⟨hinFlight, hawaited⟩ := callPending_eq.mp hpending
    cases hmode : s.fenceSupport with
    | false => simp [awaited, hmode] at hawaited
    | true =>
      have hbefore : s.callPending = true :=
        callPending_eq.mpr ⟨hinFlight, by simpa [awaited, hmode] using hawaited⟩
      refine .inl ((hpowered hbefore).resolve_right ?_)
      simp [Composer.beforeCheck, hmode]

/-- An item is taken while at least one call is ahead of those that were composed, which makes the composer set
    `composer_event_forced` behind it. -/
theorem Serves.dequeue (h : s.Serves) {item : Nat} {rest : List Nat} (hlist : s.composerWorkList = item :: rest) :
    Serves { s with
      composerWorkList := rest
      composed := s.composed + 1
      composer := .dequeued item (s.display = .primary && s.setCall ≥ s.composed + hwcSetCompThreshold) } := by
  have hcounted := h.counted
  rw [hlist, List.length_cons] at hcounted
  have hcall : s.composed + hwcSetCompThreshold ≤ s.setCall := by
    simp only [hwcSetCompThreshold]
    omega
  refine ⟨h.display, ?_, ?_, fun _ _ => .inr (.inr rfl), fun _ => .inr (.inr rfl), fun _ => .inr rfl, h.waitsSync,
    h.waitsForced⟩
  · dsimp only
    omega
  · simp [Composer.forced, h.display, hcall]

theorem Serves.step (h : s.Serves) (hok : s.powerKept a = true) (hstep : s.step a = some s') : s'.Serves := by
  have ⟨hdisplay, hcounted, hforced, hposted, hsignalled, hpowered, hsync, hforcedMode⟩ := h
  cases moves_of_step hstep with
  | enter hcaller =>
    rw [hcaller] at hcounted
    exact ⟨hdisplay, Nat.succ_le_succ hcounted, hforced, nofun, nofun, nofun, nofun, nofun⟩
  | accept hcaller hpower =>
    rw [hcaller] at hcounted
    exact ⟨hdisplay, hcounted, hforced, nofun, nofun, fun _ => .inl hpower, nofun, nofun⟩
  | skip hcaller hpower | allocFails hcaller =>
    exact ⟨hdisplay, Nat.le_trans (Nat.le_add_right _ _) hcounted, hforced, nofun, nofun, nofun, nofun, nofun⟩
  | append hcaller =>
    rw [callPending, hcaller] at hpowered
    rw [hcaller] at hcounted
    refine ⟨hdisplay, ?_, hforced, fun _ _ => .inr (.inl ?_), nofun, hpowered, nofun, nofun⟩
    · rw [List.length_append]
      exact hcounted
    · exact List.append_ne_nil_of_right_ne_nil _ (List.cons_ne_nil _ _)
  | install hcaller =>
    rw [callPending, hcaller] at hpowered
    rw [hcaller] at hcounted hposted
    exact ⟨hdisplay, hcounted, hforced, hposted, nofun, hpowered, nofun, nofun⟩
  | setComposerEvent hcaller =>
    rw [callPending, hcaller] at hpowered
    rw [hcaller] at hcounted hposted
    exact ⟨hdisplay, hcounted, hforced, hposted, fun _ => .inr (.inl rfl), hpowered, nofun, nofun⟩
  | chooseWait hcaller =>
    rw [callPending, hcaller] at hpowered
    rw [hcaller] at hcounted hposted hsignalled
    split
    · next hmode =>
      rw [Bool.not_eq_true'] at hmode
      exact ⟨hdisplay, hcounted, hforced, hposted, hsignalled, hpowered, fun _ _ => hmode, nofun⟩
    · next hmode =>
      split
      · exact ⟨hdisplay, hcounted, hforced, hposted, hsignalled, hpowered, nofun, fun _ _ => by simpa using hmode⟩
      · exact ⟨hdisplay, hcounted, hforced, nofun, nofun, nofun, nofun, nofun⟩
  | wakeSync hcaller _ | wakeForced hcaller _ =>
    rw [hcaller] at hcounted
    exact ⟨hdisplay, hcounted, hforced, nofun, nofun, nofun, nofun, nofun⟩
  | powerOn hcomposer hpower =>
    rw [hcomposer] at hposted hsignalled
    exact ⟨hdisplay, hcounted, rfl, hposted, hsignalled, fun _ => .inl hpower, hsync, hforcedMode⟩
  | powerOff hcomposer hpower =>
    rw [hcomposer] at hposted hsignalled hpowered
    refine ⟨hdisplay, hcounted, rfl, hposted, hsignalled, fun hpending => ?_, hsync, hforcedMode⟩
    exact .inl ((hpowered hpending).resolve_right nofun)
  | slept hcomposer =>
    rw [hcomposer] at hposted hsignalled hpowered
    refine ⟨hdisplay, hcounted, rfl, hposted, hsignalled, fun hpending => ?_, hsync, hforcedMode⟩
    exact .inl ((hpowered hpending).resolve_right nofun)
  | awake hcomposer hevent =>
    rw [hcomposer] at hposted
    exact ⟨hdisplay, hcounted, rfl, hposted, fun _ => .inr (.inr rfl), fun _ => .inr rfl, hsync, hforcedMode⟩
  | drained hcomposer hlist => exact h.drained hok hcomposer hlist
  | dequeue hcomposer hlist => exact h.dequeue hlist
  | read hcomposer | free hcomposer =>
    rw [hcomposer] at hforced
    exact ⟨hdisplay, hcounted, hforced, fun _ _ => .inr (.inr rfl), fun _ => .inr (.inr rfl), fun _ => .inr rfl,
      hsync, hforcedMode⟩
  | @release forced hcomposer =>
    rw [hcomposer] at hforced
    cases (show forced = true from hforced)
    exact ⟨hdisplay, hcounted, rfl, fun _ _ => .inl (Bool.or_true _), fun _ => .inr (.inr rfl), fun _ => .inr rfl,
      hsync, hforcedMode⟩
  | finish hcomposer => exact h.finish hcomposer
  | setPowerMode mode =>
    refine ⟨hdisplay, hcounted, hforced, hposted, hsignalled, ?_, hsync, hforcedMode⟩
    intro hpending
    replace hpending : s.callPending = true := hpending
    simp only [powerKept, hpending, Bool.not_true, Bool.or_false, Bool.or_eq_true, Bool.not_eq_true'] at hok
    exact hok

/-! ### The composer's own steps -/

theorem Moves.compose_eq (h : Moves s .compose s') : s.step .compose = some s' := by
  cases h with
  | powerOn hcomposer hpower | powerOff hcomposer hpower => simp [HandOver.step, compose, hcomposer, hpower]
  | awake hcomposer hevent => simp [HandOver.step, compose, hcomposer, hevent]
  | drained hcomposer hlist | dequeue hcomposer hlist => simp [HandOver.step, compose, hcomposer, HandOver.dequeue, hlist]
  | slept hcomposer | read hcomposer | free hcomposer | release hcomposer | finish hcomposer =>
    simp [HandOver.step, compose, hcomposer]

theorem Served.of_moves (h : Moves s .compose s') (hserved : s'.Served) : s.Served := by
  obtain ⟨s'', hreach, hevent⟩ := hserved
  exact ⟨s'', Reaches.trans (.step .init rfl h.compose_eq) hreach, hevent⟩

theorem served_of_busy {item : Nat} (hcaller : s.caller = .waitForced item) (hbusy : s.composer.busy = true)
    (hforced : s.composer.forced = true) : s.Served := by
  have hfreed : ∀ s : HandOver, s.caller = .waitForced item → s.composer = .freed true → s.Served := by
    intro s hcaller hcomposer
    refine Served.of_moves (.release hcomposer) ⟨_, .init, ?_⟩
    simp [waitsFor, hcaller]
  cases hcomposer : s.composer with
  | dequeued i forced =>
    rw [hcomposer] at hforced
    cases (show forced = true from hforced)
    exact Served.of_moves (.read hcomposer) (Served.of_moves (.free rfl) (hfreed _ hcaller rfl))
  | composed i forced =>
    rw [hcomposer] at hforced
    cases (show forced = true from hforced)
    exact Served.of_moves (.free hcomposer) (hfreed _ hcaller rfl)
  | freed forced =>
    rw [hcomposer] at hforced
    cases (show forced = true from hforced)
    exact hfreed s hcaller hcomposer
  | checkPower | sleeping | waiting | draining | drained =>
    rw [hcomposer] at hbusy
    cases hbusy

theorem served_of_drained {item : Nat} (hmode : s.fenceSupport = false) (hcaller : s.caller = .waitSync item)
    (hcomposer : s.composer = .drained) : s.Served := by
  refine Served.of_moves (.finish hcomposer) ⟨_, .init, ?_⟩
  simp [waitsFor, hcaller, hmode]

/-- The inner loop empties the list, which a call in sync mode waits for. The induction is on the list: a round takes one
    item from it. -/
theorem served_of_draining {item : Nat} (hmode : s.fenceSupport = false) (hcaller : s.caller = .waitSync item)
    (hcomposer : s.composer = .draining) : s.Served := by
  generalize hlist : s.composerWorkList = items
  induction items generalizing s with
  | nil => exact Served.of_moves (.drained hcomposer hlist) (served_of_drained hmode hcaller rfl)
  | cons i rest ih =>
    refine Served.of_moves (.dequeue hcomposer hlist) (Served.of_moves (.read rfl) ?_)
    exact Served.of_moves (.free rfl) (Served.of_moves (.release rfl) (ih hmode hcaller rfl rfl))

theorem served_of_listed {item : Nat} (hdisplay : s.display = .primary)
    (hcounted : s.composed + s.composerWorkList.length ≤ s.setCall) (hcaller : s.caller = .waitForced item)
    (hcomposer : s.composer = .draining) (hlist : s.composerWorkList ≠ []) : s.Served := by
  obtain ⟨i, rest, hlist⟩ := List.exists_cons_of_ne_nil hlist
  have hcall : s.composed + hwcSetCompThreshold ≤ s.setCall := by
    rw [hlist, List.length_cons] at hcounted
    exact Nat.le_trans (Nat.add_le_add_left (Nat.succ_le_succ (Nat.zero_le _)) _) hcounted
  refine Served.of_moves (.dequeue hcomposer hlist) (served_of_busy hcaller rfl ?_)
  simp [Composer.forced, hdisplay, hcall]

theorem served_of_event (hevent : s.composerEvent = true)
    (hcomposer : s.composer = .waiting ∨ (s.composer = .checkPower ∨ s.composer = .sleeping) ∧ s.powerMode.composes = true)
    (h : Served { s with composerEvent := false, composer := .draining }) : s.Served := by
  obtain hwaiting | ⟨hcheck | hsleeping, hpower⟩ := hcomposer
  · exact Served.of_moves (.awake hwaiting hevent) h
  · exact Served.of_moves (.powerOn hcheck hpower) (Served.of_moves (.awake rfl hevent) h)
  · refine Served.of_moves (.slept hsleeping) (Served.of_moves (.powerOn rfl hpower) ?_)
    exact Served.of_moves (.awake rfl hevent) h

theorem Serves.beforeWait (h : s.Serves) (hpending : s.callPending = true) (hsignalled : s.caller.hasSignalled = true)
    (hwork : s.composer.atWork s.fenceSupport = false) :
    s.composerEvent = true ∧ (s.powerMode.composes = true ∨ s.composer.beforeCheck s.fenceSupport = false) := by
  refine ⟨?_, h.powered hpending⟩
  have hsignal := (h.signalled hsignalled).resolve_left (by rw [(callPending_eq.mp hpending).2]; exact Bool.false_ne_true)
  exact hsignal.resolve_right (by rw [hwork]; exact Bool.false_ne_true)

theorem Serves.servedAtWait (h : s.Serves) (hpending : s.callPending = true) (hsignalled : s.caller.hasSignalled = true)
    (hcomposer : s.composer = .waiting ∨ s.composer = .checkPower ∨ s.composer = .sleeping)
    (hdraining : Served { s with composerEvent := false, composer := .draining }) : s.Served := by
  have hwait := h.beforeWait hpending hsignalled
  obtain hcomposer | hcomposer | hcomposer := hcomposer
  · exact served_of_event (hwait (by rw [hcomposer]; rfl)).1 (.inl hcomposer) hdraining
  · obtain ⟨hevent, hpower⟩ := hwait (by rw [hcomposer]; rfl)
    rw [hcomposer] at hpower
    exact served_of_event hevent (.inr ⟨.inl hcomposer, hpower.resolve_right nofun⟩) hdraining
  · obtain ⟨hevent, hpower⟩ := hwait (by rw [hcomposer]; rfl)
    rw [hcomposer] at hpower
    exact served_of_event hevent (.inr ⟨.inr hcomposer, hpower.resolve_right nofun⟩) hdraining

theorem Serves.servedSync (h : s.Serves) {item : Nat} (hcaller : s.caller = .waitSync item)
    (hevent : s.composerEventSync = false) : s.Served := by
  have hmode := h.waitsSync item hcaller
  have hpending : s.callPending = true :=
    callPending_eq.mpr ⟨by rw [hcaller]; rfl, by rw [awaited, hmode]; exact hevent⟩
  have hwait := h.servedAtWait hpending (by rw [hcaller]; rfl)
  have hdraining : Served { s with composerEvent := false, composer := .draining } :=
    served_of_draining hmode hcaller rfl
  cases hcomposer : s.composer with
  | draining => exact served_of_draining hmode hcaller hcomposer
  | drained => exact served_of_drained hmode hcaller hcomposer
  | dequeued i forced =>
    refine Served.of_moves (.read hcomposer) (Served.of_moves (.free rfl) (Served.of_moves (.release rfl) ?_))
    exact served_of_draining hmode hcaller rfl
  | composed i forced =>
    refine Served.of_moves (.free hcomposer) (Served.of_moves (.release rfl) ?_)
    exact served_of_draining hmode hcaller rfl
  | freed forced => exact Served.of_moves (.release hcomposer) (served_of_draining hmode hcaller rfl)
  | waiting => exact hwait (.inl hcomposer) hdraining
  | checkPower => exact hwait (.inr (.inl hcomposer)) hdraining
  | sleeping => exact hwait (.inr (.inr hcomposer)) hdraining

theorem Serves.servedForced (h : s.Serves) {item : Nat} (hcaller : s.caller = .waitForced item)
    (hevent : s.composerEventForced = false) : s.Served := by
  have hmode := h.waitsForced item hcaller
  have hpending : s.callPending = true :=
    callPending_eq.mpr ⟨by rw [hcaller]; rfl, by rw [awaited, hmode]; exact hevent⟩
  have hsignalled : s.caller.hasSignalled = true := by
    rw [hcaller]
    rfl
  have hwait := h.servedAtWait hpending hsignalled
  have hposted := (h.posted hmode (by rw [hcaller]; rfl)).resolve_left (by rw [hevent]; exact Bool.false_ne_true)
  have hcounted : s.composed + s.composerWorkList.length ≤ s.setCall := Nat.le_trans (Nat.le_add_right _ _) h.counted
  have hdraining : s.composer.busy = false → Served { s with composerEvent := false, composer := .draining } :=
    fun hbusy => served_of_listed h.display hcounted hcaller rfl
      (hposted.resolve_right (by rw [hbusy]; exact Bool.false_ne_true))
  cases hcomposer : s.composer with
  | draining =>
    exact served_of_listed h.display hcounted hcaller hcomposer (hposted.resolve_right (by rw [hcomposer]; nofun))
  | drained =>
    obtain ⟨hevent, hpower⟩ := h.beforeWait hpending hsignalled (by rw [hcomposer, hmode]; rfl)
    rw [hcomposer, hmode] at hpower
    refine Served.of_moves (.finish hcomposer) (served_of_event hevent (.inr ⟨.inl rfl, hpower.resolve_right nofun⟩) ?_)
    exact served_of_listed h.display hcounted hcaller rfl (hposted.resolve_right (by rw [hcomposer]; nofun))
  | dequeued _ _ | composed _ _ | freed _ => exact served_of_busy hcaller (by rw [hcomposer]; rfl) h.forced
  | waiting => exact hwait (.inl hcomposer) (hdraining (by rw [hcomposer]; rfl))
  | checkPower => exact hwait (.inr (.inl hcomposer)) (hdraining (by rw [hcomposer]; rfl))
  | sleeping => exact hwait (.inr (.inr hcomposer)) (hdraining (by rw [hcomposer]; rfl))

theorem Serves.notStranded (h : s.Serves) : s.NotStranded := by
  intro hwaits
  cases hcaller : s.caller with
  | waitSync item =>
    rw [waitsFor, hcaller] at hwaits
    exact h.servedSync hcaller (Option.some.inj hwaits)
  | waitForced item =>
    rw [waitsFor, hcaller] at hwaits
    exact h.servedForced hcaller (Option.some.inj hwaits)
  | idle | entered _ | accepted _ | appended _ _ | installed _ _ | signalled _ _ =>
    simp [waitsFor, hcaller] at hwaits

/-! ### Runs -/

/-- In every run in which the power does not go off under a pending call whose composer has not checked it yet, and the
    composer does not go back to its check with the power off under such a call, no call is stranded. -/
theorem set_not_stranded (fenceSupport fenceRetire signalOobInline : Bool) (powerMode : PowerMode) (s : HandOver)
    (h : Reaches HandOver.step (fun s a => s.powerKept a = true)
      (init .primary fenceSupport fenceRetire signalOobInline powerMode) s) : s.NotStranded := by
  have hinv : s.Serves := by
    refine h.invariant (P := Serves) ?_ fun s a s' hs hok hstep => hs.step hok hstep
    unfold init
    exact ⟨rfl, Nat.le_refl _, rfl, nofun, nofun, nofun, nofun, nofun⟩
  exact hinv.notStranded

/-- A call of sync mode that waits for the composer, which is asleep when the call is posted. -/
def postAndWait : List HandOverAction :=
  [.append true, .install { release := fun _ => none, retire := none } false, .setComposerEvent, .chooseWait]

/-- The power comes on while the composer sleeps; the call that waits is woken by the composer. -/
theorem set_not_stranded_asleep : ∃ s : HandOver, s.waitsFor = some false ∧ s.Served := by
  obtain ⟨s, hs, hp⟩ := Reaches.exists_of_run HandOver.step powerKept (init .primary false false false .off)
    ([.compose, .setPowerMode .normal, .enter { hwLayers := [] }, .checkPower] ++ postAndWait)
    (fun s => s.waitsFor = some false) (by decide +kernel)
  exact ⟨s, of_decide_eq_true hp, set_not_stranded false false false .off s hs (of_decide_eq_true hp)⟩

theorem not_served_of_off (hpower : s.powerMode.composes = false)
    (hcomposer : s.composer = .checkPower ∨ s.composer = .sleeping) (hwaits : s.waitsFor = some false) : ¬ s.Served := by
  rintro ⟨s', hreach, hevent⟩
  have hstuck : s'.powerMode.composes = false ∧ (s'.composer = .checkPower ∨ s'.composer = .sleeping) ∧
      s'.waitsFor = some false := by
    refine hreach.invariant (P := fun s => s.powerMode.composes = false ∧
      (s.composer = .checkPower ∨ s.composer = .sleeping) ∧ s.waitsFor = some false) ⟨hpower, hcomposer, hwaits⟩
      fun s a s' hs ha hstep => ?_
    obtain ⟨hpower, hcheck | hsleeping, hwaits⟩ := hs <;> subst ha
    · rw [HandOver.step, compose, hcheck] at hstep
      cases hstep
      refine ⟨hpower, .inr ?_, hwaits⟩
      rw [hpower]
      rfl
    · rw [HandOver.step, compose, hsleeping] at hstep
      cases hstep
      exact ⟨hpower, .inl rfl, hwaits⟩
  rw [hstuck.2.2] at hevent
  cases hevent

/-- The standby monitor switches the power off after the call found it on, and the composer has not looked at it since it
    came on. -/
theorem set_stranded_by_standby :
    ∃ s, Reaches HandOver.step (fun _ _ => True) (init .primary false false false .off) s ∧ ¬ s.NotStranded := by
  obtain ⟨s, hs, hp⟩ := Reaches.exists_of_run HandOver.step (fun _ _ => true) (init .primary false false false .off)
    ([.compose, .setPowerMode .normal, .enter { hwLayers := [] }, .checkPower, .setPowerMode .off] ++ postAndWait)
    (fun s => s.waitsFor = some false ∧ s.powerMode.composes = false ∧ s.composer = .sleeping) (by decide +kernel)
  obtain ⟨hwaits, hpower, hcomposer⟩ := of_decide_eq_true hp
  exact ⟨s, hs.mono fun _ _ _ => trivial, fun h => not_served_of_off hpower (.inr hcomposer) hwaits (h hwaits)⟩

end HandOver
end BcmPlatform.Hwc
