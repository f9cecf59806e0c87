import Mathlib.Data.List.Nodup
import Mathlib.Data.List.Perm.Basic
import BcmPlatform.Hwc.Surfaces
import BcmPlatform.Lib.Runs

/-! A display surface goes from the FIFO to the frame that is composed, to the surface client, and back by way of a
    recycle. It is lost where the frame is given up after a surface was taken for it. -/

namespace BcmPlatform.Hwc
open Lib

/-- The surfaces that a recycle took from the client and has not put back yet. -/
def Recycle.surfaces : Recycle → List Nat
  | .took surfaces => surfaces
  | _ => []

/-- The surface that a frame is composed into. -/
def Composition.surface : Composition → List Nat
  | .composing _ surface => [surface]
  | _ => []

namespace PrimaryDisplay
variable {s s' : PrimaryDisplay} {a : PrimaryAction} {frame : QueuedFrame} {surface : Nat}

/-! ### The end of a frame -/

/-- The frame comes to the push, unless a checkpoint times out before. -/
def pushes (o : LayersOutcome) (s : PrimaryDisplay) : Bool :=
  o.layerComposed ≠ 0 || o.videoSeen && !s.hasBackground o && !o.skipComp

/-- The frame needs a checkpoint before it is pushed. -/
def LayersOutcome.checks (o : LayersOutcome) : Bool := o.layerComposed = 0 || o.qOps

theorem dropFrame_background (b : Bool) :
    ({ s with alphaHoleBackground := b } : PrimaryDisplay).dropFrame frame =
      { s.dropFrame frame with alphaHoleBackground := b } := by
  unfold dropFrame retTlInc
  split
  · split <;> rfl
  · rfl

theorem pushSurface_background (ok b : Bool) :
    ({ s with alphaHoleBackground := b } : PrimaryDisplay).pushSurface ok frame surface =
      { s.pushSurface ok frame surface with alphaHoleBackground := b } := by
  cases ok with
  | false => exact dropFrame_background b
  | true => rfl

/-- A frame puts its surface back, gives up after a checkpoint, or comes to the push; the background is another matter. -/
theorem finishFrame_eq (frame : QueuedFrame) (surface : Nat) (o : LayersOutcome) (checkpoint push : Bool)
    (s : PrimaryDisplay) : ∃ background,
      (s.pushes o = false ∧ s.finishFrame frame surface o checkpoint push =
        { (s.putDispSurface surface).dropFrame frame with alphaHoleBackground := background }) ∨
      (s.pushes o = true ∧ o.checks = true ∧ checkpoint = false ∧
        s.finishFrame frame surface o checkpoint push = { s with alphaHoleBackground := background }) ∨
      (s.pushes o = true ∧ (o.checks = true → checkpoint = true) ∧ s.finishFrame frame surface o checkpoint push =
        { s.pushSurface push frame surface with alphaHoleBackground := background }) := by
  unfold finishFrame pushes LayersOutcome.checks
  dsimp only
  by_cases hcomposed : o.layerComposed = 0
  · rw [if_pos hcomposed]
    cases hvideo : o.videoSeen && !s.hasBackground o with
    | false =>
      rw [if_neg Bool.false_ne_true]
      exact ⟨s.hasBackground o, .inl ⟨by simp [hcomposed], dropFrame_background (s := s.putDispSurface surface) _⟩⟩
    | true =>
      rw [if_pos rfl]
      cases hskip : o.skipComp with
      | true => exact ⟨s.hasBackground o, .inl ⟨by simp [hcomposed], dropFrame_background (s := s.putDispSurface surface) _⟩⟩
      | false =>
        cases checkpoint with
        | false => exact ⟨s.hasBackground o, .inr (.inl ⟨by simp, by simp [hcomposed], rfl, rfl⟩)⟩
        | true =>
          cases push with
          | false =>
            exact ⟨s.hasBackground o, .inr (.inr ⟨by simp, fun _ => rfl, pushSurface_background false _⟩)⟩
          | true => exact ⟨true, .inr (.inr ⟨by simp, fun _ => rfl, rfl⟩)⟩
  · rw [if_neg hcomposed]
    cases hgiven : o.qOps && !checkpoint with
    | true =>
      rw [Bool.and_eq_true, Bool.not_eq_true'] at hgiven
      exact ⟨o.forcedBackground, .inr (.inl ⟨by simp [hcomposed], by simp [hgiven.1], hgiven.2, rfl⟩)⟩
    | false =>
      refine ⟨o.forcedBackground, .inr (.inr ⟨by simp [hcomposed], fun hchecks => ?_, pushSurface_background push _⟩)⟩
      simp only [hcomposed, decide_false, Bool.false_or] at hchecks
      simpa [hchecks] using hgiven

/-! ### Where the surfaces are -/

/-- The surfaces that the display uses now. -/
def current (s : PrimaryDisplay) : List Nat := s.displayBuffers.filterMap id

/-- The surfaces that were pushed and are not recycled yet. -/
def notRecycled (s : PrimaryDisplay) : List Nat :=
  s.pushed.map (·.surface) ++ (s.recycle .thread).surfaces ++ (s.recycle .composer).surfaces

def places (s : PrimaryDisplay) : List Nat := s.displayFifo ++ s.composition.surface ++ s.notRecycled

/-- Every current surface is in one place. A surface that was never used is in none. -/
structure Conserved (s : PrimaryDisplay) : Prop where
  buffers : s.displayBuffers.length = hwcNumDispBuffers
  once : ∀ x ∈ s.current, s.places.count x = 1
  current : ∀ x ∈ s.displayFifo ++ s.composition.surface, x ∈ s.current
  used : ∀ x ∈ s.places, x < s.nextSurface

theorem Conserved.move (h : s.Conserved) (hbuffers : s'.displayBuffers = s.displayBuffers)
    (hnext : s'.nextSurface = s.nextSurface) (hplaces : s'.places.Perm s.places)
    (hfifo : ∀ x ∈ s'.displayFifo ++ s'.composition.surface, x ∈ s.displayFifo ++ s.composition.surface) :
    s'.Conserved where
  buffers := hbuffers ▸ h.buffers
  once x hx := by
    rw [PrimaryDisplay.current, hbuffers] at hx
    rw [hplaces.count_eq]
    exact h.once x hx
  current x hx := by
    rw [PrimaryDisplay.current, hbuffers]
    exact h.current x (hfifo x hx)
  used x hx := by
    rw [hnext]
    exact h.used x (hplaces.mem_iff.mp hx)

theorem Conserved.congr (h : s.Conserved) (hbuffers : s'.displayBuffers = s.displayBuffers)
    (hfifo : s'.displayFifo = s.displayFifo) (hnext : s'.nextSurface = s.nextSurface) (hpushed : s'.pushed = s.pushed)
    (hrecycle : s'.recycle = s.recycle) (hcomposition : s'.composition.surface = s.composition.surface) :
    s'.Conserved := by
  have hplaces : s'.places = s.places := by rw [places, places, notRecycled, notRecycled, hfifo, hpushed, hrecycle, hcomposition]
  exact h.move hbuffers hnext (hplaces ▸ .refl _) fun x hx => by rwa [hfifo, hcomposition] at hx

theorem retTlInc_eq (inc : Nat) (s : PrimaryDisplay) : ∃ n, s.retTlInc inc = { s with retTl := n } := by
  unfold retTlInc
  split
  · exact ⟨s.retTl, rfl⟩
  · exact ⟨s.retTl + inc, rfl⟩

theorem dropFrame_eq (frame : QueuedFrame) (s : PrimaryDisplay) : ∃ n, s.dropFrame frame = { s with retTl := n } := by
  unfold dropFrame
  split
  · exact retTlInc_eq 1 s
  · exact ⟨s.retTl, rfl⟩

/-! ### `hwc_recycle_now` -/

theorem Conserved.recycleTake (h : s.Conserved) {r : Recycler} {n : Nat} (hidle : s.recycle r = .idle) : Conserved { s with
    pushed := s.pushed.drop n
    recycle := Function.update s.recycle r (.took ((s.pushed.take n).map (·.surface))) } := by
  refine h.move rfl rfl (List.perm_iff_count.mpr fun x => ?_) fun _ => id
  have hsplit : (s.pushed.map (·.surface)).count x =
      ((s.pushed.take n).map (·.surface)).count x + ((s.pushed.drop n).map (·.surface)).count x := by
    rw [← List.count_append, ← List.map_append, List.take_append_drop]
  cases r <;> simp only [places, notRecycled, hidle, Recycle.surfaces, Function.update_apply, reduceCtorEq, if_true,
    if_false, List.count_append, List.count_nil] <;> omega

theorem Conserved.recycleWrite (h : s.Conserved) {r : Recycler} {surfaces : List Nat} (htook : s.recycle r = .took surfaces) :
    Conserved { s with
      displayFifo := s.displayFifo ++ surfaces.filter fun surface => s.validSurfaceNow surface
      recycle := Function.update s.recycle r (.wrote surfaces.length) } := by
  have hvalid : ∀ x, s.validSurfaceNow x = true ↔ x ∈ s.current := by
    intro x
    simp [validSurfaceNow, PrimaryDisplay.current]
  have hcount : ∀ x ∈ s.current, (surfaces.filter fun surface => s.validSurfaceNow surface).count x = surfaces.count x :=
    fun x hx => List.count_filter ((hvalid x).mpr hx)
  refine ⟨h.buffers, fun x hx => ?_, fun x hx => ?_, fun x hx => h.used x ?_⟩
  · have hbefore := h.once x hx
    have hkept := hcount x hx
    cases r <;> simp [places, notRecycled, htook, Recycle.surfaces, List.count_append] at hbefore ⊢ <;> omega
  · simp only [List.mem_append, List.mem_filter] at hx
    obtain (hfifo | hback) | hhand := hx
    · exact h.current x (List.mem_append_left _ hfifo)
    · exact (hvalid x).mp hback.2
    · exact h.current x (List.mem_append_right _ hhand)
  · revert hx
    cases r <;> simp only [places, notRecycled, htook, Recycle.surfaces, Function.update_self, List.mem_append,
      List.mem_filter, List.append_nil] <;> grind

/-! ### A frame -/

theorem Conserved.readFifo (h : s.Conserved) (hhand : s.composition.surface = []) {empty : Composition}
    (hempty : empty.surface = []) : (s.readFifo frame empty).Conserved := by
  unfold PrimaryDisplay.readFifo
  split
  · exact h.congr rfl rfl rfl rfl rfl (by rw [hhand, hempty])
  · next surface rest hfifo =>
    refine h.move rfl rfl (List.perm_iff_count.mpr fun x => ?_) fun x hx => ?_
    · have htaken : (Composition.composing frame surface).surface = [surface] := rfl
      simp only [places, notRecycled, hfifo, hhand, htaken, List.count_append, List.count_cons, List.count_nil]
      omega
    · rw [hfifo, hhand, List.append_nil]
      exact List.mem_cons.mpr ((List.mem_append.mp hx).symm.imp_left List.mem_singleton.mp)

theorem Conserved.put (h : s.Conserved) (hhand : s.composition = .composing frame surface) :
    Conserved { s.putDispSurface surface with composition := .idle } := by
  refine h.move rfl rfl (List.perm_iff_count.mpr fun x => ?_) fun x hx => ?_
  · simp only [places, notRecycled, putDispSurface, hhand, Composition.surface, List.count_append, List.count_nil]
    omega
  · rw [hhand]
    simpa [Composition.surface, putDispSurface] using hx

theorem Conserved.push (h : s.Conserved) (hhand : s.composition = .composing frame surface) :
    Conserved { s with pushed := s.pushed ++ [{ surface, compIx := frame.compIx }], composition := .idle } := by
  refine h.move rfl rfl (List.perm_iff_count.mpr fun x => ?_) fun x hx => ?_
  · simp only [places, notRecycled, hhand, Composition.surface, List.map_append, List.map_cons, List.map_nil,
      List.count_append, List.count_nil]
    omega
  · exact List.mem_append_left _ (by simpa [Composition.surface] using hx)

theorem Conserved.setupFramebufferMode (h : s.Conserved) (hhand : s.composition.surface = []) {created : Nat}
    (hcreated : hwcNumDispBuffers ≤ created) : (s.setupFramebufferMode true created).Conserved := by
  simp only [PrimaryDisplay.setupFramebufferMode, Bool.not_true, Bool.false_eq_true, if_false, Nat.not_lt.mpr hcreated]
  have hold : ∀ x ∈ s.notRecycled, x < s.nextSurface := fun x hx => h.used x (List.mem_append_right _ hx)
  have hcurrent : ∀ x, x ∈ (((List.range' s.nextSurface hwcNumDispBuffers).map some).filterMap id) ↔
      x ∈ List.range' s.nextSurface hwcNumDispBuffers := by
    simp
  refine ⟨by rw [List.length_map, List.length_range'], fun x hx => ?_, fun x hx => ?_, fun x hx => ?_⟩
  · have hfresh := (hcurrent x).mp hx
    obtain ⟨hle, hlt⟩ := List.mem_range'_1.mp hfresh
    have hnone : s.notRecycled.count x = 0 := List.count_eq_zero.mpr fun hmem => Nat.not_lt.mpr hle (hold x hmem)
    have honce : (List.range' s.nextSurface hwcNumDispBuffers).count x = 1 :=
      List.count_eq_one_of_mem List.nodup_range' hfresh
    rw [places, List.count_append, List.count_append, honce, hhand]
    exact congrArg (1 + 0 + ·) hnone
  · rw [hhand, List.append_nil] at hx
    exact (hcurrent x).mpr hx
  · rw [places, hhand, List.append_nil] at hx
    rcases List.mem_append.mp hx with hfresh | hmem
    · exact (List.mem_range'_1.mp hfresh).2
    · exact Nat.lt_of_lt_of_le (hold x hmem) (Nat.le_add_right _ _)

/-- A frame that comes to its push is pushed, and a change of the framebuffer mode creates all surfaces. -/
def surfaceKept (s : PrimaryDisplay) : PrimaryAction → Bool
  | .finish o checkpoint push => !s.pushes o || (!o.checks || checkpoint) && push
  | .start (some (settings, created)) => settings && hwcNumDispBuffers ≤ created
  | _ => true

theorem Conserved.finish (h : s.Conserved) {o : LayersOutcome} {checkpoint push : Bool}
    (hok : s.surfaceKept (.finish o checkpoint push) = true) (hstep : s.finish o checkpoint push = some s') :
    s'.Conserved := by
  unfold PrimaryDisplay.finish at hstep
  split at hstep
  · next frame surface hhand =>
    cases hstep
    obtain ⟨background, ⟨-, heq⟩ | ⟨hpushes, hchecks, htimeout, -⟩ | ⟨hpushes, -, heq⟩⟩ :=
      finishFrame_eq frame surface o checkpoint push s
    · obtain ⟨n, hdrop⟩ := dropFrame_eq frame (s.putDispSurface surface)
      rw [heq, hdrop]
      exact (h.put hhand).congr rfl rfl rfl rfl rfl rfl
    · simp [surfaceKept, hpushes, hchecks, htimeout] at hok
    · have hpush : push = true := by
        simp only [surfaceKept, hpushes, Bool.not_true, Bool.false_or, Bool.and_eq_true] at hok
        exact hok.2
      rw [heq, hpush]
      exact (h.push hhand).congr rfl rfl rfl rfl rfl rfl
  · cases hstep

/-! ### Steps -/

theorem setupFramebufferMode_eq (settings : Bool) (created : Nat) (s : PrimaryDisplay) : ∃ buffers fifo next,
    s.setupFramebufferMode settings created =
      { s with displayBuffers := buffers, displayFifo := fifo, nextSurface := next } := by
  unfold setupFramebufferMode
  dsimp only
  split
  · exact ⟨s.displayBuffers, s.displayFifo, s.nextSurface, rfl⟩
  · split
    · exact ⟨_, s.displayFifo, _, rfl⟩
    · exact ⟨_, _, _, rfl⟩

theorem Conserved.start (h : s.Conserved) {modeToggle : Option (Bool × Nat)}
    (hok : s.surfaceKept (.start modeToggle) = true) (hstep : s.start modeToggle = some s') : s'.Conserved := by
  unfold PrimaryDisplay.start at hstep
  split at hstep
  · next frame hstarted =>
    cases hstep
    have hhand : s.composition.surface = [] := by rw [hstarted]; rfl
    rcases modeToggle with - | ⟨settings, created⟩
    · exact h.congr rfl rfl rfl rfl rfl hhand.symm
    · simp only [surfaceKept, Bool.and_eq_true, decide_eq_true_eq] at hok
      rw [hok.1]
      have hconserved := h.setupFramebufferMode hhand hok.2
      obtain ⟨buffers, fifo, next, heq⟩ := setupFramebufferMode_eq true created s
      dsimp only
      rw [heq] at hconserved ⊢
      exact hconserved.congr rfl rfl rfl rfl rfl hhand.symm
  · cases hstep

theorem Conserved.lookFifo (h : s.Conserved) (hstep : s.lookFifo = some s') : s'.Conserved := by
  unfold PrimaryDisplay.lookFifo at hstep
  split at hstep
  · next frame n hgetting =>
    cases hstep
    exact h.readFifo (by rw [hgetting]; rfl) rfl
  · next frame n hpeeking =>
    cases hstep
    exact h.readFifo (by rw [hpeeking]; rfl) rfl
  · cases hstep

theorem Conserved.waitRecycle (h : s.Conserved) {timedOut : Bool} (hstep : s.waitRecycle timedOut = some s') :
    s'.Conserved := by
  unfold PrimaryDisplay.waitRecycle at hstep
  split at hstep
  · next frame n hwaiting =>
    have hhand : s.composition.surface = [] := by rw [hwaiting]; rfl
    cases hstep
    split
    · exact h.congr rfl rfl rfl rfl rfl hhand.symm
    · split
      · obtain ⟨n, hdrop⟩ := dropFrame_eq frame s
        rw [hdrop]
        exact h.congr rfl rfl rfl rfl rfl hhand.symm
      · exact h.congr rfl rfl rfl rfl rfl hhand.symm
  · cases hstep

theorem recycled_surface (r : Recycler) (c : Composition) : (c.recycled r).surface = c.surface := by
  cases r <;> cases c <;> rfl

theorem Conserved.recycleInc (h : s.Conserved) {r : Recycler} (hstep : s.recycleInc r = some s') : s'.Conserved := by
  unfold PrimaryDisplay.recycleInc at hstep
  split at hstep
  · next numSurfaces hwrote =>
    cases hstep
    obtain ⟨n, hinc⟩ := retTlInc_eq numSurfaces s
    rw [hinc]
    have hcomposition := recycled_surface r s.composition
    have hplaces : places { s with
        retTl := n
        composition := s.composition.recycled r
        recycle := Function.update s.recycle r .idle } = s.places := by
      rw [places, places, hcomposition]
      cases r <;> simp [notRecycled, hwrote, Recycle.surfaces]
    refine h.move rfl rfl (by rw [hplaces]) fun x hx => ?_
    rwa [hcomposition] at hx
  · cases hstep

theorem Conserved.step (h : s.Conserved) (hok : s.surfaceKept a = true) (hstep : s.step a = some s') : s'.Conserved := by
  cases a with
  | set powered allocated fenceCreated =>
    cases hstep
    unfold setPrimary
    dsimp only
    split
    · exact h.congr rfl rfl rfl rfl rfl rfl
    · exact h.congr rfl rfl rfl rfl rfl rfl
  | dequeue =>
    simp only [PrimaryDisplay.step, dequeue] at hstep
    split at hstep
    · next frame rest hidle hlist =>
      cases hstep
      exact h.congr rfl rfl rfl rfl rfl (by rw [hidle]; rfl)
    · cases hstep
  | start modeToggle => exact h.start hok hstep
  | lookFifo => exact h.lookFifo hstep
  | waitRecycle timedOut => exact h.waitRecycle hstep
  | finish o checkpoint push => exact h.finish hok hstep
  | recycleTake r numSurfaces =>
    simp only [PrimaryDisplay.step, PrimaryDisplay.recycleTake] at hstep
    split at hstep
    · next hidle =>
      split at hstep
      · cases hstep
        exact h.recycleTake hidle
      · cases hstep
    · cases hstep
  | recycleWrite r =>
    simp only [PrimaryDisplay.step, PrimaryDisplay.recycleWrite] at hstep
    split at hstep
    · next surfaces htook =>
      cases hstep
      exact h.recycleWrite htook
    · cases hstep
  | recycleInc r => exact h.recycleInc hstep

/-! ### Runs -/

theorem Conserved.init (fenceRetire : Bool) : (init fenceRetire).Conserved := by
  refine ⟨rfl, ?_, ?_, ?_⟩ <;> decide +revert

/-- Between frames each surface that the display uses is once in the FIFO, or else pushed and not recycled, and the FIFO
    does not hold more than it has room for. -/
structure SurfacesConserved (s : PrimaryDisplay) : Prop where
  place : ∀ x ∈ s.current, s.displayFifo.count x = 1 ∧ s.notRecycled.count x = 0 ∨
    s.displayFifo.count x = 0 ∧ s.notRecycled.count x = 1
  nodup : s.displayFifo.Nodup
  valid : ∀ x ∈ s.displayFifo, x ∈ s.current
  capacity : s.displayFifo.length ≤ hwcNumDispBuffers

theorem Conserved.surfacesConserved (h : s.Conserved) (hidle : s.composition = .idle) : s.SurfacesConserved := by
  have honce : ∀ x ∈ s.current, s.displayFifo.count x + s.notRecycled.count x = 1 := by
    intro x hx
    have honce := h.once x hx
    rw [places, hidle, List.count_append, List.count_append] at honce
    exact honce
  have hvalid : ∀ x ∈ s.displayFifo, x ∈ s.current := fun x hx => h.current x (List.mem_append_left _ hx)
  have hnodup : s.displayFifo.Nodup := by
    refine List.nodup_iff_count_le_one.mpr fun x => ?_
    by_cases hx : x ∈ s.displayFifo
    · exact honce x (hvalid x hx) ▸ Nat.le_add_right _ _
    · rw [List.count_eq_zero.mpr hx]
      exact Nat.zero_le _
  refine ⟨fun x hx => ?_, hnodup, hvalid, ?_⟩
  · exact Nat.add_eq_one_iff.mp (honce x hx) |>.symm
  · calc s.displayFifo.length ≤ s.current.length := (List.subperm_of_subset hnodup hvalid).length_le
      _ ≤ s.displayBuffers.length := List.length_filterMap_le _ _
      _ = hwcNumDispBuffers := h.buffers

/-- In every run in which every frame that comes to its push is pushed, and every change of the framebuffer mode creates
    its surfaces, the surfaces are conserved between frames. -/
theorem surfaces_conserved (fenceRetire : Bool) (s : PrimaryDisplay)
    (h : Reaches PrimaryDisplay.step (fun s a => s.surfaceKept a = true) (init fenceRetire) s)
    (hidle : s.composition = .idle) : s.SurfacesConserved :=
  (h.invariant (P := Conserved) (Conserved.init fenceRetire) fun _ _ _ hs hok hstep => hs.step hok hstep).surfacesConserved
    hidle

/-- A frame up to the end of its layers. -/
def composeFrame (modeToggle : Option (Bool × Nat)) : List PrimaryAction :=
  [.set true true true, .dequeue, .start modeToggle, .lookFifo]

/-- A frame is pushed, its surface is recycled when the framebuffer mode has changed, and the frame that changed it has
    nothing new to show. -/
theorem surfaces_conserved_toggle :
    ∃ s : PrimaryDisplay, (s.displayFifo = [4, 5, 3] ∧ s.composition = .idle) ∧ s.SurfacesConserved := by
  obtain ⟨s, hs, hp⟩ := Reaches.exists_of_run PrimaryDisplay.step surfaceKept (init true)
    (composeFrame none ++ [.finish { layerComposed := 1, qOps := true } true true] ++ composeFrame (some (true, 3)) ++
      [.recycleTake .thread 1, .recycleWrite .thread, .recycleInc .thread, .finish { skipComp := true } true true])
    (fun s => s.displayFifo = [4, 5, 3] ∧ s.composition = .idle) (by decide +kernel)
  have hp := of_decide_eq_true hp
  exact ⟨s, hp, surfaces_conserved true s hs hp.2⟩

/-- The checkpoint of a frame times out, and its surface is neither pushed nor put back. -/
theorem surface_lost_on_timeout : ∃ s, Reaches PrimaryDisplay.step (fun _ _ => True) (init true) s ∧
    s.composition = .idle ∧ ¬ s.SurfacesConserved := by
  obtain ⟨s, hs, hp⟩ := Reaches.exists_of_run PrimaryDisplay.step (fun _ _ => true) (init true)
    (composeFrame none ++ [.finish { layerComposed := 1, qOps := true } false true])
    (fun s => s.composition = .idle ∧ 0 ∈ s.current ∧ s.displayFifo.count 0 = 0 ∧ s.notRecycled.count 0 = 0)
    (by decide +kernel)
  obtain ⟨hidle, hcurrent, hfifo, hclient⟩ := of_decide_eq_true hp
  refine ⟨s, hs.mono fun _ _ _ => trivial, hidle, fun h => ?_⟩
  obtain ⟨honce, -⟩ | ⟨-, honce⟩ := h.place 0 hcurrent
  · rw [hfifo] at honce
    cases honce
  · rw [hclient] at honce
    cases honce

end PrimaryDisplay
end BcmPlatform.Hwc
