import BcmPlatform.Lib.Timelines
import BcmPlatform.Theorems.Surfaces

/-! The retire timeline counts the frames that are done with, whichever they are. It stays in step with the calls of
    `hwc_set_primary` when every call posts its frame and every frame is pushed or dropped. -/

namespace BcmPlatform.Hwc
open Lib

/-- The surfaces that a recycle has taken from the client and not counted yet. -/
def Recycle.uncounted : Recycle → Nat
  | .idle => 0
  | .took surfaces => surfaces.length
  | .wrote numSurfaces => numSurfaces

/-- The frame at work. -/
def Composition.frame : Composition → List QueuedFrame
  | .idle => []
  | .started frame | .getting frame _ | .recycling frame _ | .peeking frame _ | .waiting frame _
  | .composing frame _ => [frame]

namespace PrimaryDisplay
variable {s s' : PrimaryDisplay} {a : PrimaryAction} {frame : QueuedFrame}

def recycling (s : PrimaryDisplay) : Nat := (s.recycle .thread).uncounted + (s.recycle .composer).uncounted

/-- The frames that the client gave back or that were dropped. -/
def retired (s : PrimaryDisplay) : Nat := s.retTl + s.recycling

/-- The frames that the client holds, the one at work and those on the list, in the order of their calls. -/
def unfinished (s : PrimaryDisplay) : List Nat :=
  s.pushed.map (·.compIx) ++ (s.composition.frame ++ s.composerWorkList).map (·.compIx)

/-- The frames that are not pushed have their retire fence. -/
structure Fenced (s : PrimaryDisplay) : Prop where
  on : s.fenceRetire = true
  frames : ∀ f ∈ s.composition.frame ++ s.composerWorkList, f.retireFenceFd.isSome = true

/-- Every call posts its frame with a retire fence, and no checkpoint times out before a push. -/
def retireCounted (s : PrimaryDisplay) : PrimaryAction → Bool
  | .set powered allocated fenceCreated => powered && allocated && fenceCreated
  | .finish o checkpoint _ => !(s.pushes o && o.checks) || checkpoint
  | _ => true

/-- The frame of this step is given up: for lack of a surface, or at its end. -/
def dropsFrame (s : PrimaryDisplay) : PrimaryAction → Bool
  | .waitRecycle timedOut => timedOut && match s.composition with
    | .waiting _ n => n + 1 = hwcSurfaceWaitAttempt
    | _ => false
  | .finish o _ push => !(s.pushes o && push)
  | _ => false

/-- A frame is given up only when the client holds no earlier one. -/
def dropsInOrder (s : PrimaryDisplay) (a : PrimaryAction) : Bool := !s.dropsFrame a || s.pushed.isEmpty

/-! ### What a step does to the frames -/

/-- What a step of a counted run does: it leaves the frames alone, posts one, gives one up or takes some from the
    client. -/
inductive RetireEffect (s : PrimaryDisplay) (a : PrimaryAction) (s' : PrimaryDisplay) : Prop where
  | still (hretired : s'.retired = s.retired) (hcall : s'.setCall = s.setCall) (hframes : s'.unfinished = s.unfinished)
  | posted (hretired : s'.retired = s.retired) (hcall : s'.setCall = s.setCall + 1)
      (hframes : s'.unfinished = s.unfinished ++ [s.setCall + 1])
  | dropped (n : Nat) (rest : List Nat) (hretired : s'.retired = s.retired + 1) (hcall : s'.setCall = s.setCall)
      (hdrops : s.dropsFrame a = true) (hbefore : s.unfinished = s.pushed.map (·.compIx) ++ n :: rest)
      (hframes : s'.unfinished = s.pushed.map (·.compIx) ++ rest)
  | recycled (k : Nat) (hk : k ≤ s.unfinished.length) (hretired : s'.retired = s.retired + k)
      (hcall : s'.setCall = s.setCall) (hframes : s'.unfinished = s.unfinished.drop k)

theorem dropFrame_fenced (hon : s.fenceRetire = true) (hfence : frame.retireFenceFd.isSome = true) :
    s.dropFrame frame = { s with retTl := s.retTl + 1 } := by
  rw [dropFrame, if_pos hfence, retTlInc, hon]
  rfl

theorem Fenced.setPrimary (h : s.Fenced) :
    (s.setPrimary true true true).Fenced ∧ RetireEffect s (.set true true true) (s.setPrimary true true true) := by
  obtain ⟨hon, hframes⟩ := h
  simp only [PrimaryDisplay.setPrimary, hon, Bool.not_true, Bool.or_self, Bool.false_eq_true, if_false, Bool.and_self, if_true]
  refine ⟨⟨rfl, fun f hf => ?_⟩, .posted rfl rfl ?_⟩
  · rw [← List.append_assoc] at hf
    rcases List.mem_append.mp hf with hf | hf
    · exact hframes f hf
    · rw [List.mem_singleton.mp hf]
      rfl
  · simp [unfinished]

theorem Fenced.still (h : s.Fenced) (hon : s'.fenceRetire = s.fenceRetire)
    (hframes : s'.composition.frame ++ s'.composerWorkList = s.composition.frame ++ s.composerWorkList)
    (hpushed : s'.pushed = s.pushed) (htl : s'.retTl = s.retTl) (hrecycling : s'.recycling = s.recycling)
    (hcall : s'.setCall = s.setCall) : s'.Fenced ∧ RetireEffect s a s' := by
  refine ⟨⟨hon.trans h.on, fun f hf => h.frames f (hframes ▸ hf)⟩, .still ?_ hcall ?_⟩
  · rw [retired, retired, htl, hrecycling]
  · rw [unfinished, unfinished, hframes, hpushed]

theorem Fenced.dropped (h : s.Fenced) (hframe : s.composition.frame = [frame]) (hdrops : s.dropsFrame a = true)
    (hs' : s' = { s.dropFrame frame with
      displayFifo := s'.displayFifo, alphaHoleBackground := s'.alphaHoleBackground, composition := .idle }) :
    s'.Fenced ∧ RetireEffect s a s' := by
  have hfence : frame.retireFenceFd.isSome = true := h.frames frame (by rw [hframe]; exact List.mem_cons_self)
  rw [dropFrame_fenced h.on hfence] at hs'
  rw [hs']
  refine ⟨⟨h.on, fun f hf => h.frames f (List.mem_append_right _ hf)⟩,
    .dropped frame.compIx (s.composerWorkList.map (·.compIx)) ?_ rfl hdrops ?_ rfl⟩
  · exact Nat.add_right_comm ..
  · rw [unfinished, hframe]
    rfl

theorem Fenced.pushed (h : s.Fenced) {surface : Nat} (background : Bool) (hframe : s.composition.frame = [frame]) :
    let s' := { s with
      pushed := s.pushed ++ [{ surface, compIx := frame.compIx }], alphaHoleBackground := background, composition := .idle }
    s'.Fenced ∧ RetireEffect s a s' := by
  refine ⟨⟨h.on, fun f hf => h.frames f (List.mem_append_right _ hf)⟩, .still rfl rfl ?_⟩
  have hidle : Composition.idle.frame = [] := rfl
  simp [unfinished, hframe, hidle]

theorem Fenced.finish (h : s.Fenced) {o : LayersOutcome} {checkpoint push : Bool}
    (hok : s.retireCounted (.finish o checkpoint push) = true) (hstep : s.finish o checkpoint push = some s') :
    s'.Fenced ∧ RetireEffect s (.finish o checkpoint push) s' := by
  unfold PrimaryDisplay.finish at hstep
  split at hstep
  · next frame surface hcomposing =>
    cases hstep
    have hframe : s.composition.frame = [frame] := by rw [hcomposing]; rfl
    have hfence : frame.retireFenceFd.isSome = true := h.frames frame (by rw [hframe]; exact List.mem_cons_self)
    obtain ⟨background, ⟨hpushes, heq⟩ | ⟨hpushes, hchecks, htimeout, -⟩ | ⟨hpushes, -, heq⟩⟩ :=
      finishFrame_eq frame surface o checkpoint push s
    · refine h.dropped hframe (by simp [dropsFrame, hpushes]) ?_
      rw [heq, dropFrame_fenced (s := s.putDispSurface surface) h.on hfence, dropFrame_fenced h.on hfence]
      rfl
    · simp [retireCounted, hpushes, hchecks, htimeout] at hok
    · cases hpush : push with
      | false =>
        refine h.dropped hframe (by simp [dropsFrame]) ?_
        rw [hpush] at heq
        rw [heq, show s.pushSurface false frame surface = s.dropFrame frame from rfl, dropFrame_fenced h.on hfence]
      | true =>
        rw [hpush] at heq
        rw [heq]
        exact h.pushed background hframe
  · cases hstep

theorem Fenced.waitRecycle (h : s.Fenced) {timedOut : Bool} (hstep : s.waitRecycle timedOut = some s') :
    s'.Fenced ∧ RetireEffect s (.waitRecycle timedOut) s' := by
  unfold PrimaryDisplay.waitRecycle at hstep
  split at hstep
  · next frame n hwaiting =>
    have hframe : s.composition.frame = [frame] := by rw [hwaiting]; rfl
    cases hstep
    split
    · exact h.still rfl (by rw [hframe]; rfl) rfl rfl rfl rfl
    · next htimedOut =>
      split
      · next hlast =>
        refine h.dropped hframe ?_ ?_
        · simp only [Bool.not_eq_true', Bool.not_eq_false] at htimedOut
          simp [dropsFrame, hwaiting, hlast, htimedOut]
        · rw [dropFrame_fenced h.on (h.frames frame (by rw [hframe]; exact List.mem_cons_self))]
      · exact h.still rfl (by rw [hframe]; rfl) rfl rfl rfl rfl
  · cases hstep

theorem Fenced.recycleTake (h : s.Fenced) {r : Recycler} {n : Nat} (hstep : s.recycleTake r n = some s') :
    s'.Fenced ∧ RetireEffect s (.recycleTake r n) s' := by
  unfold PrimaryDisplay.recycleTake at hstep
  split at hstep
  · next hidle =>
    split at hstep
    · next hmay =>
      cases hstep
      simp only [Bool.and_eq_true, decide_eq_true_eq] at hmay
      have hn : n ≤ s.pushed.length := hmay.2
      refine ⟨⟨h.on, h.frames⟩, .recycled n ?_ ?_ rfl ?_⟩
      · rw [unfinished, List.length_append, List.length_map]
        exact Nat.le_add_right_of_le hn
      · have htaken : ((s.pushed.take n).map (·.surface)).length = n := by
          rw [List.length_map, List.length_take, Nat.min_eq_left hn]
        cases r <;> simp only [retired, recycling, hidle, Recycle.uncounted, Function.update_apply, reduceCtorEq, if_true,
          if_false, htaken] <;> omega
      · simp [unfinished, List.drop_append, Nat.sub_eq_zero_of_le hn]
    · cases hstep
  · cases hstep

theorem Fenced.recycleInc (h : s.Fenced) {r : Recycler} (hstep : s.recycleInc r = some s') :
    s'.Fenced ∧ RetireEffect s (.recycleInc r) s' := by
  unfold PrimaryDisplay.recycleInc at hstep
  split at hstep
  · next numSurfaces hwrote =>
    cases hstep
    have hframe : (s.composition.recycled r).frame = s.composition.frame := by
      cases r <;> cases s.composition <;> rfl
    rw [retTlInc, h.on]
    refine ⟨⟨rfl, fun f hf => h.frames f (hframe ▸ hf)⟩, .still ?_ rfl ?_⟩
    · cases r <;> simp only [retired, recycling, hwrote, Recycle.uncounted, Function.update_apply, reduceCtorEq, if_true,
        if_false, Bool.not_true, Bool.false_eq_true] <;> omega
    · rw [unfinished, unfinished, ← hframe]
      rfl
  · cases hstep

theorem Fenced.step (h : s.Fenced) (hok : s.retireCounted a = true) (hstep : s.step a = some s') :
    s'.Fenced ∧ RetireEffect s a s' := by
  cases a with
  | set powered allocated fenceCreated =>
    simp only [retireCounted, Bool.and_eq_true] at hok
    obtain ⟨⟨rfl, rfl⟩, rfl⟩ := hok
    cases hstep
    exact h.setPrimary
  | dequeue =>
    simp only [PrimaryDisplay.step, dequeue] at hstep
    split at hstep
    · next frame rest hidle hlist =>
      cases hstep
      exact h.still rfl (by rw [hidle, hlist]; rfl) rfl rfl rfl rfl
    · cases hstep
  | start modeToggle =>
    simp only [PrimaryDisplay.step, start] at hstep
    split at hstep
    · next frame hstarted =>
      have hframe : s.composition.frame = [frame] := by rw [hstarted]; rfl
      cases hstep
      rcases modeToggle with - | ⟨settings, created⟩
      · exact h.still rfl (by rw [hframe]; rfl) rfl rfl rfl rfl
      · obtain ⟨buffers, fifo, next, heq⟩ := setupFramebufferMode_eq settings created s
        dsimp only
        rw [heq]
        exact h.still rfl (by rw [hframe]; rfl) rfl rfl rfl rfl
    · cases hstep
  | lookFifo =>
    have hread : ∀ {frame : QueuedFrame} {empty : Composition}, s.composition.frame = [frame] → empty.frame = [frame] →
        (s.readFifo frame empty).Fenced ∧ RetireEffect s .lookFifo (s.readFifo frame empty) := by
      intro frame empty hframe hempty
      unfold readFifo
      split
      · exact h.still rfl (by rw [hframe, hempty]) rfl rfl rfl rfl
      · exact h.still rfl (by rw [hframe]; rfl) rfl rfl rfl rfl
    simp only [PrimaryDisplay.step, lookFifo] at hstep
    split at hstep
    · next frame n hgetting =>
      cases hstep
      exact hread (by rw [hgetting]; rfl) rfl
    · next frame n hpeeking =>
      cases hstep
      exact hread (by rw [hpeeking]; rfl) rfl
    · cases hstep
  | waitRecycle timedOut => exact h.waitRecycle hstep
  | finish o checkpoint push => exact h.finish hok hstep
  | recycleTake r numSurfaces => exact h.recycleTake hstep
  | recycleWrite r =>
    simp only [PrimaryDisplay.step, recycleWrite] at hstep
    split at hstep
    · next surfaces htook =>
      cases hstep
      refine h.still rfl rfl rfl rfl ?_ rfl
      cases r <;> simp [recycling, htook, Recycle.uncounted]
    · cases hstep
  | recycleInc r => exact h.recycleInc hstep

/-! ### Runs -/

theorem Fenced.init : (init true).Fenced := ⟨rfl, nofun⟩

/-- The frames of all calls: the timeline counts those that are done with, and the others are on their way. -/
structure RetireBalanced (s : PrimaryDisplay) : Prop where
  count : s.retTl + s.recycling + s.composerWorkList.length + s.composition.frame.length + s.pushed.length = s.setCall
  allSignalled : s.composerWorkList = [] → s.composition = .idle → s.pushed = [] → s.recycling = 0 → s.retTl = s.setCall

/-- The retire fence of a frame is signalled only when the frame is done with, and it is signalled then as soon as no
    recycle is in progress. -/
structure RetireExact (s : PrimaryDisplay) : Prop where
  notEarly : ∀ n ≤ s.retTl, n ∉ s.unfinished
  notLate : s.recycling = 0 → ∀ n ≤ s.setCall, n ∉ s.unfinished → n ≤ s.retTl

theorem unfinished_length (s : PrimaryDisplay) :
    s.unfinished.length = s.pushed.length + (s.composition.frame.length + s.composerWorkList.length) := by
  rw [unfinished, List.length_append, List.length_map, List.length_map, List.length_append]

theorem RetireEffect.balance (h : RetireEffect s a s') (hbalance : s.retired + s.unfinished.length = s.setCall) :
    s'.retired + s'.unfinished.length = s'.setCall := by
  cases h with
  | still hretired hcall hframes => rw [hretired, hcall, hframes, hbalance]
  | posted hretired hcall hframes =>
    rw [hretired, hcall, hframes, List.length_append, List.length_singleton, ← Nat.add_assoc, hbalance]
  | dropped n rest hretired hcall _ hbefore hframes =>
    rw [hbefore, List.length_append, List.length_cons] at hbalance
    rw [hretired, hcall, hframes, List.length_append]
    omega
  | recycled k hk hretired hcall hframes =>
    rw [hretired, hcall, hframes, List.length_drop]
    omega

theorem retireBalanced (h : Reaches PrimaryDisplay.step (fun s a => s.retireCounted a = true) (init true) s) :
    s.Fenced ∧ s.RetireBalanced := by
  have hinv : s.Fenced ∧ s.retired + s.unfinished.length = s.setCall := by
    refine h.invariant (P := fun s => s.Fenced ∧ s.retired + s.unfinished.length = s.setCall) ⟨Fenced.init, rfl⟩ ?_
    intro s a s' hs hok hstep
    obtain ⟨hfenced, heffect⟩ := hs.1.step hok hstep
    exact ⟨hfenced, heffect.balance hs.2⟩
  obtain ⟨hfenced, hbalance⟩ := hinv
  rw [unfinished_length, retired] at hbalance
  refine ⟨hfenced, by omega, fun hlist hidle hpushed hrecycling => ?_⟩
  rw [hlist, hidle, hpushed, hrecycling] at hbalance
  exact hbalance

/-- The calls draw tickets, and the frames are done with in the order of their tickets. -/
def InLine (s : PrimaryDisplay) : Prop :=
  ∃ created signalled, TicketLine id s.setCall s.retired created signalled s.unfinished

theorem RetireEffect.inLine (h : RetireEffect s a s') (horder : s.dropsInOrder a = true) (hline : s.InLine) :
    s'.InLine := by
  obtain ⟨created, signalled, hline⟩ := hline
  cases h with
  | still hretired hcall hframes => exact ⟨created, signalled, by rwa [hretired, hcall, hframes]⟩
  | posted hretired hcall hframes =>
    refine ⟨created ++ [s.setCall + 1], signalled, ?_⟩
    rw [hretired, hcall, hframes]
    exact hline.issue rfl
  | dropped n rest hretired hcall hdrops hbefore hframes =>
    rw [dropsInOrder, hdrops, Bool.not_true, Bool.false_or, List.isEmpty_iff] at horder
    rw [horder, List.map_nil, List.nil_append] at hbefore hframes
    refine ⟨created, signalled ++ [n], ?_⟩
    rw [hretired, hcall, hframes]
    exact hline.serve hbefore
  | recycled k hk hretired hcall hframes =>
    refine ⟨created, signalled ++ s.unfinished.take k, ?_⟩
    rw [hretired, hcall, hframes]
    exact hline.serveMany k hk

theorem InLine.retireExact (h : s.InLine) : s.RetireExact := by
  obtain ⟨created, signalled, hline⟩ := h
  have hnumbers : s.unfinished = List.range' (s.retired + 1) s.unfinished.length := by
    simpa using hline.waiting_numbers
  have hcount := hline.count
  have hmem : ∀ n, n ∈ s.unfinished ↔ s.retired < n ∧ n ≤ s.setCall := by
    intro n
    rw [hnumbers, List.mem_range'_1]
    omega
  refine ⟨fun n hn hwaits => ?_, fun hrecycling n hn hdone => ?_⟩
  · exact Nat.not_lt.mpr (Nat.le_trans hn (Nat.le_add_right _ _)) ((hmem n).mp hwaits).1
  · have hretired : s.retired = s.retTl := by rw [retired, hrecycling, Nat.add_zero]
    rw [← hretired]
    exact Nat.not_lt.mp fun hlt => hdone ((hmem n).mpr ⟨hlt, hn⟩)

/-- In every run in which every call posts its frame with a fence and no checkpoint times out, the timeline and the frames
    that are on their way make up the calls. When frames are also given up only while the client holds none, every fence
    is signalled with its own frame. -/
theorem retire_fences_follow (s : PrimaryDisplay)
    (h : Reaches PrimaryDisplay.step (fun s a => s.retireCounted a = true) (init true) s) :
    s.RetireBalanced ∧
      (Reaches PrimaryDisplay.step (fun s a => s.retireCounted a = true ∧ s.dropsInOrder a = true) (init true) s →
        s.RetireExact) := by
  refine ⟨(retireBalanced h).2, fun hordered => InLine.retireExact ?_⟩
  refine (hordered.invariant (P := fun s => s.Fenced ∧ s.InLine) ⟨Fenced.init, [], [], TicketLine.empty⟩ ?_).2
  rintro s a s' ⟨hfenced, hline⟩ ⟨hok, horder⟩ hstep
  obtain ⟨hfenced', heffect⟩ := hfenced.step hok hstep
  exact ⟨hfenced', heffect.inLine horder hline⟩

/-- A frame is pushed, the next one is on the list, and the surface of the first is recycled. -/
theorem retire_fences_follow_recycled : ∃ s : PrimaryDisplay,
    (s.retTl = 1 ∧ s.setCall = 2) ∧ s.RetireBalanced ∧ s.RetireExact := by
  obtain ⟨s, hs, hp⟩ := Reaches.exists_of_run PrimaryDisplay.step (fun s a => s.retireCounted a && s.dropsInOrder a)
    (init true)
    (composeFrame none ++ [.finish { layerComposed := 1, qOps := true } true true, .set true true true,
      .recycleTake .thread 1, .recycleWrite .thread, .recycleInc .thread])
    (fun s => s.retTl = 1 ∧ s.setCall = 2) (by decide +kernel)
  have hboth := hs.mono fun s a hok => Bool.and_eq_true_iff.mp hok
  obtain ⟨hbalanced, hexact⟩ := retire_fences_follow s (hboth.mono fun _ _ hok => hok.1)
  exact ⟨s, of_decide_eq_true hp, hbalanced, hexact hboth⟩

/-- A call that finds the power off is counted, and nothing ever counts it on the timeline. -/
theorem retire_fence_late_after_power_off : ∃ s, Reaches PrimaryDisplay.step (fun _ _ => True) (init true) s ∧
    ¬ (s.RetireBalanced ∧ s.RetireExact) := by
  obtain ⟨s, hs, hp⟩ := Reaches.exists_of_run PrimaryDisplay.step (fun _ _ => true) (init true)
    ([.set false true true] ++ composeFrame none ++ [.finish { layerComposed := 1, qOps := true } true true,
      .recycleTake .thread 1, .recycleWrite .thread, .recycleInc .thread])
    (fun s => s.composerWorkList = [] ∧ s.composition = .idle ∧ s.pushed = [] ∧ s.recycling = 0 ∧ s.retTl ≠ s.setCall)
    (by decide +kernel)
  obtain ⟨hlist, hidle, hpushed, hrecycling, hlate⟩ := of_decide_eq_true hp
  exact ⟨s, hs.mono fun _ _ _ => trivial, fun h => hlate (h.1.allSignalled hlist hidle hpushed hrecycling)⟩

end PrimaryDisplay
end BcmPlatform.Hwc
