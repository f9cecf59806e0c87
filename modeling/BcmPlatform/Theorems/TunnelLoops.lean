import BcmPlatform.Theorems.AvSyncWrite
import Mathlib.Order.Monotone.Basic

/-! A `break` leaves the inner loop of a write only, and the outer loop searches again for what could not be written. What
    the inner loop waits for is as large as the frame says, and not as large as the FIFO. -/

namespace BcmPlatform.Audio
open Lib

variable {m : TunnelFormat} {fifo : Nat} {c c' : WriteCall} {a : PumpAnswer} {f : FrameLoop}

/-- Nothing is left to write, or a header without all of its bytes. -/
def WriteCall.AtEnd (c : WriteCall) : Prop :=
  c.buffer = [] ∨ memmem avSyncMarker c.buffer = some 0 ∧ c.buffer.length < hwAvSyncHdrLen

instance (c : WriteCall) : Decidable c.AtEnd := inferInstanceAs (Decidable (_ ∨ _))

/-- The playpump fails only where nothing is left to write, and what the inner loop wants to have fits in the FIFO. -/
def WriteCall.Supplied (m : TunnelFormat) (fifo : Nat) (c : WriteCall) (a : PumpAnswer) : Prop :=
  ∀ f, c.frame = some f → if a.error (c.spaceRequired m f) = 0 then c.spaceRequired m f ≤ fifo else c.AtEnd

/-- An error ends the call, and the inner loop does not wait for space that the FIFO does not have. -/
structure IterationEnds (m : TunnelFormat) (fifo : Nat) (c : WriteCall) (a : PumpAnswer) : Prop where
  failed : ∀ f, c.frame = some f → a.error (c.spaceRequired m f) ≠ 0 → ∀ b, (c.pump m a f).1.iterate m b = none
  waits : ∀ f, c.frame = some f → (c.pump m a f).1.frame ≠ none → c.spaceRequired m f ≤ fifo

/-- The space is in the FIFO, and the playpump supplies what is asked for. -/
def StepOk (m : TunnelFormat) (fifo : Nat) (c : WriteCall) (a : PumpAnswer) : Prop := a.space ≤ fifo ∧ c.Supplied m fifo a

theorem WriteCall.search_eq_none : c.search = none ↔ c.AtEnd := by
  by_cases hbuffer : c.buffer = []
  · exact ⟨fun _ => .inl hbuffer, fun _ => if_pos hbuffer⟩
  rcases hm : memmem avSyncMarker c.buffer with - | (- | k)
  · rw [search_rest hm hbuffer, AtEnd, hm]
    simp [hbuffer]
  · rw [search_header hm hbuffer, AtEnd, hm]
    simp [hbuffer]
  · rw [search_next hm hbuffer, AtEnd, hm]
    simp [hbuffer]

theorem WriteCall.iterate_of_none (hframe : c.frame = none) : c.iterate m a = c.search := by
  rw [iterate, hframe]
  rfl

theorem WriteCall.iterate_of_some (hframe : c.frame = some f) : c.iterate m a = some (c.pump m a f).1 := by
  rw [iterate, inner, hframe]
  rfl

theorem WriteCall.failed_iff (herror : a.error (c.spaceRequired m f) ≠ 0) :
    (∀ b, (c.pump m a f).1.iterate m b = none) ↔ c.AtEnd := by
  have hend : c.AtEnd ↔ (c.pump m a f).1.search = none := by
    rw [pump_failed herror, search_eq_none]
    rfl
  have hframe : (c.pump m a f).1.frame = none := by rw [pump_failed herror]
  rw [hend]
  exact ⟨fun h => (iterate_of_none hframe).symm.trans (h a), fun h b => (iterate_of_none hframe).trans h⟩

theorem iterationEnds_iff (hspace : a.space ≤ fifo) : IterationEnds m fifo c a ↔ c.Supplied m fifo a := by
  constructor
  · rintro ⟨hends, hwaits⟩ f hframe
    split
    · next herror =>
      rcases WriteCall.pump_succeeded herror with ⟨-, hpump⟩ | ⟨hroom, -⟩
      · refine hwaits f hframe ?_
        rw [hpump, hframe]
        exact Option.some_ne_none f
      · exact Nat.le_trans hroom hspace
    · next herror => exact (WriteCall.failed_iff herror).mp (hends f hframe herror)
  · intro hsupplied
    refine ⟨fun f hframe herror => ?_, fun f hframe hstays => ?_⟩
    · have hend := hsupplied f hframe
      rw [if_neg herror] at hend
      exact (WriteCall.failed_iff herror).mpr hend
    · have hfits := hsupplied f hframe
      split at hfits
      · exact hfits
      · next herror =>
        rw [WriteCall.pump_failed herror] at hstays
        exact absurd rfl hstays

/-! ### A round of the outer loop -/

/-- What the inner loop wants to deliver is there. -/
def WriteCall.Ready (c : WriteCall) : Prop :=
  ∀ f, c.frame = some f → f.writeHeader = true ∨ 0 < f.frameBytes ∧ f.frameBytes ≤ c.buffer.length

theorem WriteCall.search_ready (hsearch : c.search = some c') : c'.Ready := by
  by_cases hbuffer : c.buffer = []
  · rw [search, if_pos hbuffer] at hsearch
    cases hsearch
  rintro f hf
  rcases hm : memmem avSyncMarker c.buffer with - | (- | k)
  · rw [search_rest hm hbuffer] at hsearch
    cases hsearch
    cases hf
    exact .inr ⟨List.length_pos_iff.mpr hbuffer, Nat.le_refl _⟩
  · rw [search_header hm hbuffer] at hsearch
    split at hsearch <;> cases hsearch
    dsimp only at hf
    split at hf <;> cases hf
    exact .inl rfl
  · rw [search_next hm hbuffer] at hsearch
    cases hsearch
    cases hf
    exact .inr ⟨Nat.succ_pos k, Nat.le_of_lt (memmem_lt hm)⟩

theorem WriteCall.search_less (hframe : c.frame = none) (hsearch : c.search = some c') :
    c'.frame ≠ none ∧ c'.open = c.open ∨ c'.frame = none ∧ c'.open < c.open := by
  by_cases hframe' : c'.frame = none
  · refine .inr ⟨hframe', ?_⟩
    by_cases hbuffer : c.buffer = []
    · rw [search, if_pos hbuffer] at hsearch
      cases hsearch
    have hpos : 0 < c.buffer.length := List.length_pos_iff.mpr hbuffer
    rcases hm : memmem avSyncMarker c.buffer with - | (- | k)
    · rw [search_rest hm hbuffer] at hsearch
      cases hsearch
      cases hframe'
    · rw [search_header hm hbuffer] at hsearch
      split at hsearch <;> cases hsearch
      rw [WriteCall.open, WriteCall.open, hframe, hframe', List.length_drop]
      exact Nat.sub_lt hpos (Nat.succ_pos _)
    · rw [search_next hm hbuffer] at hsearch
      cases hsearch
      cases hframe'
  · exact .inl ⟨hframe', (search_open hframe hsearch hframe').1⟩

theorem StepOk.pump (h : StepOk m fifo c a) (hready : c.Ready) (hframe : c.frame = some f) :
    (c.pump m a f).1 = { c with ret := 0 } ∧ a.space < fifo ∨
    (c.pump m a f).1.frame = none ∧ ((c.pump m a f).1.search = none ∨ (c.pump m a f).1.open < c.open) := by
  have hsupplied := h.2 f hframe
  by_cases herror : a.error (c.spaceRequired m f) = 0
  · rw [if_pos herror] at hsupplied
    rcases WriteCall.pump_succeeded herror with ⟨hless, hpump⟩ | ⟨-, hpump⟩
    · exact .inl ⟨by rw [hpump], Nat.lt_of_lt_of_le hless hsupplied⟩
    · obtain ⟨k, hk, -, hopen, hleft⟩ := WriteCall.pump_open hframe (hready f hframe) (congrArg Prod.fst hpump)
      exact .inr ⟨hleft, .inr (by omega)⟩
  · have hleft : (c.pump m a f).1.frame = none := by rw [WriteCall.pump_failed herror]
    have hends := (iterationEnds_iff h.1).mpr h.2
    have hdone := hends.failed f hframe herror a
    rw [WriteCall.iterate_of_none hleft] at hdone
    exact .inr ⟨hleft, .inl hdone⟩

theorem Ready.step (h : c.Ready) (hok : StepOk m fifo c a) (hstep : c.iterate m a = some c') : c'.Ready := by
  cases hframe : c.frame with
  | none =>
    rw [WriteCall.iterate_of_none hframe] at hstep
    exact WriteCall.search_ready hstep
  | some f =>
    rw [WriteCall.iterate_of_some hframe] at hstep
    obtain rfl := Option.some.inj hstep
    intro g hg
    rcases hok.pump h hframe with ⟨hstays, -⟩ | ⟨hleft, -⟩
    · rw [hstays] at hg ⊢
      exact h g hg
    · rw [hleft] at hg
      cases hg

theorem ready_of_run {buffer : List UInt8} (h : Reaches (WriteCall.iterate m) (StepOk m fifo) { buffer } c) : c.Ready :=
  h.invariant (P := WriteCall.Ready) (fun f hf => by cases hf) fun _ _ _ hready hok hstep => Ready.step hready hok hstep

theorem round_less {c₁ c₂ : WriteCall} (hframe : c.frame = none) (hsearch : c.search = some c₁)
    (h : Reaches (WriteCall.inner m) (StepOk m fifo) c₁ c₂) (hleft : c₂.frame = none) :
    c₂.search = none ∨ c₂.buffer.length < c.buffer.length := by
  have hbuffer {c : WriteCall} (hframe : c.frame = none) : c.open = c.buffer.length := by
    rw [WriteCall.open, hframe]
    rfl
  have hround : c₂.Ready ∧ (c₂.frame ≠ none ∧ c₂.open = c.open ∨
      c₂.frame = none ∧ (c₂.search = none ∨ c₂.open < c.open)) := by
    refine h.invariant (P := fun c₂ => c₂.Ready ∧ (c₂.frame ≠ none ∧ c₂.open = c.open ∨
      c₂.frame = none ∧ (c₂.search = none ∨ c₂.open < c.open))) ?_ ?_
    · refine ⟨WriteCall.search_ready hsearch, ?_⟩
      rcases WriteCall.search_less hframe hsearch with hstays | hleaves
      · exact .inl hstays
      · exact .inr ⟨hleaves.1, .inr hleaves.2⟩
    · rintro c₂ a c₃ ⟨hready, hplace⟩ hok hstep
      obtain ⟨f, hf, rfl⟩ := Option.map_eq_some_iff.mp hstep
      have hin : c₂.frame ≠ none := by
        rw [hf]
        exact Option.some_ne_none f
      obtain ⟨-, hopen⟩ := hplace.resolve_right fun hout => hin hout.1
      refine ⟨Ready.step hready hok (WriteCall.iterate_of_some hf), ?_⟩
      rw [← hopen]
      rcases hok.pump hready hf with ⟨hstays, -⟩ | hleft
      · rw [hstays]
        refine .inl ⟨?_, rfl⟩
        rw [hf]
        exact Option.some_ne_none f
      · exact .inr hleft
  have hless := (hround.2.resolve_left fun h => h.1 hleft).2
  rwa [hbuffer hframe, hbuffer hleft] at hless

/-! ### Runs that do not end -/

/-- While a write is in the inner loop, the FIFO is drained at last. -/
def Drains (fifo : Nat) {ok : WriteCall → PumpAnswer → Prop} (run : EndlessRun (WriteCall.iterate m) ok) : Prop :=
  ∀ i, (run.state i).frame ≠ none → ∃ j, i ≤ j ∧ ((run.state j).frame = none ∨ (run.action j).space = fifo)

/-- What is left to do: the open bytes, twice, and the search. -/
def WriteCall.left (c : WriteCall) : Nat := 2 * c.open + if c.frame = none then 1 else 0

theorem StepOk.left (h : StepOk m fifo c a) (hready : c.Ready) (hstep : c.iterate m a = some c')
    (hgoes : ∃ b, c'.iterate m b ≠ none) :
    c'.left < c.left ∨ c'.left = c.left ∧ c.frame ≠ none ∧ c'.frame ≠ none ∧ a.space < fifo := by
  cases hframe : c.frame with
  | none =>
    rw [WriteCall.iterate_of_none hframe] at hstep
    refine .inl ?_
    rcases WriteCall.search_less hframe hstep with ⟨hframe', hopen⟩ | ⟨hframe', hopen⟩
    · rw [WriteCall.left, WriteCall.left, if_neg hframe', if_pos hframe, hopen]
      exact Nat.lt_succ_self _
    · rw [WriteCall.left, WriteCall.left, if_pos hframe', if_pos hframe]
      omega
  | some f =>
    have hnot : c.frame ≠ none := by
      rw [hframe]
      exact Option.some_ne_none f
    rw [WriteCall.iterate_of_some hframe] at hstep
    obtain rfl := Option.some.inj hstep
    rcases h.pump hready hframe with ⟨hstays, hspace⟩ | ⟨hleft, hdone | hless⟩
    · rw [hstays]
      exact .inr ⟨rfl, Option.some_ne_none f, hnot, hspace⟩
    · obtain ⟨b, hb⟩ := hgoes
      rw [WriteCall.iterate_of_none hleft] at hb
      exact absurd hdone hb
    · refine .inl ?_
      rw [WriteCall.left, WriteCall.left, if_pos hleft, if_neg hnot]
      omega

theorem not_drains {buffer : List UInt8} (run : EndlessRun (WriteCall.iterate m) (StepOk m fifo))
    (hstart : run.state 0 = { buffer }) : ¬ Drains fifo run := by
  intro hdrains
  have hready (i : Nat) : (run.state i).Ready := by
    have hreaches : Reaches (WriteCall.iterate m) (StepOk m fifo) { buffer } (run.state i) :=
      run.reaches (by rw [hstart]; exact .init) i
    exact ready_of_run hreaches
  have hstep (i : Nat) := (run.ok i).left (hready i) (run.step i)
    ⟨run.action (i + 1), by rw [run.step (i + 1)]; exact Option.some_ne_none _⟩
  have hanti : Antitone fun i => (run.state i).left :=
    antitone_nat_of_succ_le fun i => (hstep i).elim Nat.le_of_lt fun h => Nat.le_of_eq h.1
  refine run.absurd_of_measure WriteCall.left fun i => ?_
  by_contra hnone
  -- Nothing gets less: the inner loop is never left, and the space is never that of the whole FIFO.
  have hwaits (j : Nat) (hj : i ≤ j) := (hstep j).resolve_left fun hless =>
    hnone ⟨j + 1, Nat.lt_succ_of_le hj, Nat.lt_of_lt_of_le hless (hanti hj)⟩
  obtain ⟨j, hj, hleft | hspace⟩ := hdrains i (hwaits i (Nat.le_refl i)).2.1
  · exact (hwaits j hj).2.1 hleft
  · exact Nat.ne_of_lt (hwaits j hj).2.2.2 hspace

/-- The steps of a run, as a check. -/
private def stepOk (m : TunnelFormat) (fifo : Nat) (c : WriteCall) (a : PumpAnswer) : Bool :=
  a.space ≤ fifo && c.frame.all fun f =>
    if a.error (c.spaceRequired m f) = 0 then c.spaceRequired m f ≤ fifo else c.AtEnd

private theorem stepOk_of_check (h : stepOk m fifo c a = true) : StepOk m fifo c a := by
  obtain ⟨hspace, hframe⟩ := Bool.and_eq_true_iff.mp h
  refine ⟨of_decide_eq_true hspace, fun f hf => ?_⟩
  rw [hf, Option.all_some] at hframe
  split at hframe
  · next herror => exact (if_pos herror).mpr (of_decide_eq_true hframe)
  · next herror => exact (if_neg herror).mpr (of_decide_eq_true hframe)

/-- A header that says that its frame has 2^32 - 1 bytes. -/
def hugeHeader : List UInt8 := avSyncMarker ++ [0xFF, 0xFF, 0xFF, 0xFF, 0, 0, 0, 0, 0, 0, 0, 0]

end BcmPlatform.Audio
