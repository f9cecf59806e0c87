import Mathlib.Logic.Function.Iterate
import BcmPlatform.Bomx.Input

/-! Returning input buffers. `ReturnInputBuffers` returns the buffers at the head of the queue, one after the other and
    only complete ones; `ReturnPortBuffers` returns all of them. -/

namespace BcmPlatform.Bomx
namespace InputSide

/-- Whether the playpump is open, and what the port says of itself. -/
def outline (s : InputSide) : Bool × Bool × Bool × List BufferId := (s.hPlaypump, s.port.outline)

/-- The first `k` buffers of the queue went back to the client and were counted as available; nothing else changed. -/
structure Returned (k : Nat) (s s' : InputSide) : Prop where
  queue : s'.port.bufferQueue = s.port.bufferQueue.drop k
  list : s'.port.bufferList = s.port.bufferList
  definition : s'.port.definition = s.port.definition
  returned : s'.returned = s.returned ++ s.port.bufferQueue.take k
  avail : s'.availInputBuffers = (add32 · 1)^[k] s.availInputBuffers
  asserts : ∀ a ∈ s'.asserts, a ∈ s.asserts ∨ a = .availableWithinTotal
  rest : s' = { s with port := s'.port, returned := s'.returned, availInputBuffers := s'.availInputBuffers,
                       asserts := s'.asserts }

namespace Returned
variable {k m : Nat} {s s' s'' : InputSide}

theorem refl (s : InputSide) : Returned 0 s s :=
  ⟨rfl, rfl, rfl, by simp, rfl, fun _ h => .inl h, rfl⟩

theorem buffer (h : Returned k s s') : s'.buffer = s.buffer := by rw [h.rest]

theorem submitted (h : Returned k s s') : s'.submittedDescriptors = s.submittedDescriptors := by rw [h.rest]

theorem descFifo (h : Returned k s s') : s'.descFifo = s.descFifo := by rw [h.rest]

theorem hPlaypump (h : Returned k s s') : s'.hPlaypump = s.hPlaypump := by rw [h.rest]

theorem outline (h : Returned k s s') : s'.outline = s.outline :=
  Prod.ext h.hPlaypump (Port.outline_of h.definition h.list)

theorem trans (h : Returned k s s') (h' : Returned m s' s'') : Returned (k + m) s s'' where
  queue := by rw [h'.queue, h.queue, List.drop_drop]
  list := h'.list.trans h.list
  definition := h'.definition.trans h.definition
  returned := by rw [h'.returned, h.returned, h.queue, List.append_assoc, List.take_add]
  avail := by rw [h'.avail, h.avail, ← Function.iterate_add_apply, Nat.add_comm]
  asserts := by
    intro a ha
    rcases h'.asserts a ha with ha | ha
    · exact h.asserts a ha
    · exact .inr ha
  rest := by
    rw [h'.rest]
    conv_lhs => rw [h.rest]

end Returned

variable {s : InputSide}

theorem alogAssert_asserts {cond : Bool} {a x : InputAssert} (h : x ∈ (s.alogAssert cond a).asserts) :
    x ∈ s.asserts ∨ x = a := by
  unfold alogAssert at h
  split at h
  · exact .inl h
  · simpa using h

theorem returnInputPortBuffer_returned {b : BufferId} {rest : List BufferId} (hq : s.port.bufferQueue = b :: rest) :
    Returned 1 s (s.returnInputPortBuffer b) := by
  simp only [returnInputPortBuffer, inputBufferReturned, returnPortBuffer]
  refine ⟨?_, ?_, ?_, ?_, ?_, ?_, ?_⟩
  · simp only [alogAssert]
    split <;> simp [Port.bufferComplete, hq]
  · simp only [alogAssert]
    split <;> rfl
  · simp only [alogAssert]
    split <;> rfl
  · simp only [alogAssert]
    split <;> simp [hq]
  · simp only [alogAssert]
    split <;> rfl
  · intro a ha
    have h := alogAssert_asserts ha
    exact h
  · simp only [alogAssert]
    split <;> rfl

theorem returnUpTo_returned : ∀ (l : List BufferId) (s : InputSide) (b : BufferId), s.port.bufferQueue = l → b ∈ l →
    Returned (l.idxOf b + 1) s (returnUpTo b l s)
  | [], _, _, _, hb => by simp at hb
  | c :: rest, s, b, hq, hb => by
    have hone := returnInputPortBuffer_returned hq
    by_cases hc : c = b
    · subst hc
      simpa [returnUpTo] using hone
    · have hrest : b ∈ rest := by
        rcases List.mem_cons.mp hb with h | h
        · exact absurd h.symm hc
        · exact h
      have hnext := returnUpTo_returned rest (s.returnInputPortBuffer c) b (by rw [hone.queue, hq]; rfl) hrest
      have hidx : (c :: rest).idxOf b + 1 = 1 + (rest.idxOf b + 1) := by
        rw [List.idxOf_cons_ne _ hc]
        omega
      rw [returnUpTo, if_neg hc, hidx]
      exact hone.trans hnext

theorem findReturnBuffer_complete {buffer : BufferId → InputBuffer} {ticks : Ticks} {mode : ReturnMode} :
    ∀ (l : List BufferId) (ret : Option BufferId) (count : Nat) (b : BufferId),
      findReturnBuffer buffer ticks mode l ret count = some b →
      ret = some b ∨ (b ∈ l ∧ ∀ c ∈ l.take (l.idxOf b + 1), (buffer c).complete = true) := by
  intro l
  induction l with
  | nil => exact fun ret count b h => .inl h
  | cons c rest ih =>
    intro ret count b h
    simp only [findReturnBuffer] at h
    by_cases hc : (buffer c).complete = true
    · -- the rest of the scan finds the buffer in the rest of the queue, behind `c`
      have hrest : ∀ ret' count', findReturnBuffer buffer ticks mode rest ret' count' = some b → ret' = some b ∨
          (b ∈ c :: rest ∧ ∀ x ∈ (c :: rest).take ((c :: rest).idxOf b + 1), (buffer x).complete = true) := by
        intro ret' count' h'
        rcases ih ret' count' b h' with h' | ⟨hmem, hall⟩
        · exact .inl h'
        · refine .inr ⟨List.mem_cons_of_mem _ hmem, ?_⟩
          intro x hx
          rw [List.take_succ_cons] at hx
          rcases List.mem_cons.mp hx with rfl | hx
          · exact hc
          · refine hall x (List.take_subset_take_left _ ?_ hx)
            by_cases hcb : c = b
            · simp [hcb]
            · rw [List.idxOf_cons_ne _ hcb]
      have hself : c = b →
          b ∈ c :: rest ∧ ∀ x ∈ (c :: rest).take ((c :: rest).idxOf b + 1), (buffer x).complete = true := by
        rintro rfl
        simpa using hc
      simp only [hc, Bool.not_true, Bool.false_eq_true, if_false] at h
      split at h
      · split at h
        · exact .inl h
        · rcases hrest _ _ h with h | h
          · exact .inr (hself (by simpa using h))
          · exact .inr h
      · split at h
        · exact .inr (hself (by simpa using h))
        · exact hrest _ _ h
    · simp only [hc, Bool.not_false, if_true] at h
      exact .inl h

theorem returnInputBuffers_returned (ticks : Ticks) (mode : ReturnMode) (s : InputSide) :
    ∃ k, Returned k s (s.returnInputBuffers ticks mode) ∧
      ∀ b ∈ s.port.bufferQueue.take k, (s.buffer b).complete = true := by
  simp only [returnInputBuffers]
  split
  · exact ⟨0, .refl s, by simp⟩
  · next b hb =>
    rcases findReturnBuffer_complete _ _ _ _ hb with h | ⟨hmem, hall⟩
    · cases h
    · exact ⟨_, returnUpTo_returned _ s b rfl hmem, hall⟩

theorem returnInputBuffers_outline (ticks : Ticks) (mode : ReturnMode) :
    (s.returnInputBuffers ticks mode).outline = s.outline := by
  obtain ⟨k, hr, -⟩ := returnInputBuffers_returned ticks mode s
  exact hr.outline

theorem returnInputBuffers_keeps {P : InputSide → Prop} (ticks : Ticks) (mode : ReturnMode)
    (hone : ∀ {s : InputSide} {b : BufferId} {rest : List BufferId}, s.port.bufferQueue = b :: rest → P s →
      P (s.returnInputPortBuffer b)) (hs : P s) : P (s.returnInputBuffers ticks mode) := by
  have hloop : ∀ (b : BufferId) (l : List BufferId) (s : InputSide), s.port.bufferQueue = l → P s →
      P (returnUpTo b l s) := by
    intro b l
    induction l with
    | nil => exact fun s _ hs => hs
    | cons c rest ih =>
      intro s hq hs
      have hnext := hone hq hs
      simp only [returnUpTo]
      split
      · exact hnext
      · refine ih _ ?_ hnext
        rw [(returnInputPortBuffer_returned hq).queue, hq]
        rfl
  simp only [returnInputBuffers]
  split
  · exact hs
  · exact hloop _ _ s rfl hs

/-- All queued buffers went back to the client, uncounted; nothing else changed. -/
structure Emptied (s s' : InputSide) : Prop where
  queue : s'.port.bufferQueue = []
  list : s'.port.bufferList = s.port.bufferList
  definition : s'.port.definition = s.port.definition
  returned : s'.returned = s.returned ++ s.port.bufferQueue
  rest : s' = { s with port := s'.port, returned := s'.returned }

theorem foldl_returnPortBuffer_emptied : ∀ (l : List BufferId) (s : InputSide), s.port.bufferQueue = l →
    Emptied s (l.foldl returnPortBuffer s)
  | [], s, hq => ⟨hq, rfl, rfl, by simp [hq], rfl⟩
  | b :: rest, s, hq => by
    have hnext : (s.returnPortBuffer b).port.bufferQueue = rest := by simp [returnPortBuffer, Port.bufferComplete, hq]
    have h := foldl_returnPortBuffer_emptied rest (s.returnPortBuffer b) hnext
    refine ⟨h.queue, h.list, h.definition, ?_, ?_⟩
    · rw [List.foldl_cons, h.returned, hnext, hq]
      simp [returnPortBuffer]
    · rw [List.foldl_cons, h.rest]
      rfl

theorem returnPortBuffers_emptied (s : InputSide) : Emptied s s.returnPortBuffers :=
  foldl_returnPortBuffer_emptied _ s rfl

theorem returnPortBuffers_outline : s.returnPortBuffers.outline = s.outline := by
  have h := returnPortBuffers_emptied s
  refine Prod.ext ?_ (Port.outline_of h.definition h.list)
  rw [h.rest]
  rfl

theorem stop_hPlaypump : s.stop.hPlaypump = s.hPlaypump := by
  simp only [stop]
  rw [(returnPortBuffers_emptied _).rest]
  rfl

end InputSide
end BcmPlatform.Bomx
