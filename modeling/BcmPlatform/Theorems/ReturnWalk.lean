import BcmPlatform.Lib.Prefixes
import BcmPlatform.Bomx.AudioDecoder
import BcmPlatform.Theorems.InputAccounting
import BcmPlatform.Theorems.InputReturn
import BcmPlatform.Bomx.Port

/-! What `ReturnInputBuffers` returns: both loops end, and the buffers they return are a prefix of the complete buffers at
    the head of the queue that depends on the mode only. -/

namespace BcmPlatform.Bomx.InputSide
open Lib

variable {s : InputSide} {decodeTs : Ticks} {mode : ReturnMode}

/-! ### The loops and the lists -/

theorem findReturnBuffer_timeoutCount {buffer : BufferId → InputBuffer} (hmode : mode ≠ .timeout) :
    ∀ (l : List BufferId) (ret : Option BufferId) (m n : Nat),
      findReturnBuffer buffer decodeTs mode l ret m = findReturnBuffer buffer decodeTs mode l ret n
  | [], _, _, _ => rfl
  | b :: rest, ret, m, n => by
    have hcount : ∀ k, ¬ (mode = .timeout ∧ k ≥ 2) := fun k h => hmode h.1
    simp only [findReturnBuffer, if_neg (hcount m), if_neg (hcount n)]
    rw [findReturnBuffer_timeoutCount hmode rest (some b) (m + 1) (n + 1),
      findReturnBuffer_timeoutCount hmode rest ret m n]

theorem selectReturnBuffer_eq : ∀ (l before : List BufferId) (fuel : Nat) (ret : Option BufferId) (count : Nat),
    s.port.bufferQueue = before ++ l → l.length < fuel →
      s.selectReturnBuffer decodeTs mode fuel l.head? ret count =
        some (findReturnBuffer s.buffer decodeTs mode l ret count)
  | l, _, 0, _, _, _, hfuel => absurd hfuel (Nat.not_lt_zero _)
  | [], _, _ + 1, _, _, _, _ => rfl
  | b :: rest, before, fuel + 1, ret, count, hq, hfuel => by
    have hnext : s.port.getNextBuffer b = rest.head? := Port.getNextBuffer_of_queue hq
    have hrest : s.port.bufferQueue = (before ++ [b]) ++ rest := by rw [hq, List.append_assoc, List.singleton_append]
    have ih : ∀ ret count, s.selectReturnBuffer decodeTs mode fuel rest.head? ret count =
        some (findReturnBuffer s.buffer decodeTs mode rest ret count) := fun ret count =>
      selectReturnBuffer_eq rest (before ++ [b]) fuel ret count hrest (Nat.lt_of_succ_lt_succ hfuel)
    simp only [List.head?_cons, selectReturnBuffer, findReturnBuffer, hnext, ih]
    by_cases hmode : mode = .timeout
    · simp only [hmode, true_and, if_true, maxInputTimeoutReturn]
      split
      · rfl
      · split
        · split <;> rfl
        · split <;> rfl
    · rw [findReturnBuffer_timeoutCount hmode rest (some b) (count + 1) count]
      simp only [hmode, false_and, if_false]
      split
      · rfl
      · split
        · rfl
        · split <;> rfl

theorem returnBuffersTo_eq {b : BufferId} : ∀ (l : List BufferId) (fuel : Nat) (s : InputSide),
    s.port.bufferQueue = l → b ∈ l → l.length < fuel → returnBuffersTo b fuel l.head? s = some (returnUpTo b l s)
  | l, 0, _, _, _, hfuel => absurd hfuel (Nat.not_lt_zero _)
  | [], _ + 1, _, _, hb, _ => absurd hb List.not_mem_nil
  | c :: rest, fuel + 1, s, hq, hb, hfuel => by
    simp only [List.head?_cons, returnBuffersTo, returnUpTo]
    split
    · rfl
    · next hc =>
      have hsplit : s.port.bufferQueue = [] ++ c :: rest := hq
      have hnext : s.port.getNextBuffer c = rest.head? := Port.getNextBuffer_of_queue hsplit
      have hrest : (s.returnInputPortBuffer c).port.bufferQueue = rest := by
        rw [(returnInputPortBuffer_returned hq).queue, hq]
        rfl
      have hmem : b ∈ rest := (List.mem_cons.mp hb).resolve_left fun h => hc h.symm
      rw [hnext]
      exact returnBuffersTo_eq rest fuel (s.returnInputPortBuffer c) hrest hmem (Nat.lt_of_succ_lt_succ hfuel)

theorem returnFrom_eq (decodeTs : Ticks) (mode : ReturnMode) (s : InputSide) :
    s.returnFrom decodeTs mode s.port.getBuffer = some (s.returnInputBuffers decodeTs mode) := by
  simp only [returnFrom, returnInputBuffers, Port.getBuffer, Port.queueDepth]
  rw [selectReturnBuffer_eq s.port.bufferQueue [] _ none 0 rfl (Nat.lt_succ_self _)]
  cases hfind : findReturnBuffer s.buffer decodeTs mode s.port.bufferQueue none 0 with
  | none => rfl
  | some b =>
    rcases findReturnBuffer_complete _ _ _ _ hfind with h | ⟨hmem, -⟩
    · cases h
    · exact returnBuffersTo_eq _ _ s rfl hmem (Nat.lt_succ_self _)

/-! ### The intended prefix -/

/-- `P`: the complete buffers at the head of the queue. -/
def completePrefix (s : InputSide) : List BufferId := s.port.bufferQueue.takeWhile fun b => (s.buffer b).complete

/-- What is to be returned: all of them, at most two on a timeout, and by time stamp the head and what follows it up to the
    first buffer with that time stamp. -/
def intendedReturn (decodeTs : Ticks) (mode : ReturnMode) (s : InputSide) : List BufferId :=
  match mode with
  | .all => s.completePrefix
  | .timeout => s.completePrefix.take maxInputTimeoutReturn
  | .timestamp =>
    match s.completePrefix with
    | [] => []
    | b :: rest => b :: upToFirst (fun c => (s.buffer c).header.nTimeStamp = decodeTs) rest

theorem intendedReturn_isPrefix (decodeTs : Ticks) (mode : ReturnMode) (s : InputSide) :
    s.intendedReturn decodeTs mode <+: s.port.bufferQueue := by
  have hcomplete : s.completePrefix <+: s.port.bufferQueue := List.takeWhile_prefix _
  cases mode with
  | all => exact hcomplete
  | timeout => exact (List.take_prefix _ _).trans hcomplete
  | timestamp =>
    simp only [intendedReturn]
    split
    · exact List.nil_prefix
    · next b rest hrest => exact ((List.prefix_cons_inj b).mpr (upToFirst_isPrefix _ rest)).trans (hrest ▸ hcomplete)

/-! ### What the scan finds -/

section Find
variable {buffer : BufferId → InputBuffer}

theorem findReturnBuffer_modeAll : ∀ (l : List BufferId) (ret : Option BufferId) (count : Nat),
    findReturnBuffer buffer decodeTs .all l ret count = (l.takeWhile fun b => (buffer b).complete).getLast?.or ret
  | [], _, _ => rfl
  | b :: rest, ret, count => by
    rw [findReturnBuffer, List.takeWhile_cons]
    cases hb : (buffer b).complete with
    | false => rfl
    | true =>
      simp only [Bool.not_true, Bool.false_eq_true, if_false, if_true]
      rw [getLast?_cons_or]
      exact findReturnBuffer_modeAll rest (some b) (count + 1)

theorem findReturnBuffer_modeTimeout : ∀ (l : List BufferId) (ret : Option BufferId) (count : Nat),
    findReturnBuffer buffer decodeTs .timeout l ret count =
      ((l.takeWhile fun b => (buffer b).complete).take (maxInputTimeoutReturn - count)).getLast?.or ret
  | [], _, _ => by simp [findReturnBuffer]
  | b :: rest, ret, count => by
    rw [findReturnBuffer, List.takeWhile_cons]
    cases hb : (buffer b).complete with
    | false => simp
    | true =>
      simp only [Bool.not_true, Bool.false_eq_true, if_false, if_true, true_and, ne_eq, reduceCtorEq, not_false_eq_true,
        true_or, maxInputTimeoutReturn]
      split
      · next hcount => simp [Nat.sub_eq_zero_of_le hcount]
      · next hcount =>
        have hone : 2 - count = 2 - (count + 1) + 1 := by omega
        rw [hone, List.take_succ_cons, getLast?_cons_or]
        exact findReturnBuffer_modeTimeout rest (some b) (count + 1)

theorem findReturnBuffer_modeTimestamp : ∀ (l : List BufferId) (ret : BufferId) (count : Nat),
    findReturnBuffer buffer decodeTs .timestamp l (some ret) count =
      (upToFirst (fun c => (buffer c).header.nTimeStamp = decodeTs)
        (l.takeWhile fun b => (buffer b).complete)).getLast?.or (some ret)
  | [], _, _ => rfl
  | b :: rest, ret, count => by
    rw [findReturnBuffer, List.takeWhile_cons]
    cases hb : (buffer b).complete with
    | false => rfl
    | true =>
      simp only [Bool.not_true, Bool.false_eq_true, if_false, if_true, ne_eq, not_true_eq_false, reduceCtorEq, or_self]
      split
      · next hts =>
        have hpos := getLast?_upToFirst_of_pos (p := fun c => (buffer c).header.nTimeStamp = decodeTs)
          (l := rest.takeWhile fun b => (buffer b).complete) (decide_eq_true hts)
        rw [hpos, Option.some_or]
      · next hts =>
        have hneg := getLast?_upToFirst_of_neg (p := fun c => (buffer c).header.nTimeStamp = decodeTs)
          (l := rest.takeWhile fun b => (buffer b).complete) (decide_eq_false hts)
        rw [hneg]
        exact findReturnBuffer_modeTimestamp rest ret count

end Find

theorem findReturnBuffer_eq (decodeTs : Ticks) (mode : ReturnMode) (s : InputSide) :
    findReturnBuffer s.buffer decodeTs mode s.port.bufferQueue none 0 = (s.intendedReturn decodeTs mode).getLast? := by
  cases mode with
  | all =>
    rw [findReturnBuffer_modeAll, Option.or_none]
    rfl
  | timeout =>
    rw [findReturnBuffer_modeTimeout, Option.or_none]
    rfl
  | timestamp =>
    simp only [intendedReturn, completePrefix]
    cases s.port.bufferQueue with
    | nil => rfl
    | cons b rest =>
      rw [findReturnBuffer, List.takeWhile_cons]
      cases hb : (s.buffer b).complete with
      | false => rfl
      | true =>
        simp only [Bool.not_true, Bool.false_eq_true, if_false, if_true, or_true, reduceCtorEq, false_and]
        rw [findReturnBuffer_modeTimestamp, ← getLast?_cons_or, Option.or_none]

theorem returnInputBuffers_intended (decodeTs : Ticks) (mode : ReturnMode) (s : InputSide) :
    Returned (s.intendedReturn decodeTs mode).length s (s.returnInputBuffers decodeTs mode) := by
  have hpre := intendedReturn_isPrefix decodeTs mode s
  simp only [returnInputBuffers, findReturnBuffer_eq]
  cases hlast : (s.intendedReturn decodeTs mode).getLast? with
  | none =>
    rw [List.getLast?_eq_none_iff.mp hlast]
    exact .refl s
  | some b =>
    have hmem : b ∈ s.port.bufferQueue := hpre.subset (List.mem_of_getLast? hlast)
    have hidx := idxOf_getLast_of_isPrefix s.port.nodup_queue hpre hlast
    rw [← hidx]
    exact returnUpTo_returned _ s b rfl hmem

/-! ### The result -/

/-- The buffers of `l` went back to the client in this order, and the others are queued as before. -/
structure ReturnsPrefix (l : List BufferId) (s s' : InputSide) : Prop where
  returned : s'.returned = s.returned ++ l
  queue : s.port.bufferQueue = l ++ s'.port.bufferQueue

theorem returnsPrefix_returnInputBuffers (decodeTs : Ticks) (mode : ReturnMode) (s : InputSide) :
    ReturnsPrefix (s.intendedReturn decodeTs mode) s (s.returnInputBuffers decodeTs mode) := by
  have h := returnInputBuffers_intended decodeTs mode s
  have htake := List.prefix_iff_eq_take.mp (intendedReturn_isPrefix decodeTs mode s)
  refine ⟨?_, ?_⟩
  · rw [h.returned, ← htake]
  · rw [h.queue]
    conv_lhs => rw [← List.take_append_drop (s.intendedReturn decodeTs mode).length s.port.bufferQueue, ← htake]

theorem audioPlaypumpEvent_marked (fifoPts : Option Nat) (s : InputSide) : Marked s (s.audioPlaypumpEvent fifoPts) := by
  simp only [audioPlaypumpEvent, completeConsumed]
  split
  · exact markComplete_marked _ _ _ s
  · exact .refl s

/-- In every mode `ReturnInputBuffers` ends, and returns the intended buffers from the head of the queue, once each and in
    order. That of the audio decoder does so by time stamp, and on a timeout with all complete buffers, once
    `PlaypumpEvent` has marked them. -/
theorem returnInputBuffersWalk_returns (s : InputSide) (decodeTs : Ticks) :
    (∀ mode, ∃ s', s.returnInputBuffersWalk decodeTs mode = some s' ∧
      ReturnsPrefix (s.intendedReturn decodeTs mode) s s' ∧ (s.intendedReturn decodeTs mode).Nodup) ∧
    ∀ fifoPts causedByTimeout, ∃ s', s.audioReturnInputBuffersWalk fifoPts decodeTs causedByTimeout = some s' ∧
      ReturnsPrefix ((s.audioPlaypumpEvent fifoPts).intendedReturn decodeTs (if causedByTimeout then .all else .timestamp))
        s s' ∧
      (s.audioPlaypumpEvent fifoPts).returnInputBuffersWalk decodeTs (if causedByTimeout then .all else .timestamp) =
        some s' := by
  constructor
  · intro mode
    refine ⟨_, returnFrom_eq decodeTs mode s, returnsPrefix_returnInputBuffers decodeTs mode s, ?_⟩
    exact (intendedReturn_isPrefix decodeTs mode s).sublist.nodup s.port.nodup_queue
  · intro fifoPts causedByTimeout
    have hmarked := (audioPlaypumpEvent_marked fifoPts s).rest
    have hport : (s.audioPlaypumpEvent fifoPts).port = s.port := by rw [hmarked]
    have hreturned : (s.audioPlaypumpEvent fifoPts).returned = s.returned := by rw [hmarked]
    have hwalk := returnFrom_eq decodeTs (if causedByTimeout then .all else .timestamp) (s.audioPlaypumpEvent fifoPts)
    have h := returnsPrefix_returnInputBuffers decodeTs (if causedByTimeout then .all else .timestamp)
      (s.audioPlaypumpEvent fifoPts)
    refine ⟨_, ?_, ⟨?_, ?_⟩, hwalk⟩
    · rw [audioReturnInputBuffersWalk, ← hport]
      exact hwalk
    · rw [h.returned, hreturned]
    · rw [← hport]
      exact h.queue

end BcmPlatform.Bomx.InputSide
