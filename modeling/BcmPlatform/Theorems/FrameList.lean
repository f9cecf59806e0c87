import Mathlib.Data.List.Infix
import BcmPlatform.Bomx.VideoStep

/-! The alloc list beside the FIFO of Nexus. Invalid frames come first, frames that wait for delivery last; what is not
    invalid is the beginning of the FIFO. -/

namespace BcmPlatform.Bomx
open Lib

/-- The place of a frame in the alloc list. -/
def FrameBuffer.rank (f : FrameBuffer) : Nat :=
  match f.state with
  | .invalid => 0
  | .ready => 2
  | _ => 1

theorem FrameBuffer.rank_eq_zero {f : FrameBuffer} : f.rank = 0 ↔ f.isInvalid = true := by
  cases h : f.state <;> simp [rank, isInvalid, h]

theorem FrameBuffer.rank_eq_two {f : FrameBuffer} : f.rank = 2 ↔ f.isReady = true := by
  cases h : f.state <;> simp [rank, isReady, h]

theorem FrameBuffer.rank_le_two (f : FrameBuffer) : f.rank ≤ 2 := by
  cases h : f.state <;> simp [rank, h]

def validSerials (alloc : List FrameBuffer) : List Nat := (alloc.filter fun f => !f.isInvalid).map (·.serial)

def invalidSerials (alloc : List FrameBuffer) : List Nat := (alloc.filter (·.isInvalid)).map (·.serial)

section
variable {l l' : List FrameBuffer}

@[simp] theorem validSerials_append : validSerials (l ++ l') = validSerials l ++ validSerials l' := by
  simp [validSerials]

@[simp] theorem invalidSerials_append : invalidSerials (l ++ l') = invalidSerials l ++ invalidSerials l' := by
  simp [invalidSerials]

theorem validSerials_of_valid (h : ∀ f ∈ l, f.isInvalid = false) : validSerials l = l.map (·.serial) := by
  rw [validSerials, List.filter_eq_self.mpr fun f hf => by simp [h f hf]]

theorem validSerials_of_invalid (h : ∀ f ∈ l, f.isInvalid = true) : validSerials l = [] := by
  rw [validSerials, List.filter_eq_nil_iff.mpr fun f hf => by simp [h f hf]]
  rfl

theorem invalidSerials_of_valid (h : ∀ f ∈ l, f.isInvalid = false) : invalidSerials l = [] := by
  rw [invalidSerials, List.filter_eq_nil_iff.mpr fun f hf => by simp [h f hf]]
  rfl

theorem invalidSerials_of_invalid (h : ∀ f ∈ l, f.isInvalid = true) : invalidSerials l = l.map (·.serial) := by
  rw [invalidSerials, List.filter_eq_self.mpr h]

end

/-- The alloc list, the serial numbers of the FIFO and the least serial number that was not used. -/
structure Aligned (alloc : List FrameBuffer) (fifo : List Nat) (next : Nat) : Prop where
  shape : alloc.Pairwise fun f g => f.rank ≤ g.rank
  serials : validSerials alloc <+: fifo
  sorted : (invalidSerials alloc ++ fifo).Pairwise (· < ·)
  fresh : ∀ n ∈ invalidSerials alloc ++ fifo, n < next

namespace Aligned
variable {alloc alloc' I B R : List FrameBuffer} {fifo frames : List Nat} {next next' : Nat}

/-! ### The parts of the list -/

theorem invalidFirst (h : Aligned alloc fifo next) :
    alloc.Pairwise fun f g => g.isInvalid = true → f.isInvalid = true := by
  refine h.shape.imp fun {f g} hle hg => ?_
  rw [← FrameBuffer.rank_eq_zero] at hg ⊢
  omega

theorem readyLast (h : Aligned alloc fifo next) :
    alloc.Pairwise fun f g => (!g.isReady) = true → (!f.isReady) = true := by
  refine h.shape.imp fun {f g} hle hg => ?_
  have hf := f.rank_le_two
  by_contra hready
  simp only [Bool.not_eq_true, Bool.not_eq_false'] at hready
  rw [← FrameBuffer.rank_eq_two] at hready
  have hg2 : g.rank = 2 := by
    have := g.rank_le_two
    omega
  rw [FrameBuffer.rank_eq_two] at hg2
  simp [hg2] at hg

theorem serials_sublist (h : Aligned alloc fifo next) :
    (alloc.map (·.serial)).Sublist (invalidSerials alloc ++ fifo) := by
  have hsplit : alloc.map (·.serial) = invalidSerials alloc ++ validSerials alloc := by
    rw [invalidSerials, validSerials, ← List.map_append, filter_append_filter_not h.invalidFirst]
  rw [hsplit]
  exact (List.Sublist.refl _).append h.serials.sublist

theorem serials_sorted (h : Aligned alloc fifo next) : (alloc.map (·.serial)).Pairwise (· < ·) :=
  h.sorted.sublist h.serials_sublist

/-! ### Changes -/

theorem congr (h : Aligned alloc fifo next) (hshape : alloc'.Pairwise fun f g => f.rank ≤ g.rank)
    (hvalid : validSerials alloc' = validSerials alloc) (hinvalid : (invalidSerials alloc').Sublist (invalidSerials alloc)) :
    Aligned alloc' fifo next where
  shape := hshape
  serials := by
    rw [hvalid]
    exact h.serials
  sorted := h.sorted.sublist (hinvalid.append_right fifo)
  fresh n hn := h.fresh n ((hinvalid.append_right fifo).subset hn)

theorem map {g : FrameBuffer → FrameBuffer} (h : Aligned alloc fifo next) (hrank : ∀ f ∈ alloc, (g f).rank = f.rank)
    (hserial : ∀ f, (g f).serial = f.serial) : Aligned (alloc.map g) fifo next := by
  have hinv : ∀ f ∈ alloc, (g f).isInvalid = f.isInvalid := by
    intro f hf
    rw [Bool.eq_iff_iff, ← FrameBuffer.rank_eq_zero, ← FrameBuffer.rank_eq_zero, hrank f hf]
  refine h.congr ?_ ?_ ?_
  · rw [List.pairwise_map]
    exact h.shape.imp_of_mem fun {f f'} hf hf' hle => by
      rw [hrank f hf, hrank f' hf']
      exact hle
  · simp only [validSerials, List.filter_map, List.map_map, Function.comp_def, hserial]
    rw [List.filter_congr fun f hf => by rw [hinv f hf]]
  · simp only [invalidSerials, List.filter_map, List.map_map, Function.comp_def, hserial]
    rw [List.filter_congr fun f hf => by rw [hinv f hf]]

theorem filter {p : FrameBuffer → Bool} (h : Aligned alloc fifo next) (hp : ∀ f ∈ alloc, p f = false → f.isInvalid = true) :
    Aligned (alloc.filter p) fifo next := by
  refine h.congr (h.shape.filter p) ?_ ((List.filter_sublist.filter _).map _)
  rw [validSerials, validSerials, List.filter_filter]
  congr 1
  refine List.filter_congr fun f hf => ?_
  by_cases hpf : p f = true
  · simp [hpf]
  · have hpf : p f = false := by simpa using hpf
    simp [hpf, hp f hf hpf]

theorem append (h : Aligned alloc fifo next) (hready : ∀ f ∈ R, f.isReady = true)
    (hnew : validSerials alloc ++ R.map (·.serial) <+: fifo) : Aligned (alloc ++ R) fifo next := by
  have hvalid : ∀ f ∈ R, f.isInvalid = false := by
    intro f hf
    have hf' := hready f hf
    simp only [FrameBuffer.isReady, decide_eq_true_eq] at hf'
    simp [FrameBuffer.isInvalid, hf']
  refine ⟨?_, ?_, ?_, ?_⟩
  · rw [List.pairwise_append]
    refine ⟨h.shape, ?_, fun f _ g hg => ?_⟩
    · refine List.pairwise_of_forall_mem_list fun f hf g hg => ?_
      rw [FrameBuffer.rank_eq_two.mpr (hready f hf), FrameBuffer.rank_eq_two.mpr (hready g hg)]
    · rw [FrameBuffer.rank_eq_two.mpr (hready g hg)]
      exact f.rank_le_two
  · rw [validSerials_append, validSerials_of_valid hvalid]
    exact hnew
  · rw [invalidSerials_append, invalidSerials_of_valid hvalid, List.append_nil]
    exact h.sorted
  · rw [invalidSerials_append, invalidSerials_of_valid hvalid, List.append_nil]
    exact h.fresh

theorem deliver {pre rest : List FrameBuffer} {f f' : FrameBuffer} (h : Aligned (pre ++ f :: rest) fifo next)
    (hpre : ∀ k ∈ pre, k.isReady = false) (hf : f.isReady = true) (hrest : ∀ k ∈ rest, k.isReady = true)
    (hserial : f'.serial = f.serial) (hstate : f'.state = .delivered) : Aligned (pre ++ f' :: rest) fifo next := by
  have hfvalid : f.isInvalid = false := by
    cases hs : f.state <;> simp_all [FrameBuffer.isReady, FrameBuffer.isInvalid]
  have hvalid : f'.isInvalid = false := by simp [FrameBuffer.isInvalid, hstate]
  have hrank : f'.rank = 1 := by simp [FrameBuffer.rank, hstate]
  have hshape := h.shape
  rw [List.pairwise_append, List.pairwise_cons] at hshape
  obtain ⟨hpres, ⟨-, hrests⟩, hcross⟩ := hshape
  refine h.congr ?_ ?_ ?_
  · rw [List.pairwise_append, List.pairwise_cons]
    refine ⟨hpres, ⟨fun k hk => ?_, hrests⟩, fun k hk g hg => ?_⟩
    · rw [hrank, FrameBuffer.rank_eq_two.mpr (hrest k hk)]
      exact Nat.le_succ 1
    · rcases List.mem_cons.mp hg with rfl | hg
      · have hne : k.rank ≠ 2 := by
          rw [Ne, FrameBuffer.rank_eq_two, hpre k hk]
          exact Bool.false_ne_true
        have hle := k.rank_le_two
        omega
      · exact hcross k hk g (List.mem_cons_of_mem _ hg)
  · simp [validSerials, hfvalid, hvalid, hserial]
  · simp [invalidSerials, hfvalid, hvalid]

theorem decode (h : Aligned alloc fifo next) (hsorted : frames.Pairwise (· < ·)) (hfrom : ∀ n ∈ frames, next ≤ n)
    (hnext : next ≤ next') (hto : ∀ n ∈ frames, n < next') : Aligned alloc (fifo ++ frames) next' where
  shape := h.shape
  serials := h.serials.trans (List.prefix_append _ _)
  sorted := by
    rw [← List.append_assoc, List.pairwise_append]
    exact ⟨h.sorted, hsorted, fun a ha b hb => Nat.lt_of_lt_of_le (h.fresh a ha) (hfrom b hb)⟩
  fresh n hn := by
    rw [← List.append_assoc, List.mem_append] at hn
    rcases hn with hn | hn
    · exact Nat.lt_of_lt_of_le (h.fresh n hn) hnext
    · exact hto n hn

theorem emptyFifo (h : Aligned alloc fifo next) (hvalid : validSerials alloc = []) : Aligned alloc [] next where
  shape := h.shape
  serials := by rw [hvalid]
  sorted := h.sorted.sublist ((List.Sublist.refl _).append (List.nil_sublist _))
  fresh n hn := h.fresh n (((List.Sublist.refl _).append (List.nil_sublist _)).subset hn)

theorem clear (h : Aligned alloc fifo next) : Aligned [] fifo next where
  shape := List.Pairwise.nil
  serials := List.nil_prefix
  sorted := h.sorted.sublist (List.sublist_append_right _ _)
  fresh n hn := h.fresh n (List.mem_append_right _ hn)

/-! ### Frames that go back -/

theorem rank_of_invalid {f g : FrameBuffer} (hf : f.isInvalid = true) : f.rank ≤ g.rank := by
  rw [FrameBuffer.rank_eq_zero.mpr hf]
  exact Nat.zero_le _

theorem isInvalid_invalidated : ∀ f ∈ OutputSide.invalidated B, f.isInvalid = true := by
  intro f hf
  obtain ⟨g, -, rfl⟩ := List.mem_map.mp hf
  rfl

theorem returned (h : Aligned (I ++ B ++ R) fifo next) (hI : ∀ f ∈ I, f.isInvalid = true)
    (hB : ∀ f ∈ B, f.isInvalid = false) (hR : ∀ f ∈ R, f.isInvalid = false) :
    Aligned (I ++ OutputSide.invalidated B ++ R) (fifo.drop B.length) next := by
  have hIinv : ∀ f ∈ I ++ OutputSide.invalidated B, f.isInvalid = true := by
    intro f hf
    rcases List.mem_append.mp hf with hf | hf
    · exact hI f hf
    · exact isInvalid_invalidated f hf
  have hsub : ((OutputSide.invalidated B).map (·.serial)).Sublist (B.map (·.serial)) := by
    simp only [OutputSide.invalidated, List.map_map]
    exact List.filter_sublist.map _
  have hserials : B.map (·.serial) ++ R.map (·.serial) <+: fifo := by
    have hs := h.serials
    rw [validSerials_append, validSerials_append, validSerials_of_invalid hI, validSerials_of_valid hB,
      validSerials_of_valid hR] at hs
    exact hs
  obtain ⟨later, rfl⟩ := hserials
  have hsorted := h.sorted
  have hfresh := h.fresh
  rw [invalidSerials_append, invalidSerials_append, invalidSerials_of_invalid hI, invalidSerials_of_valid hB,
    invalidSerials_of_valid hR, List.append_nil, List.append_nil] at hsorted hfresh
  have hdrop : (B.map (·.serial) ++ R.map (·.serial) ++ later).drop B.length = R.map (·.serial) ++ later := by
    rw [List.append_assoc, List.drop_left' (by simp)]
  have hall : (invalidSerials (I ++ OutputSide.invalidated B ++ R) ++ (R.map (·.serial) ++ later)).Sublist
      (I.map (·.serial) ++ (B.map (·.serial) ++ R.map (·.serial) ++ later)) := by
    rw [invalidSerials_append, invalidSerials_of_invalid hIinv, invalidSerials_of_valid hR, List.append_nil,
      List.map_append, List.append_assoc, List.append_assoc]
    exact (List.Sublist.refl _).append (hsub.append (List.Sublist.refl _))
  rw [hdrop]
  refine ⟨?_, ?_, hsorted.sublist hall, fun n hn => hfresh n (hall.subset hn)⟩
  · rw [List.pairwise_append]
    refine ⟨List.pairwise_of_forall_mem_list fun f hf g _ => rank_of_invalid (hIinv f hf), ?_, ?_⟩
    · exact h.shape.sublist (List.sublist_append_right _ _)
    · exact fun f hf g _ => rank_of_invalid (hIinv f hf)
  · rw [validSerials_append, validSerials_of_invalid hIinv, validSerials_of_valid hR]
    exact List.prefix_append _ _

theorem invalidated (h : Aligned alloc fifo next) :
    Aligned ((alloc.filter (·.isClientOwned)).map fun f => { f with state := .invalid }) [] next := by
  have hinv : ∀ f ∈ (alloc.filter (·.isClientOwned)).map (fun f => { f with state := .invalid }), f.isInvalid = true := by
    intro f hf
    obtain ⟨g, -, rfl⟩ := List.mem_map.mp hf
    rfl
  have hsub : ((alloc.filter (·.isClientOwned)).map (·.serial)).Sublist (invalidSerials alloc ++ fifo) :=
    (List.filter_sublist.map _).trans h.serials_sublist
  have hserials : invalidSerials ((alloc.filter (·.isClientOwned)).map fun f => { f with state := .invalid }) =
      (alloc.filter (·.isClientOwned)).map (·.serial) := by
    rw [invalidSerials_of_invalid hinv, List.map_map]
    rfl
  refine ⟨List.pairwise_of_forall_mem_list fun f hf g _ => rank_of_invalid (hinv f hf), ?_, ?_, ?_⟩
  · rw [validSerials_of_invalid hinv]
  · rw [hserials, List.append_nil]
    exact h.sorted.sublist hsub
  · rw [hserials, List.append_nil]
    exact fun n hn => h.fresh n (hsub.subset hn)

end Aligned

/-! ### The batch that goes back -/

namespace OutputSide
variable {s : OutputSide} {I B R : List FrameBuffer} {last : FrameBuffer}

/-- The nodes that `ReturnDecodedFrames` finds: the invalid ones, the batch that goes back and the rest. -/
structure Batch (s : OutputSide) (I B R : List FrameBuffer) : Prop where
  split : s.frameBufferAllocList = I ++ B ++ R
  invalid : ∀ f ∈ I, f.isInvalid = true
  valid : ∀ f ∈ B, f.isInvalid = false
  restValid : ∀ f ∈ R, f.isInvalid = false
  notReady : s.outputFlushing = false → ∀ f ∈ B, f.isReady = false
  lastDecided : s.outputFlushing = false → ∀ f, B.getLast? = some f → f.isActionable = true
  restUndecided : s.outputFlushing = false → ∀ f ∈ R, f.isActionable = false
  flushed : s.outputFlushing = true → R = []

/-- A deferred format change is due when the frame before it is returned. -/
def changeDue (last : FrameBuffer) (s : OutputSide) : Bool :=
  s.formatChangeState = .waitForSerial && s.formatChangeSerial = last.serial + 1

/-- The state after a batch went back. -/
def handBack (I B R : List FrameBuffer) (last : FrameBuffer) (s : OutputSide) : OutputSide :=
  { s with
    frameBufferAllocList := I ++ invalidated B ++ R
    frameBufferFreeList := s.frameBufferFreeList ++ released B
    nexus := { s.nexus with
      fifo := s.nexus.fifo.drop B.length
      calls := s.nexus.calls ++
        [{ flushing := s.outputFlushing, fifo := s.nexus.fifo.map (·.serialNumber), flushed := s.flushedFifo,
           entries := returnSettings B }] }
    lastReturnedSerial := last.serial
    formatChangeState := if s.changeDue last then .processCallback else s.formatChangeState }

theorem length_returnSettings : ∀ B : List FrameBuffer, (returnSettings B).length = B.length
  | [] => rfl
  | [_] => rfl
  | _ :: g :: rest => congrArg (· + 1) (length_returnSettings (g :: rest))

theorem exists_batch {fifo : List Nat} {next : Nat} (h : Aligned s.frameBufferAllocList fifo next) :
    ∃ R, Batch s (s.frameBufferAllocList.takeWhile (·.isInvalid)) s.returnBatch R := by
  have hpending : ∀ f ∈ s.frameBufferAllocList.dropWhile (·.isInvalid), f.isInvalid = false := by
    intro f hf
    rw [dropWhile_eq_filter h.invalidFirst, List.mem_filter] at hf
    simpa using hf.2
  have hsplit := List.takeWhile_append_dropWhile (p := (·.isInvalid)) (l := s.frameBufferAllocList)
  have hready : (s.frameBufferAllocList.dropWhile (·.isInvalid)).Pairwise
      fun f g => (!g.isReady) = true → (!f.isReady) = true := h.readyLast.sublist (List.dropWhile_sublist _)
  simp only [returnBatch]
  generalize s.frameBufferAllocList.dropWhile (·.isInvalid) = K at hpending hsplit hready
  split
  · next hflush =>
    obtain ⟨rest, hrest, hnone⟩ := exists_eq_upToLast_append (fun f => !f.isInvalid) K
    have hnil : rest = [] := by
      refine List.eq_nil_iff_forall_not_mem.mpr fun f hf => ?_
      have hvalid := hpending f (by rw [hrest]; exact List.mem_append_right _ hf)
      have hinvalid := hnone f hf
      simp [hvalid] at hinvalid
    rw [hnil, List.append_nil] at hrest
    rw [← hrest]
    refine ⟨[], ?_, fun f hf => List.mem_takeWhile_imp hf, hpending, by simp, ?_, ?_, ?_, fun _ => rfl⟩
    · rw [List.append_nil, hsplit]
    all_goals
      intro hnot
      rw [hflush] at hnot
      cases hnot
  · next hflush =>
    obtain ⟨rest, hrest, hnone⟩ := exists_eq_upToLast_append (·.isActionable) (K.takeWhile fun f => !f.isReady)
    have hK : K = upToLast (·.isActionable) (K.takeWhile fun f => !f.isReady) ++ (rest ++ K.dropWhile fun f => !f.isReady) := by
      rw [← List.append_assoc, ← hrest, List.takeWhile_append_dropWhile]
    refine ⟨rest ++ K.dropWhile fun f => !f.isReady, ?_, fun f hf => List.mem_takeWhile_imp hf, fun f hf => ?_,
      fun f hf => ?_, fun _ f hf => ?_, fun _ f hf => getLast?_upToLast hf, fun _ f hf => ?_, fun h => absurd h hflush⟩
    · rw [List.append_assoc, ← hK, hsplit]
    · refine hpending f ?_
      rw [hK]
      exact List.mem_append_left _ hf
    · refine hpending f ?_
      rw [hK]
      exact List.mem_append_right _ hf
    · have hmem : f ∈ K.takeWhile fun f => !f.isReady := by
        rw [hrest]
        exact List.mem_append_left _ hf
      simpa using List.mem_takeWhile_imp hmem
    · rcases List.mem_append.mp hf with hf | hf
      · exact hnone f hf
      · rw [dropWhile_eq_filter hready, List.mem_filter] at hf
        have hstate : f.state = .ready := by simpa [FrameBuffer.isReady] using hf.2
        simp [FrameBuffer.isActionable, hstate]

theorem returnDecodedFrames_cases {fifo : List Nat} {next : Nat} (h : Aligned s.frameBufferAllocList fifo next)
    (hlen : s.frameBufferAllocList.length ≤ maxDecodedFrames) (hopen : s.hSimpleVideoDecoder = true) :
    ∃ I B R, Batch s I B R ∧ ((B = [] ∧ s.returnDecodedFrames = (s, false)) ∨
      ∃ last, B.getLast? = some last ∧ s.returnDecodedFrames = (s.handBack I B R last, s.changeDue last)) := by
  obtain ⟨R, hb⟩ := exists_batch h
  refine ⟨_, _, R, hb, ?_⟩
  cases hlast : s.returnBatch.getLast? with
  | none =>
    refine .inl ⟨List.getLast?_eq_none_iff.mp hlast, ?_⟩
    simp [returnDecodedFrames, hopen, hlast]
  | some last =>
    refine .inr ⟨last, rfl, ?_⟩
    have hle : s.returnBatch.length ≤ maxDecodedFrames := by
      rw [hb.split] at hlen
      simp only [List.length_append] at hlen
      omega
    have hdrop : s.frameBufferAllocList.drop
        ((s.frameBufferAllocList.takeWhile (·.isInvalid)).length + s.returnBatch.length) = R := by
      conv_lhs =>
        arg 2
        rw [hb.split]
      rw [List.drop_left' (by simp)]
    have hsettings : (returnSettings s.returnBatch).take maxDecodedFrames = returnSettings s.returnBatch :=
      List.take_of_length_le (by rw [length_returnSettings]; exact hle)
    rw [returnDecodedFrames, if_neg (by simp [hopen])]
    simp only [hlast]
    rw [List.take_of_length_le hle, hsettings, hdrop]
    rfl

theorem returnDecodedFrames_keeps {P : OutputSide → Prop} {fifo : List Nat} {next : Nat}
    (h : Aligned s.frameBufferAllocList fifo next) (hlen : s.frameBufferAllocList.length ≤ maxDecodedFrames) (hP : P s)
    (hback : ∀ {I B R : List FrameBuffer} {last : FrameBuffer}, Batch s I B R → B.getLast? = some last →
      P (s.handBack I B R last)) : P s.returnDecodedFrames.1 := by
  by_cases hopen : s.hSimpleVideoDecoder = true
  · obtain ⟨I, B, R, hb, ⟨-, heq⟩ | ⟨last, hlast, heq⟩⟩ := returnDecodedFrames_cases h hlen hopen
    · rw [heq]
      exact hP
    · rw [heq]
      exact hback hb hlast
  · simp only [OutputSide.returnDecodedFrames, hopen, Bool.not_false, if_true]
    exact hP

end OutputSide
end BcmPlatform.Bomx
