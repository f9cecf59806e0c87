import BcmPlatform.Lib.Evictions
import BcmPlatform.Lib.Segments
import BcmPlatform.Bomx.Tracker
import BcmPlatform.Theorems.PushBack

/-! The lists of `BOMX_BufferTracker`. The list of the allocated nodes is in the order of the PTS and, for one PTS, in the
    order of `Add`; each call is computed where it cuts that list. -/

namespace BcmPlatform.Bomx
open Lib

namespace NodeTracker
variable {s s' : NodeTracker} {before after kept rest : List NodeId} {p pNode last : NodeId} {pts fuel miss : Nat}
  {ticks : Ticks}

/-- The nodes are distinct and taken from the heap, and the allocated ones are in display order. -/
structure WellFormed (s : NodeTracker) : Prop where
  nodup : (s.allocList ++ s.freeList).Nodup
  fresh : ∀ p ∈ s.allocList ++ s.freeList, p < s.heap
  sorted : s.allocList.Pairwise fun p q => (s.node p).pts ≤ (s.node q).pts
  pts : ∀ p ∈ s.allocList, (s.node p).pts = tickToPts (s.node p).ticks

theorem WellFormed.nodup_alloc (h : s.WellFormed) : s.allocList.Nodup := (List.nodup_append.mp h.nodup).1

/-- The entries in the list, as the tracker without nodes has them. -/
def entries (s : NodeTracker) : BufferTracker := s.allocList.map s.node

theorem WellFormed.ordered (h : s.WellFormed) : BufferTracker.Ordered s.entries := by
  refine ⟨List.pairwise_map.mpr h.sorted, fun n hn => ?_⟩
  obtain ⟨p, hp, rfl⟩ := List.mem_map.mp hn
  exact h.pts p hp

theorem WellFormed.split (h : s.WellFormed) (pts : Nat) : ∃ before after, s.allocList = before ++ after ∧
    (∀ p ∈ before, (s.node p).pts ≤ pts) ∧ ∀ p ∈ after, pts < (s.node p).pts := by
  refine ⟨_, _, (filter_append_filter_not (p := fun p => decide ((s.node p).pts ≤ pts)) ?_).symm, ?_, ?_⟩
  · refine h.sorted.imp fun {x y} hxy hy => ?_
    exact decide_eq_true (Nat.le_trans hxy (of_decide_eq_true hy))
  · exact fun p hp => of_decide_eq_true (List.mem_filter.mp hp).2
  · intro p hp
    simpa using (List.mem_filter.mp hp).2

/-! ### `Add` -/

theorem scanBackward_of_split : ∀ (greater : List NodeId) {last : NodeId} {rest : List NodeId} {fuel : Nat},
    s.allocList = before ++ p :: (greater ++ last :: rest) → s.allocList.Nodup → (s.node p).pts ≤ pts →
    (∀ q ∈ greater, pts < (s.node q).pts) → greater.length < fuel → s.scanBackward pts fuel last = some p := by
  intro greater
  induction greater using List.reverseRecOn with
  | nil =>
    intro last rest fuel halloc hnodup hp _ hfuel
    obtain ⟨fuel, rfl⟩ := Nat.exists_eq_succ_of_ne_zero (Nat.ne_of_gt hfuel)
    have hsplit : s.allocList = (before ++ [p]) ++ last :: rest := by simpa using halloc
    have hlast : last ∉ rest := by
      rw [hsplit] at hnodup
      exact (List.nodup_cons.mp (List.nodup_append.mp hnodup).2.1).1
    rw [scanBackward, hsplit, Queue.prev_of_split hlast]
    simp [Nat.not_lt.mpr hp]
  | append_singleton greater q ih =>
    intro last rest fuel halloc hnodup hp hgreater hfuel
    obtain ⟨fuel, rfl⟩ := Nat.exists_eq_succ_of_ne_zero (Nat.ne_of_gt (Nat.lt_of_le_of_lt (Nat.zero_le _) hfuel))
    have hsplit : s.allocList = (before ++ p :: (greater ++ [q])) ++ last :: rest := by simpa using halloc
    have hlast : last ∉ rest := by
      rw [hsplit] at hnodup
      exact (List.nodup_cons.mp (List.nodup_append.mp hnodup).2.1).1
    have hprev : Queue.prev s.allocList last = some q := by
      rw [hsplit, Queue.prev_of_split hlast, ← List.cons_append, ← List.append_assoc, List.getLast?_concat]
    have hq : pts < (s.node q).pts := hgreater q (by simp)
    rw [scanBackward, hprev]
    simp only [gt_iff_lt, hq, if_true]
    refine @ih q (last :: rest) fuel (by simpa using halloc) hnodup hp (fun x hx => hgreater x (by simp [hx])) ?_
    rw [List.length_append, List.length_singleton] at hfuel
    omega

theorem insertNode_of_split (halloc : s.allocList = before ++ after) (hnodup : s.allocList.Nodup)
    (hbefore : ∀ p ∈ before, (s.node p).pts ≤ (s.node pNode).pts)
    (hafter : ∀ p ∈ after, (s.node pNode).pts < (s.node p).pts) :
    s.insertNode pNode = { s with allocList := before ++ pNode :: after } := by
  rw [insertNode]
  split
  · next hnil =>
    obtain ⟨rfl, rfl⟩ := List.append_eq_nil_iff.mp (halloc.symm.trans hnil)
    rfl
  · next first rest hcons =>
    have hlast : ∀ {l : List NodeId} {x : NodeId}, s.allocList = l ++ [x] →
        (first :: rest).getLast (List.cons_ne_nil first rest) = x := by
      intro l x hl
      have hl' : first :: rest = l ++ [x] := hcons.symm.trans hl
      simp only [hl', List.getLast_append_singleton]
    rcases List.eq_nil_or_concat after with rfl | ⟨after, last, rfl⟩
    · -- all the nodes have at most this PTS
      obtain ⟨before, q, rfl⟩ := (List.eq_nil_or_concat before).resolve_left (by
        rintro rfl
        rw [halloc] at hcons
        cases hcons)
      have hq : (s.node q).pts ≤ (s.node pNode).pts := hbefore q (by simp)
      simp only
      rw [hlast (by simpa [List.concat_eq_append] using halloc), if_pos hq, halloc, List.append_nil]
    · have hlt : (s.node pNode).pts < (s.node last).pts := hafter last (by simp)
      simp only
      rw [hlast (x := last) (l := before ++ after) (by simpa [List.concat_eq_append] using halloc),
        if_neg (Nat.not_le.mpr hlt)]
      rcases List.eq_nil_or_concat before with rfl | ⟨before, q, rfl⟩
      · -- none of them has
        have hfirst : (s.node pNode).pts < (s.node first).pts := by
          refine hafter first ?_
          have hmem : first ∈ s.allocList := hcons ▸ List.mem_cons_self
          simpa [halloc] using hmem
        rw [if_pos hfirst, halloc]
        rfl
      · have hq : (s.node q).pts ≤ (s.node pNode).pts := hbefore q (by simp)
        have hfirst : (s.node first).pts ≤ (s.node pNode).pts := by
          refine hbefore first ?_
          have hhead : s.allocList.head? = some first := by rw [hcons]; rfl
          rw [halloc] at hhead
          cases before with
          | nil =>
            cases hhead
            simp
          | cons x before =>
            cases hhead
            simp
        have hsplit : s.allocList = before ++ q :: (after ++ last :: []) := by
          simpa [List.concat_eq_append] using halloc
        have hscan : s.scanBackward (s.node pNode).pts s.allocList.length last = some q := by
          refine scanBackward_of_split after hsplit hnodup hq (fun x hx => hafter x (by simp [hx])) ?_
          rw [hsplit]
          simp
          omega
        have hqbefore : q ∉ before := by
          rw [hsplit] at hnodup
          exact fun hmem => (List.nodup_append.mp hnodup).2.2 q hmem q (by simp) rfl
        rw [if_neg (Nat.not_lt.mpr hfirst), hscan]
        simp only
        rw [hsplit, Queue.insertAfter_of_split hqbefore]
        simp [List.concat_eq_append]

/-- The lists and counts when `Add` has taken a node. -/
def FromPool (s s' : NodeTracker) : Prop :=
  (s.freeList = s.newNode :: s'.freeList ∧ s'.heap = s.heap ∧ s'.maxAllocated = s.maxAllocated) ∨
  (s.freeList = [] ∧ s'.freeList = [] ∧ s.newNode = s.heap ∧ s'.heap = s.heap + 1 ∧ s'.maxAllocated = s.maxAllocated + 1)

/-- What `Add` does when it returns true. -/
structure Added (pHeader : BufferHeader) (s s' : NodeTracker) : Prop where
  alloc : ∃ before after, s.allocList = before ++ after ∧ s'.allocList = before ++ s.newNode :: after ∧
    (∀ p ∈ before, (s.node p).pts ≤ tickToPts pHeader.nTimeStamp) ∧ ∀ p ∈ after, tickToPts pHeader.nTimeStamp < (s.node p).pts
  pool : FromPool s s'
  node : s'.node = Function.update s.node s.newNode (.ofHeader pHeader)
  rest : s'.valid = s.valid ∧ s'.asserts = s.asserts

theorem WellFormed.newNode_not_mem (h : s.WellFormed) : s.newNode ∉ s.allocList := by
  intro hmem
  unfold newNode at hmem
  cases hfree : s.freeList with
  | nil =>
    rw [hfree, List.headD_nil] at hmem
    exact Nat.lt_irrefl _ (h.fresh _ (List.mem_append_left _ hmem))
  | cons q freeList =>
    rw [hfree, List.headD_cons] at hmem
    exact (List.nodup_append.mp h.nodup).2.2 q hmem q (by rw [hfree]; exact List.mem_cons_self) rfl

theorem takeNode_cases (new : Bool) (s : NodeTracker) :
    (s.takeNode new = none ∧ s.freeList = [] ∧ new = false) ∨
    ∃ s₁, s.takeNode new = some s₁ ∧ s₁.allocList = s.allocList ∧ s₁.node = s.node ∧ s₁.valid = s.valid ∧
      s₁.asserts = s.asserts ∧ FromPool s s₁ := by
  unfold takeNode FromPool newNode
  cases hfree : s.freeList with
  | nil => cases new <;> simp
  | cons q freeList => simp

theorem WellFormed.add_cases (h : s.WellFormed) (pHeader : BufferHeader) (new : Bool) :
    (s.add pHeader new = (s, none) ∧ s.freeList = [] ∧ new = false) ∨
    ∃ s', s.add pHeader new = (s', some (tickToPts pHeader.nTimeStamp)) ∧ Added pHeader s s' := by
  obtain ⟨htake, hfree, hnew⟩ | ⟨s₁, htake, hlist, hnode, hvalid, hasserts, hpool⟩ := takeNode_cases new s
  · exact .inl ⟨by simp only [add, htake], hfree, hnew⟩
  · obtain ⟨before, after, halloc, hbefore, hafter⟩ := h.split (tickToPts pHeader.nTimeStamp)
    have hne : ∀ p ∈ s.allocList, p ≠ s.newNode := fun p hp heq => h.newNode_not_mem (heq ▸ hp)
    have hinsert := @insertNode_of_split { s₁ with node := Function.update s.node s.newNode (.ofHeader pHeader) } before after
      s.newNode (hlist.trans halloc) (hlist ▸ h.nodup_alloc)
      (fun p hp => by
        simp only [Function.update_self, Function.update_of_ne (hne p (by simp [halloc, hp]))]
        exact hbefore p hp)
      (fun p hp => by
        simp only [Function.update_self, Function.update_of_ne (hne p (by simp [halloc, hp]))]
        exact hafter p hp)
    refine .inr ⟨{ s₁ with
      allocList := before ++ s.newNode :: after
      node := Function.update s.node s.newNode (.ofHeader pHeader) }, ?_,
      ⟨before, after, halloc, rfl, hbefore, hafter⟩, hpool, rfl, hvalid, hasserts⟩
    simp only [add, htake, hnode, hinsert]
    rfl

/-! ### `Remove` -/

theorem search_of_not_mem {node : NodeId → TrackerNode} : ∀ (l : List NodeId) (miss : Nat), (∀ p ∈ l, (node p).pts ≠ pts) →
    search node pts l miss = none
  | [], _, _ => rfl
  | p :: l, miss, h => by
    obtain ⟨hp, hl⟩ := List.forall_mem_cons.mp h
    rw [search, if_neg hp, search_of_not_mem l _ hl]

theorem search_of_split {node : NodeId → TrackerNode} (hp : (node p).pts = pts) : ∀ (before : List NodeId) (miss : Nat),
    (∀ q ∈ before, (node q).pts ≠ pts) → search node pts (before ++ p :: after) miss = some (p, miss + before.length)
  | [], miss, _ => by rw [List.nil_append, search, if_pos hp]; rfl
  | q :: before, miss, h => by
    obtain ⟨hq, hbefore⟩ := List.forall_mem_cons.mp h
    rw [List.cons_append, search, if_neg hq, search_of_split hp before _ hbefore, List.length_cons, Nat.add_right_comm,
      Nat.add_assoc]

theorem cleanup_of_split : ∀ (rest : List NodeId) {kept : List NodeId} {s : NodeTracker} {fuel miss : Nat},
    s.allocList = kept ++ rest → s.allocList.Nodup → rest.length ≤ fuel →
    s.cleanup ticks fuel rest.head? miss = some
      ({ s with
        allocList := kept ++ dropFirst (s.stale ticks) (miss - (buftrCleanupKeep - 1)) rest
        freeList := s.freeList ++ (rest.filter (s.stale ticks)).take (miss - (buftrCleanupKeep - 1)) },
      (rest.filter (s.stale ticks)).take (miss - (buftrCleanupKeep - 1)))
  | [], kept, s, fuel, miss, halloc, _, _ => by
    simp only [List.head?_nil, List.filter_nil, List.take_nil, List.append_nil, dropFirst_nil, cleanup]
    rw [← List.append_nil kept, ← halloc]
  | p :: rest, kept, s, fuel, miss, halloc, hnodup, hfuel => by
    obtain ⟨fuel, rfl⟩ := Nat.exists_eq_succ_of_ne_zero (Nat.ne_of_gt (Nat.lt_of_lt_of_le (Nat.succ_pos _) hfuel))
    have hp : p ∉ kept := by
      rw [halloc] at hnodup
      exact fun hmem => (List.nodup_append.mp hnodup).2.2 p hmem p List.mem_cons_self rfl
    rw [List.length_cons] at hfuel
    rw [List.head?_cons, cleanup]
    by_cases hmiss : miss ≥ buftrCleanupKeep
    · obtain ⟨k, hk⟩ : ∃ k, miss - (buftrCleanupKeep - 1) = k + 1 := ⟨miss - buftrCleanupKeep, by
        unfold buftrCleanupKeep at *
        omega⟩
      have hnext : Queue.next s.allocList p = rest.head? := by rw [halloc, Queue.next_of_split hp]
      rw [if_pos hmiss, hnext]
      by_cases hstale : s.stale ticks p = true
      · have hrelease : (s.release p).allocList = kept ++ rest := by
          rw [release, halloc]
          exact Queue.erase_of_split hp
        have hk' : miss - 1 - (buftrCleanupKeep - 1) = k := by
          unfold buftrCleanupKeep at *
          omega
        rw [if_pos hstale, cleanup_of_split rest hrelease (hrelease ▸ (halloc ▸ hnodup).sublist (by simp)) (by omega), hk, hk',
          dropFirst_cons_of_pos hstale, List.filter_cons_of_pos hstale, List.take_succ_cons]
        simp only [release, Option.map_some, List.append_assoc, List.cons_append, List.nil_append]
        rfl
      · have hkeep : s.allocList = (kept ++ [p]) ++ rest := by rw [halloc, List.append_assoc]; rfl
        rw [if_neg hstale, cleanup_of_split rest hkeep hnodup (by omega), dropFirst_cons_of_neg (by simpa using hstale),
          List.filter_cons_of_neg hstale]
        simp
    · have hzero : miss - (buftrCleanupKeep - 1) = 0 := by
        unfold buftrCleanupKeep at *
        omega
      rw [if_neg hmiss, hzero]
      simp [← halloc]

/-- How many nodes a `Remove` may take out beside its own, when it passed over `miss` nodes. -/
def evictions (miss : Nat) : Nat := if miss > buftrCleanupThreshold then miss - (buftrCleanupKeep - 1) else 0

/-- The nodes that the `Remove` of `pNode` takes out beside it, when it passed over `miss` nodes. -/
def evicted (s : NodeTracker) (pNode : NodeId) (miss : Nat) : List NodeId :=
  ((s.allocList.erase pNode).filter (s.stale (s.node pNode).ticks)).take (evictions miss)

theorem remove_of_not_mem (h : ∀ p ∈ s.allocList, (s.node p).pts ≠ pts) :
    s.remove pts = some { tracker := s, found := false, nTimeStamp := ptsToTick pts, nFlags := {}, discarded := [] } := by
  rw [remove, search_of_not_mem _ _ h]

theorem remove_of_split (halloc : s.allocList = before ++ pNode :: after) (hnodup : s.allocList.Nodup)
    (hbefore : ∀ q ∈ before, (s.node q).pts ≠ pts) (hp : (s.node pNode).pts = pts) :
    s.remove pts = some
      { tracker := { s with
          allocList := dropFirst (s.stale (s.node pNode).ticks) (evictions before.length) (before ++ after)
          freeList := s.freeList ++ pNode :: s.evicted pNode before.length }
        found := true
        nTimeStamp := (s.node pNode).ticks
        nFlags := (s.node pNode).flags
        discarded := s.evicted pNode before.length } := by
  have hnot : pNode ∉ before := by
    rw [halloc] at hnodup
    exact fun hmem => (List.nodup_append.mp hnodup).2.2 pNode hmem pNode List.mem_cons_self rfl
  have herase : s.allocList.erase pNode = before ++ after := by rw [halloc, Queue.erase_of_split hnot]
  have hrelease : (s.release pNode).allocList = [] ++ (before ++ after) := herase
  have hnodup' : (s.release pNode).allocList.Nodup := hnodup.erase pNode
  rw [remove, halloc, search_of_split hp before 0 hbefore, Nat.zero_add]
  simp only [evicted, herase, evictions]
  split
  · rw [hrelease, List.nil_append,
      cleanup_of_split (before ++ after) hrelease hnodup' (Nat.le_refl _), Option.map_some]
    simp only [release, List.append_assoc, List.nil_append, List.cons_append]
    rfl
  · simp only [release, herase, dropFirst_zero, List.take_zero]

theorem remove_cases (s : NodeTracker) (pts : Nat) : (∀ p ∈ s.allocList, (s.node p).pts ≠ pts) ∨
    ∃ before pNode after, s.allocList = before ++ pNode :: after ∧ (∀ q ∈ before, (s.node q).pts ≠ pts) ∧
      (s.node pNode).pts = pts := by
  by_cases hmem : ∀ p ∈ s.allocList, (s.node p).pts ≠ pts
  · exact .inl hmem
  · push Not at hmem
    obtain ⟨p, hp, hpts⟩ := hmem
    obtain ⟨pNode, before, after, hbefore, hpNode, halloc⟩ :=
      List.exists_of_eraseP (p := fun p => decide ((s.node p).pts = pts)) hp (decide_eq_true hpts)
    exact .inr ⟨before, pNode, after, halloc.1, fun q hq => by simpa using hbefore q hq, by simpa using hpNode⟩

/-! ### `Flush` -/

theorem flushNodes_eq : ∀ (l : List NodeId) (s : NodeTracker), s.allocList = l →
    s.flushNodes l = { s with allocList := [], freeList := s.freeList ++ l }
  | [], s, h => by
    rw [flushNodes, List.append_nil, ← h]
  | p :: rest, s, _ => by
    rw [flushNodes, flushNodes_eq rest _ rfl]
    simp

theorem flush_eq (s : NodeTracker) : s.flush = { s with allocList := [], freeList := s.freeList ++ s.allocList } :=
  flushNodes_eq s.allocList s rfl

/-! ### What the calls keep -/

theorem Added.wellFormed {pHeader : BufferHeader} (hs : s.WellFormed) (h : Added pHeader s s') : s'.WellFormed := by
  obtain ⟨before, after, halloc, halloc', hbefore, hafter⟩ := h.alloc
  have hnew := hs.newNode_not_mem
  have hne : ∀ p ∈ s.allocList, s'.node p = s.node p := by
    intro p hp
    rw [h.node, Function.update_of_ne (fun heq : p = s.newNode => hnew (heq ▸ hp))]
  have hself : s'.node s.newNode = .ofHeader pHeader := by rw [h.node, Function.update_self]
  have hperm : (s'.allocList ++ s'.freeList).Perm (s.newNode :: (s.allocList ++ s'.freeList)) := by
    rw [halloc', halloc, List.append_assoc, List.cons_append, List.append_assoc]
    exact List.perm_middle
  constructor
  · rw [hperm.nodup_iff]
    rcases h.pool with ⟨hfree, -, -⟩ | ⟨hfree, hfree', hheap, -, -⟩
    · have hnodup := hs.nodup
      rw [hfree] at hnodup
      exact List.perm_middle.nodup_iff.mp hnodup
    · rw [hfree', List.append_nil]
      exact List.nodup_cons.mpr ⟨hnew, hs.nodup_alloc⟩
  · intro p hp
    rcases List.mem_cons.mp (hperm.mem_iff.mp hp) with rfl | hp
    · rcases h.pool with ⟨hfree, hheap, -⟩ | ⟨-, -, hnewNode, hheap, -⟩
      · rw [hheap]
        exact hs.fresh _ (by simp [hfree])
      · rw [hheap, hnewNode]
        exact Nat.lt_succ_self _
    · rcases h.pool with ⟨hfree, hheap, -⟩ | ⟨hfree, hfree', -, hheap, -⟩
      · rw [hheap]
        refine hs.fresh p ?_
        rcases List.mem_append.mp hp with hp | hp <;> simp [hfree, hp]
      · rw [hfree', List.append_nil] at hp
        rw [hheap]
        exact Nat.lt_succ_of_lt (hs.fresh p (List.mem_append_left _ hp))
  · have hsorted := hs.sorted
    rw [halloc] at hsorted hne
    obtain ⟨hsb, hsa, hba⟩ := List.pairwise_append.mp hsorted
    have hb : ∀ p ∈ before, s'.node p = s.node p := fun p hp => hne p (List.mem_append_left _ hp)
    have ha : ∀ p ∈ after, s'.node p = s.node p := fun p hp => hne p (List.mem_append_right _ hp)
    rw [halloc', List.pairwise_append, List.pairwise_cons]
    refine ⟨hsb.imp_of_mem fun {x y} hx hy hxy => ?_, ⟨fun x hx => ?_, hsa.imp_of_mem fun {x y} hx hy hxy => ?_⟩,
      fun x hx y hy => ?_⟩
    · rwa [hb x hx, hb y hy]
    · rw [hself, ha x hx]
      exact (hafter x hx).le
    · rwa [ha x hx, ha y hy]
    · rw [hb x hx]
      rcases List.mem_cons.mp hy with rfl | hy
      · rw [hself]
        exact hbefore x hx
      · rw [ha y hy]
        exact hba x hx y hy
  · intro p hp
    have hp' : p ∈ s.newNode :: s.allocList := by
      rw [halloc'] at hp
      rw [halloc]
      exact List.perm_middle.mem_iff.mp hp
    rcases List.mem_cons.mp hp' with rfl | hp
    · rw [hself]
      rfl
    · rw [hne p hp]
      exact hs.pts p hp

theorem WellFormed.move (hs : s.WellFormed) (hsub : s'.allocList.Sublist s.allocList)
    (hperm : (s'.allocList ++ s'.freeList).Perm (s.allocList ++ s.freeList)) (hnode : s'.node = s.node)
    (hheap : s'.heap = s.heap) : s'.WellFormed where
  nodup := hperm.nodup_iff.mpr hs.nodup
  fresh p hp := hheap ▸ hs.fresh p (hperm.mem_iff.mp hp)
  sorted := hnode ▸ hs.sorted.sublist hsub
  pts p hp := hnode ▸ hs.pts p (hsub.subset hp)

theorem evicted_perm (halloc : s.allocList = before ++ pNode :: after) (hnodup : s.allocList.Nodup) :
    (dropFirst (s.stale (s.node pNode).ticks) (evictions before.length) (before ++ after) ++
      (s.freeList ++ pNode :: s.evicted pNode before.length)).Perm (s.allocList ++ s.freeList) := by
  have hnot : pNode ∉ before := by
    rw [halloc] at hnodup
    exact fun hmem => (List.nodup_append.mp hnodup).2.2 pNode hmem pNode List.mem_cons_self rfl
  have hout : s.evicted pNode before.length =
      ((before ++ after).filter (s.stale (s.node pNode).ticks)).take (evictions before.length) := by
    rw [evicted, halloc, Queue.erase_of_split hnot]
  have hkeep := dropFirst_perm (p := s.stale (s.node pNode).ticks) (evictions before.length) (before ++ after)
  rw [← hout] at hkeep
  rw [List.perm_iff_count] at hkeep ⊢
  intro q
  have hq := hkeep q
  simp only [halloc, List.count_append, List.count_cons] at hq ⊢
  omega

end NodeTracker
end BcmPlatform.Bomx
