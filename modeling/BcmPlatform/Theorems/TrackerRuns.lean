import BcmPlatform.Theorems.NodeTracker
import BcmPlatform.Theorems.Timestamps

/-! Runs of the tracker: the order of the list, the nodes, and what `Remove` gives back. As long as no clean-up took out a
    node, the list has for each PTS the entries that were added and not removed, in the order of `Add`. -/

namespace BcmPlatform.Bomx
open Lib

namespace BufferTracker

end BufferTracker

namespace NodeTracker
variable {s s' : NodeTracker} {before after : List NodeId} {pNode : NodeId} {pts : Nat}

/-! ### The tracker without nodes -/

theorem entries_of_split (h : s.allocList = before ++ pNode :: after) :
    s.entries = before.map s.node ++ s.node pNode :: after.map s.node := by
  rw [entries, h, List.map_append, List.map_cons]

theorem Added.entries {pHeader : BufferHeader} (hs : s.WellFormed) (h : Added pHeader s s') :
    s'.entries = (s.entries.add pHeader).1 := by
  obtain ⟨before, after, halloc, halloc', hbefore, hafter⟩ := h.alloc
  have hnew := hs.newNode_not_mem
  rw [halloc] at hnew
  have hne : ∀ p ∈ before ++ after, s'.node p = s.node p := by
    intro p hp
    rw [h.node, Function.update_of_ne (fun heq : p = s.newNode => hnew (heq ▸ hp))]
  have hentries : s.entries = before.map s.node ++ after.map s.node := by rw [NodeTracker.entries, halloc, List.map_append]
  rw [entries_of_split halloc', hentries, BufferTracker.add]
  rw [BufferTracker.insert_of_split (by simpa using hbefore) (by simpa using hafter)]
  have hself : s'.node s.newNode = .ofHeader pHeader := by rw [h.node, Function.update_self]
  rw [hself, List.map_congr_left fun p hp => hne p (List.mem_append_left _ hp),
    List.map_congr_left fun p hp => hne p (List.mem_append_right _ hp)]
  rfl

end NodeTracker

/-! ### Runs -/

namespace TrackerRun
variable {s s' : TrackerRun}

/-- What holds between the calls. -/
structure Inv (s : TrackerRun) : Prop where
  wellFormed : s.tracker.WellFormed
  order : s.tracker.allocList.Pairwise fun p q =>
    (s.tracker.node p).pts = (s.tracker.node q).pts → s.addedAt p < s.addedAt q
  added : ∀ p ∈ s.tracker.allocList, s.addedAt p < s.calls
  conserved : s.tracker.valid = true → s.tracker.allocList.length + s.tracker.freeList.length = s.tracker.maxAllocated
  asserts : s.tracker.asserts = 0
  pending : s.cleaned = false → ∀ pts, s.tracker.entries.filter (·.pts = pts) = s.pending.filter (·.pts = pts)

theorem allocate_spec : ∀ (news : List Bool) {t : NodeTracker}, t.allocList = [] → t.freeList.Nodup →
    (∀ p ∈ t.freeList, p < t.heap) → t.asserts = 0 →
    (t.allocate news).allocList = [] ∧ (t.allocate news).freeList.Nodup ∧
      (∀ p ∈ (t.allocate news).freeList, p < (t.allocate news).heap) ∧ (t.allocate news).asserts = 0 ∧
      (t.allocate news).maxAllocated = t.maxAllocated ∧
      ((t.allocate news).valid = true → (t.allocate news).freeList.length = t.freeList.length + news.length)
  | [], t, halloc, hnodup, hfresh, hasserts => ⟨halloc, hnodup, hfresh, hasserts, rfl, fun _ => rfl⟩
  | false :: _, t, halloc, hnodup, hfresh, hasserts => ⟨halloc, hnodup, hfresh, hasserts, rfl, fun h => by cases h⟩
  | true :: news, t, halloc, hnodup, hfresh, hasserts => by
    have hnew : t.heap ∉ t.freeList := fun hmem => Nat.lt_irrefl _ (hfresh _ hmem)
    obtain ⟨h₁, h₂, h₃, h₄, h₅, h₆⟩ := allocate_spec news
      (t := { t with freeList := t.freeList ++ [t.heap], heap := t.heap + 1 }) halloc
      (List.nodup_append.mpr ⟨hnodup, List.nodup_singleton _, by
        rintro x hx y hy rfl
        exact hnew (List.mem_singleton.mp hy ▸ hx)⟩)
      (by
        intro p hp
        rcases List.mem_append.mp hp with hp | hp
        · exact Nat.lt_succ_of_lt (hfresh p hp)
        · rw [List.mem_singleton.mp hp]
          exact Nat.lt_succ_self _) hasserts
    refine ⟨h₁, h₂, h₃, h₄, h₅, fun hvalid => ?_⟩
    rw [NodeTracker.allocate, h₆ hvalid, List.length_append, List.length_singleton, List.length_cons]
    omega

theorem Inv.start (news : List Bool) : Inv { tracker := .construct news } := by
  obtain ⟨halloc, hnodup, hfresh, hasserts, hmax, hlen⟩ := allocate_spec news
    (t := { maxAllocated := news.length }) rfl List.nodup_nil (by simp) rfl
  rw [← NodeTracker.construct] at halloc hnodup hfresh hasserts hmax hlen
  constructor
  · constructor
    · simpa [halloc] using hnodup
    · simpa [halloc] using hfresh
    · simp [halloc]
    · simp [halloc]
  · simp [halloc]
  · simp [halloc]
  · intro hvalid
    rw [halloc, List.length_nil, Nat.zero_add, hlen hvalid, hmax]
    exact Nat.zero_add _
  · exact hasserts
  · intro _ pts
    simp [NodeTracker.entries, halloc]

theorem Inv.add {pHeader : BufferHeader} {t : NodeTracker} (h : s.Inv) (hadd : NodeTracker.Added pHeader s.tracker t) :
    Inv { s with
      tracker := t
      calls := s.calls + 1
      addedAt := Function.update s.addedAt s.tracker.newNode s.calls
      pending := s.pending ++ [.ofHeader pHeader] } := by
  have hnew := h.wellFormed.newNode_not_mem
  obtain ⟨before, after, halloc, halloc', hbefore, hafter⟩ := hadd.alloc
  have hne : ∀ p ∈ s.tracker.allocList, p ≠ s.tracker.newNode := fun p hp heq => hnew (heq ▸ hp)
  have hnode : ∀ p ∈ s.tracker.allocList, t.node p = s.tracker.node p := by
    intro p hp
    rw [hadd.node, Function.update_of_ne (hne p hp)]
  have hself : t.node s.tracker.newNode = .ofHeader pHeader := by rw [hadd.node, Function.update_self]
  have hat : ∀ p ∈ s.tracker.allocList, Function.update s.addedAt s.tracker.newNode s.calls p = s.addedAt p := by
    intro p hp
    rw [Function.update_of_ne (hne p hp)]
  have hatSelf : Function.update s.addedAt s.tracker.newNode s.calls s.tracker.newNode = s.calls := Function.update_self ..
  have hb : ∀ {p}, p ∈ before → p ∈ s.tracker.allocList := fun hp => halloc ▸ List.mem_append_left _ hp
  have ha : ∀ {p}, p ∈ after → p ∈ s.tracker.allocList := fun hp => halloc ▸ List.mem_append_right _ hp
  constructor
  · exact hadd.wellFormed h.wellFormed
  · have horder := h.order
    rw [halloc] at horder
    obtain ⟨hob, hoa, hoba⟩ := List.pairwise_append.mp horder
    simp only
    rw [halloc', List.pairwise_append, List.pairwise_cons]
    refine ⟨hob.imp_of_mem fun {x y} hx hy hxy => ?_, ⟨fun x hx heq => ?_, hoa.imp_of_mem fun {x y} hx hy hxy => ?_⟩,
      fun x hx y hy => ?_⟩
    · rwa [hnode x (hb hx), hnode y (hb hy), hat x (hb hx), hat y (hb hy)]
    · rw [hself, hnode x (ha hx)] at heq
      exact absurd heq (hafter x hx).ne
    · rwa [hnode x (ha hx), hnode y (ha hy), hat x (ha hx), hat y (ha hy)]
    · rw [hnode x (hb hx), hat x (hb hx)]
      rcases List.mem_cons.mp hy with rfl | hy
      · rw [hatSelf]
        exact fun _ => h.added x (hb hx)
      · rw [hnode y (ha hy), hat y (ha hy)]
        exact hoba x hx y hy
  · intro p hp
    simp only at hp ⊢
    rw [halloc'] at hp
    have hp' : p ∈ s.tracker.newNode :: s.tracker.allocList := by
      rw [halloc]
      exact List.perm_middle.mem_iff.mp hp
    rcases List.mem_cons.mp hp' with rfl | hp
    · rw [hatSelf]
      exact Nat.lt_succ_self _
    · rw [hat p hp]
      exact Nat.lt_succ_of_lt (h.added p hp)
  · intro hvalid
    simp only at hvalid ⊢
    rw [hadd.rest.1] at hvalid
    have hcons := h.conserved hvalid
    have hlen : t.allocList.length = s.tracker.allocList.length + 1 := by simp [halloc, halloc', Nat.add_assoc]
    rcases hadd.pool with ⟨hfree, -, hmax⟩ | ⟨hfree, hfree', -, -, hmax⟩
    · rw [hfree, List.length_cons] at hcons
      omega
    · rw [hfree, List.length_nil] at hcons
      rw [hfree', List.length_nil]
      omega
  · exact hadd.rest.2.trans h.asserts
  · intro hcleaned pts
    simp only at hcleaned ⊢
    have hpending := h.pending hcleaned pts
    have hentries : s.tracker.entries = before.map s.tracker.node ++ after.map s.tracker.node := by
      rw [NodeTracker.entries, halloc, List.map_append]
    rw [List.filter_append, ← hpending, hentries, NodeTracker.entries_of_split halloc', hself,
      List.map_congr_left fun p hp => hnode p (hb hp), List.map_congr_left fun p hp => hnode p (ha hp)]
    by_cases hpts : (TrackerNode.ofHeader pHeader).pts = pts
    · -- no entry behind the new one has its PTS
      have hnone : (after.map s.tracker.node).filter (·.pts = pts) = [] := by
        rw [List.filter_eq_nil_iff]
        intro n hn
        obtain ⟨p, hp, rfl⟩ := List.mem_map.mp hn
        have hlt : (TrackerNode.ofHeader pHeader).pts < (s.tracker.node p).pts := hafter p hp
        simpa [← hpts] using hlt.ne'
      simp [List.filter_append, hpts, hnone]
    · simp [List.filter_append, hpts]

theorem Inv.move {t : NodeTracker} {pending : List TrackerNode} {cleaned : Bool} (h : s.Inv)
    (hsub : t.allocList.Sublist s.tracker.allocList)
    (hperm : (t.allocList ++ t.freeList).Perm (s.tracker.allocList ++ s.tracker.freeList))
    (hrest : t = { s.tracker with allocList := t.allocList, freeList := t.freeList })
    (hpending : cleaned = false → ∀ pts, t.entries.filter (·.pts = pts) = pending.filter (·.pts = pts)) :
    Inv { s with tracker := t, calls := s.calls + 1, pending, cleaned } := by
  have hnode : t.node = s.tracker.node := by rw [hrest]
  have hmax : t.maxAllocated = s.tracker.maxAllocated := by rw [hrest]
  have hvalid : t.valid = s.tracker.valid := by rw [hrest]
  have hasserts : t.asserts = s.tracker.asserts := by rw [hrest]
  constructor
  · exact h.wellFormed.move hsub hperm hnode (by rw [hrest])
  · simp only
    rw [hnode]
    exact h.order.sublist hsub
  · exact fun p hp => Nat.lt_succ_of_lt (h.added p (hsub.subset hp))
  · intro hv
    have hlen := hperm.length_eq
    rw [List.length_append, List.length_append] at hlen
    simp only at hv ⊢
    rw [hlen, hmax]
    exact h.conserved (hvalid ▸ hv)
  · exact hasserts.trans h.asserts
  · exact hpending

theorem Inv.remove {pts : Nat} {before after : List NodeId} {pNode : NodeId} (h : s.Inv)
    (halloc : s.tracker.allocList = before ++ pNode :: after) (hbefore : ∀ q ∈ before, (s.tracker.node q).pts ≠ pts)
    (hp : (s.tracker.node pNode).pts = pts) : ∃ s', s.step (.remove pts) = some s' ∧ s'.Inv := by
  have hnodup := h.wellFormed.nodup_alloc
  refine ⟨_, by rw [step, NodeTracker.remove_of_split halloc hnodup hbefore hp, Option.map_some], ?_⟩
  refine h.move ?_ (NodeTracker.evicted_perm halloc hnodup) rfl ?_
  · rw [halloc]
    exact (dropFirst_sublist _ _).trans (List.sublist_append_right [pNode] after |>.append_left before)
  · intro hcleaned
    obtain ⟨hcleaned, hout⟩ : s.cleaned = false ∧ s.tracker.evicted pNode before.length = [] := by
      simpa [Bool.or_eq_false_iff] using hcleaned
    have hnot : pNode ∉ before := by
      rw [halloc] at hnodup
      exact fun hmem => (List.nodup_append.mp hnodup).2.2 pNode hmem pNode List.mem_cons_self rfl
    rw [NodeTracker.evicted, halloc, Queue.erase_of_split hnot] at hout
    have hentries : (s.tracker.entries.eraseP (·.pts = pts)) = (before ++ after).map s.tracker.node := by
      rw [NodeTracker.entries_of_split halloc, List.eraseP_append_right _ (by simpa using hbefore),
        List.eraseP_cons_of_pos (by simpa using hp), List.map_append]
    intro q
    simp only [NodeTracker.entries]
    rw [dropFirst_eq_self hout, ← hentries]
    exact @filter_eraseP_congr _ _ _ TrackerNode.pts _ _ (h.pending hcleaned) pts q

theorem Inv.step (h : s.Inv) (call : TrackerCall) : ∃ s', s.step call = some s' ∧ s'.Inv := by
  cases call with
  | add pHeader new =>
    obtain ⟨hadd, -, -⟩ | ⟨t, hadd, hadded⟩ := h.wellFormed.add_cases pHeader new
    · refine ⟨_, by rw [TrackerRun.step, hadd], ?_⟩
      exact h.move (List.Sublist.refl _) (List.Perm.refl _) rfl h.pending
    · exact ⟨_, by rw [TrackerRun.step, hadd], h.add hadded⟩
  | remove pts =>
    obtain hnone | ⟨before, pNode, after, halloc, hbefore, hp⟩ := NodeTracker.remove_cases s.tracker pts
    · refine ⟨_, by rw [TrackerRun.step, NodeTracker.remove_of_not_mem hnone, Option.map_some], ?_⟩
      refine h.move (List.Sublist.refl _) (List.Perm.refl _) rfl fun hcleaned q => ?_
      have hentries : s.tracker.entries.eraseP (·.pts = pts) = s.tracker.entries :=
        List.eraseP_of_forall_not (by simpa [NodeTracker.entries] using hnone)
      have hcleaned : s.cleaned = false := by simpa using hcleaned
      rw [← hentries]
      exact @filter_eraseP_congr _ _ _ TrackerNode.pts _ _ (h.pending hcleaned) pts q
    · exact h.remove halloc hbefore hp
  | flush =>
    refine ⟨_, rfl, ?_⟩
    rw [NodeTracker.flush_eq]
    refine h.move (List.nil_sublist _) ?_ rfl fun _ _ => rfl
    rw [List.nil_append]
    exact List.perm_append_comm

theorem Inv.foldlM : ∀ (calls : List TrackerCall) {s : TrackerRun}, s.Inv →
    ∃ s', calls.foldlM TrackerRun.step s = some s' ∧ s'.Inv
  | [], s, h => ⟨s, rfl, h⟩
  | call :: calls, s, h => by
    obtain ⟨s₁, hs₁, h₁⟩ := h.step call
    obtain ⟨s', hs', h'⟩ := foldlM calls h₁
    exact ⟨s', by rw [List.foldlM_cons, hs₁, Option.bind_eq_bind, Option.bind_some, hs'], h'⟩

/-- What `Remove` answers when no clean-up took out a node: it finds an entry exactly when one is pending, and returns the
    earliest of them. -/
theorem Inv.remove_answer (h : s.Inv) (hcleaned : s.cleaned = false) (pts : Nat) : ∃ r, s.tracker.remove pts = some r ∧
    (r.found = true ↔ ∃ n ∈ s.pending, n.pts = pts) ∧
    ∀ n, s.pending.find? (·.pts = pts) = some n → r.nTimeStamp = n.ticks ∧ r.nFlags = n.flags := by
  have hpending := h.pending hcleaned pts
  obtain hnone | ⟨before, pNode, after, halloc, hbefore, hp⟩ := NodeTracker.remove_cases s.tracker pts
  · have hempty : s.pending.filter (·.pts = pts) = [] := by
      rw [← hpending, List.filter_eq_nil_iff]
      intro n hn
      obtain ⟨p, hp, rfl⟩ := List.mem_map.mp hn
      simpa using hnone p hp
    have hno : ∀ n ∈ s.pending, n.pts ≠ pts := by simpa [List.filter_eq_nil_iff] using hempty
    refine ⟨_, NodeTracker.remove_of_not_mem hnone, by simpa using hno, fun n hn => ?_⟩
    have hpts : decide (n.pts = pts) = true := List.find?_some (p := fun n : TrackerNode => decide (n.pts = pts)) hn
    exact absurd (of_decide_eq_true hpts) (hno n (List.mem_of_find?_eq_some hn))
  · have hhead : (s.pending.filter (·.pts = pts)).head? = some (s.tracker.node pNode) := by
      rw [← hpending, NodeTracker.entries_of_split halloc, List.filter_append,
        List.filter_eq_nil_iff.mpr (by simpa using hbefore), List.nil_append, List.filter_cons_of_pos (by simpa using hp)]
      rfl
    rw [List.head?_filter] at hhead
    refine ⟨_, NodeTracker.remove_of_split halloc h.wellFormed.nodup_alloc hbefore hp, ?_, fun n hn => ?_⟩
    · refine iff_of_true rfl ⟨_, List.mem_of_find?_eq_some hhead, hp⟩
    · rw [hhead] at hn
      cases hn
      exact ⟨rfl, rfl⟩

/-- Every list of calls returns. Then the list of the allocated nodes is sorted by the 32-bit PTS, and by the order of `Add`
    where the PTS is the same; all nodes are in one of the two lists; no scan ran off the list; and as long as no clean-up took
    out a node, `Remove` finds exactly the entries that were added and not removed, the earliest one first. -/
theorem tracker_correct (news : List Bool) (calls : List TrackerCall) : ∃ s, run news calls = some s ∧
    (s.tracker.allocList.Pairwise fun p q => (s.tracker.node p).pts ≤ (s.tracker.node q).pts) ∧
    (∀ p ∈ s.tracker.allocList, (s.tracker.node p).pts < u32) ∧
    (s.tracker.allocList.Pairwise fun p q =>
      (s.tracker.node p).pts = (s.tracker.node q).pts → s.addedAt p < s.addedAt q) ∧
    (s.tracker.valid = true →
      s.tracker.allocList.length + s.tracker.freeList.length = s.tracker.maxAllocated) ∧
    (s.tracker.allocList ++ s.tracker.freeList).Nodup ∧
    s.tracker.asserts = 0 ∧
    (s.cleaned = false → ∀ pts, ∃ r, s.tracker.remove pts = some r ∧
      (r.found = true ↔ ∃ n ∈ s.pending, n.pts = pts) ∧
      ∀ n, s.pending.find? (·.pts = pts) = some n → r.nTimeStamp = n.ticks ∧ r.nFlags = n.flags) := by
  obtain ⟨s, hrun, h⟩ := (Inv.start news).foldlM calls
  refine ⟨s, hrun, h.wellFormed.sorted, fun p hp => ?_, h.order, h.conserved, h.wellFormed.nodup, h.asserts, h.remove_answer⟩
  rw [h.wellFormed.pts p hp]
  exact tickToPts_lt _

end TrackerRun

namespace NodeTracker
variable {s : NodeTracker} {before after : List NodeId} {pNode : NodeId} {pts : Nat}

/-! ### The clean-up -/

theorem mem_evicted {miss : Nat} {p : NodeId} (h : p ∈ s.evicted pNode miss) :
    p ∈ s.allocList.erase pNode ∧ (s.node p).ticks ≠ 0 ∧ (s.node p).ticks < (s.node pNode).ticks := by
  have hp := List.mem_filter.mp (List.mem_of_mem_take h)
  exact ⟨hp.1, of_decide_eq_true hp.2⟩

theorem length_evicted_le (hmiss : buftrCleanupThreshold < before.length) :
    (s.evicted pNode before.length).length + (buftrCleanupKeep - 1) ≤ before.length := by
  have hlen : (s.evicted pNode before.length).length ≤ evictions before.length := by
    rw [evicted, List.length_take]
    exact Nat.min_le_left _ _
  rw [evictions, if_pos hmiss] at hlen
  unfold buftrCleanupKeep at *
  unfold buftrCleanupThreshold at hmiss
  omega

/-- A clean-up behind more than `BUFTR_CLEANUP_THRESHOLD` misses: the loop ends; what it takes out has no greater PTS than
    the match and ticks other than 0; all other nodes stay, at least `BUFTR_CLEANUP_KEEP - 1` of them before the match;
    the nodes taken out are the first of those that are earlier than the match, so that no such node that stays has a
    smaller PTS; and the ticks and flags are those of the match. -/
theorem remove_cleanup (h : s.WellFormed)
    (hticks : ∀ p ∈ s.allocList, 0 ≤ (s.node p).ticks ∧ (s.node p).ticks / 1000 * 45 < u32)
    (halloc : s.allocList = before ++ pNode :: after) (hbefore : ∀ q ∈ before, (s.node q).pts ≠ pts)
    (hp : (s.node pNode).pts = pts) (hmiss : buftrCleanupThreshold < before.length) :
    ∃ r, s.remove pts = some r ∧ r.found = true ∧ r.nTimeStamp = (s.node pNode).ticks ∧ r.nFlags = (s.node pNode).flags ∧
      (∀ q ∈ r.discarded, (s.node q).pts ≤ pts ∧ (s.node q).ticks ≠ 0) ∧
      (∀ q, q ∈ r.tracker.allocList ↔ q ∈ before ++ after ∧ q ∉ r.discarded) ∧
      buftrCleanupKeep - 1 ≤ (before.filter (· ∈ r.tracker.allocList)).length ∧
      r.discarded <+: (before ++ after).filter (fun q => (s.node q).ticks ≠ 0 ∧ (s.node q).ticks < (s.node pNode).ticks) ∧
      (∀ q ∈ r.discarded, ∀ q' ∈ r.tracker.allocList, (s.node q').ticks ≠ 0 → (s.node q').ticks < (s.node pNode).ticks →
        (s.node q).pts ≤ (s.node q').pts) ∧
      r.tracker.allocList.Sublist s.allocList ∧ r.tracker.freeList = s.freeList ++ pNode :: r.discarded ∧
      r.tracker.node = s.node := by
  have hnodup := h.nodup_alloc
  have hnot : pNode ∉ before := by
    rw [halloc] at hnodup
    exact fun hmem => (List.nodup_append.mp hnodup).2.2 pNode hmem pNode List.mem_cons_self rfl
  have herase : s.allocList.erase pNode = before ++ after := by rw [halloc, Queue.erase_of_split hnot]
  have hnodup' : (before ++ after).Nodup := herase ▸ hnodup.erase pNode
  have hmem : ∀ q, q ∈ dropFirst (s.stale (s.node pNode).ticks) (evictions before.length) (before ++ after) ↔
      q ∈ before ++ after ∧ q ∉ s.evicted pNode before.length := by
    intro q
    rw [mem_dropFirst_iff hnodup', evicted, herase]
  have hsub : (before ++ after).Sublist s.allocList := herase ▸ List.erase_sublist
  refine ⟨_, remove_of_split halloc hnodup hbefore hp, rfl, rfl, rfl, fun q hq => ?_, hmem, ?_, ?_, ?_, ?_, rfl, rfl⟩
  · obtain ⟨hq, hne, hlt⟩ := mem_evicted hq
    refine ⟨?_, hne⟩
    have hqalloc := List.mem_of_mem_erase hq
    have hpalloc : pNode ∈ s.allocList := by simp [halloc]
    rw [← hp, h.pts q hqalloc, h.pts pNode hpalloc]
    exact tickToPts_mono (Int.le_of_lt hlt) (hticks pNode hpalloc).2
  · have hleft : before.filter (· ∈ dropFirst (s.stale (s.node pNode).ticks) (evictions before.length) (before ++ after)) =
        before.filter (· ∉ s.evicted pNode before.length) := by
      refine List.filter_congr fun q hq => decide_eq_decide.mpr ?_
      rw [hmem]
      exact and_iff_right (List.mem_append_left _ hq)
    have hcount := @length_le_filter_add _ before _ (s.evicted pNode before.length) (List.nodup_append.mp hnodup').1
    have hfew := @length_evicted_le s before pNode hmiss
    simp only
    rw [hleft]
    omega
  · rw [evicted, herase]
    exact List.take_prefix _ _
  · intro q hq q' hq' hne hlt
    obtain ⟨hq'mem, hq'out⟩ := (hmem q').mp hq'
    -- the first stale nodes went, and the list is sorted
    have hsorted := (h.sorted.sublist hsub).filter (s.stale (s.node pNode).ticks)
    rw [← List.take_append_drop (evictions before.length) ((before ++ after).filter _)] at hsorted
    refine (List.pairwise_append.mp hsorted).2.2 q ?_ q' ?_
    · rwa [evicted, herase] at hq
    · rw [evicted, herase] at hq'out
      have hstale : q' ∈ (before ++ after).filter (s.stale (s.node pNode).ticks) :=
        List.mem_filter.mpr ⟨hq'mem, decide_eq_true ⟨hne, hlt⟩⟩
      rw [← List.take_append_drop (evictions before.length) ((before ++ after).filter _)] at hstale
      exact (List.mem_append.mp hstale).resolve_left hq'out
  · exact (dropFirst_sublist _ _).trans hsub

/-- A tracker with a frame in each of the first milliseconds. -/
def stalled (frames : Nat) : NodeTracker :=
  { allocList := List.range frames
    node := fun p => { ticks := (1000 * (p + 1) : Nat), flags := {}, pts := 45 * (p + 1) }
    maxAllocated := frames
    heap := frames }

theorem stalled_allocList (n : Nat) : (stalled (n + 1)).allocList = List.range n ++ [n] := List.range_succ

theorem stalled_wellFormed {frames : Nat} (h : frames ≤ 90000000) : (stalled frames).WellFormed where
  nodup := by
    rw [stalled, List.append_nil]
    exact List.nodup_range
  fresh p hp := by
    rw [stalled, List.append_nil] at hp
    exact List.mem_range.mp hp
  sorted := List.pairwise_lt_range.imp fun hxy => Nat.mul_le_mul_left 45 (Nat.succ_le_succ (Nat.le_of_lt hxy))
  pts p hp := by
    have hlt := List.mem_range.mp hp
    have hsecond : 1000 * (p + 1) / 1000 = p + 1 := Nat.mul_div_cancel_left _ (by decide)
    change 45 * (p + 1) = tickToPts (1000 * (p + 1) : Nat)
    rw [tickToPts_natCast (by unfold u32; omega), hsecond, Nat.mul_comm]

theorem stalled_ticks {frames : Nat} (h : frames ≤ 90000000) : ∀ p ∈ (stalled frames).allocList,
    0 ≤ ((stalled frames).node p).ticks ∧ ((stalled frames).node p).ticks / 1000 * 45 < u32 := by
  intro p hp
  have hlt := List.mem_range.mp hp
  change (0 : Int) ≤ (1000 * (p + 1) : Nat) ∧ ((1000 * (p + 1) : Nat) : Int) / 1000 * 45 < (4294967296 : Nat)
  omega

theorem remove_cleanup_stalled : ∃ r, (stalled (301 + 1)).remove (45 * (301 + 1)) = some r ∧ r.found = true ∧
    buftrCleanupKeep - 1 ≤ ((List.range 301).filter (· ∈ r.tracker.allocList)).length := by
  obtain ⟨r, hr, hfound, -, -, -, -, hkeep, -⟩ := @remove_cleanup (stalled (301 + 1)) _ _ 301 _
    (stalled_wellFormed (by decide)) (stalled_ticks (by decide)) (stalled_allocList 301)
    (by
      intro q hq heq
      have hlt := List.mem_range.mp hq
      exact absurd (Nat.mul_left_cancel (by decide) heq) (by omega))
    rfl (by rw [List.length_range]; decide)
  exact ⟨r, hr, hfound, hkeep⟩

end NodeTracker
end BcmPlatform.Bomx
