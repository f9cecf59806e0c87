import BcmPlatform.Theorems.EosDelivery

/-! Pushing a frame back into the tracker. When a frame resets the output port, `PollDecodedFrames` has taken its entry from
    the tracker already, and adds one with the header of the output buffer. -/

namespace BcmPlatform.Bomx

/-- The entry with another end-of-stream flag. -/
def TrackerNode.setEos (eos : Bool) (n : TrackerNode) : TrackerNode := { n with flags := { n.flags with eos } }

namespace BufferTracker
variable {t a c : BufferTracker} {n m : TrackerNode} {pts : Nat}

/-! ### The order of the tracker -/

/-- The trackers that calls of `Add`, `Remove` and `Flush` make. -/
inductive Reachable : BufferTracker → Prop where
  | empty : Reachable []
  | add {t : BufferTracker} (h : BufferHeader) : Reachable t → Reachable (t.add h).1
  | remove {t : BufferTracker} (pts : Nat) : Reachable t → Reachable (t.remove pts).1
  | flush {t : BufferTracker} : Reachable t → Reachable []

/-- The entries are in the order of their PTS, and each has the PTS of its ticks. -/
structure Ordered (t : BufferTracker) : Prop where
  sorted : t.Pairwise fun n m => n.pts ≤ m.pts
  pts : ∀ n ∈ t, n.pts = tickToPts n.ticks

theorem Ordered.of_sublist {t' : BufferTracker} (h : Ordered t) (hsub : t'.Sublist t) : Ordered t' :=
  ⟨h.sorted.sublist hsub, fun n hn => h.pts n (hsub.subset hn)⟩

theorem Ordered.split (h : Ordered t) (p : Nat → Prop) [DecidablePred p] (hp : ∀ x y, x ≤ y → p y → p x) :
    ∃ a c, t = a ++ c ∧ (∀ x ∈ a, p x.pts) ∧ ∀ x ∈ c, ¬ p x.pts := by
  obtain ⟨hsorted, -⟩ := h
  induction t with
  | nil => exact ⟨[], [], rfl, by simp, by simp⟩
  | cons n t ih =>
    obtain ⟨hn, ht⟩ := List.pairwise_cons.mp hsorted
    by_cases hpn : p n.pts
    · obtain ⟨a, c, rfl, ha, hc⟩ := ih ht
      exact ⟨n :: a, c, rfl, List.forall_mem_cons.mpr ⟨hpn, ha⟩, hc⟩
    · exact ⟨[], n :: t, rfl, by simp, List.forall_mem_cons.mpr ⟨hpn, fun x hx hpx => hpn (hp _ _ (hn x hx) hpx)⟩⟩

theorem insert_of_split (ha : ∀ x ∈ a, x.pts ≤ n.pts) (hc : ∀ x ∈ c, n.pts < x.pts) :
    insert (a ++ c) n = a ++ n :: c := by
  rcases List.eq_nil_or_concat c with rfl | ⟨c', last, rfl⟩
  · rcases List.eq_nil_or_concat a with rfl | ⟨a', first, rfl⟩
    · rfl
    · have hle := ha first (by simp)
      simp [insert, List.concat_eq_append, hle]
  · have hlt := hc last (by simp)
    have hlast : (a ++ c'.concat last).getLast? = some last := by simp [List.concat_eq_append]
    rcases List.eq_nil_or_concat a with rfl | ⟨a', before, rfl⟩
    · obtain ⟨first, c, hcons⟩ := List.exists_cons_of_ne_nil (show c'.concat last ≠ [] by simp)
      have hfirst := hc first (by rw [hcons]; exact List.mem_cons_self)
      rw [List.nil_append, List.nil_append] at *
      rw [insert, hlast, hcons]
      simp only [List.head?_cons]
      rw [if_neg (Nat.not_le_of_lt hlt), if_pos hfirst]
    · -- the scan backward passes over the later entries
      obtain ⟨first, a, hcons⟩ := List.exists_cons_of_ne_nil (show a'.concat before ≠ [] by simp)
      have hfirst := ha first (by rw [hcons]; exact List.mem_cons_self)
      have hbefore := ha before (by simp)
      have hhead : (a'.concat before ++ c'.concat last).head? = some first := by rw [hcons]; rfl
      have hscan : ((a'.concat before ++ c'.concat last).reverse.takeWhile (·.pts > n.pts)).length =
          (c'.concat last).length := by
        rw [List.reverse_append, List.takeWhile_append_of_pos (by
          intro x hx
          exact decide_eq_true (hc x (List.mem_reverse.mp hx)))]
        simp [List.concat_eq_append, Nat.not_lt.mpr hbefore]
      rw [insert, hlast, hhead]
      simp only
      rw [if_neg (Nat.not_le_of_lt hlt), if_neg (Nat.not_lt.mpr hfirst), hscan, List.length_append, Nat.add_sub_cancel,
        List.take_left', List.drop_left']
      · rfl
      · rfl

theorem Ordered.insert (h : Ordered t) (hn : n.pts = tickToPts n.ticks) : Ordered (t.insert n) := by
  obtain ⟨a, c, rfl, ha, hc⟩ := h.split (· ≤ n.pts) fun _ _ => Nat.le_trans
  obtain ⟨hsorta, hsortc, hac⟩ := List.pairwise_append.mp h.sorted
  have hlater : ∀ x ∈ c, n.pts < x.pts := fun x hx => Nat.lt_of_not_le (hc x hx)
  rw [insert_of_split ha hlater]
  constructor
  · refine List.pairwise_append.mpr ⟨hsorta, List.pairwise_cons.mpr ⟨fun x hx => (hlater x hx).le, hsortc⟩, ?_⟩
    intro x hx y hy
    rcases List.mem_cons.mp hy with rfl | hy
    · exact ha x hx
    · exact hac x hx y hy
  · intro x hx
    rcases List.mem_append.mp hx with hx | hx
    · exact h.pts x (List.mem_append_left _ hx)
    · rcases List.mem_cons.mp hx with rfl | hx
      · exact hn
      · exact h.pts x (List.mem_append_right _ hx)

theorem remove_sublist_self (t : BufferTracker) (pts : Nat) : (t.remove pts).1.Sublist t :=
  (remove_sublist t pts).trans List.eraseP_sublist

theorem Reachable.ordered (h : Reachable t) : Ordered t := by
  induction h with
  | empty | flush => exact ⟨List.Pairwise.nil, by simp⟩
  | add h _ ih => exact ih.insert rfl
  | remove pts _ ih => exact ih.of_sublist (remove_sublist_self _ pts)

/-! ### What `Remove` takes out -/

theorem remove_of_split (ha : ∀ x ∈ a, x.pts ≠ pts) (hn : n.pts = pts) :
    remove (a ++ n :: c) pts = (if 300 < a.length then cleanup n.ticks (a ++ c) a.length else a ++ c, n.ticks, n.flags) := by
  have hidx : (a ++ n :: c).findIdx? (·.pts = pts) = some a.length := by
    have hnone : a.findIdx? (·.pts = pts) = none := by
      rw [List.findIdx?_eq_none_iff]
      exact fun x hx => decide_eq_false (ha x hx)
    rw [List.findIdx?_append, hnone, List.findIdx?_cons, decide_eq_true hn]
    simp
  have hget : (a ++ n :: c)[a.length]? = some n := by simp
  have herase : (a ++ n :: c).eraseIdx a.length = a ++ c := by simp [List.eraseIdx_append_of_length_le]
  simp only [remove, hidx, hget, herase]

theorem remove_of_not_mem (h : ∀ x ∈ t, x.pts ≠ pts) : t.remove pts = (t, ptsToTick pts, {}) := by
  have hnone : t.findIdx? (·.pts = pts) = none := by
    rw [List.findIdx?_eq_none_iff]
    exact fun x hx => decide_eq_false (h x hx)
  simp only [remove, hnone]

theorem cleanup_eq_self_iff {ticks : Ticks} {miss : Nat} (hmiss : 30 ≤ miss) :
    cleanup ticks t miss = t ↔ ∀ x ∈ t, x.ticks ≠ 0 → ticks ≤ x.ticks := by
  induction t with
  | nil => simp [cleanup]
  | cons n t ih =>
    rw [cleanup, if_pos hmiss, List.forall_mem_cons]
    by_cases hstale : n.ticks ≠ 0 ∧ n.ticks < ticks
    · rw [if_pos hstale]
      constructor
      · intro h
        have hle := (cleanup_sublist ticks t (miss - 1)).length_le
        rw [h, List.length_cons] at hle
        omega
      · intro h
        exact absurd hstale.2 (Int.not_lt.mpr (h.1 hstale.1))
    · rw [if_neg hstale, List.cons.injEq, ih]
      simp only [true_and]
      refine ⟨fun h => ⟨fun hne => ?_, h⟩, fun h => h.2⟩
      exact Int.not_lt.mp fun hlt => hstale ⟨hne, hlt⟩

theorem cleanup_length_lt {ticks : Ticks} {miss : Nat} (h : cleanup ticks t miss ≠ t) :
    (cleanup ticks t miss).length < t.length :=
  Nat.lt_of_le_of_ne (cleanup_sublist ticks t miss).length_le fun hlen =>
    h ((cleanup_sublist ticks t miss).eq_of_length hlen)

theorem Ordered.split_at (h : Ordered t) (pts : Nat) : (∀ x ∈ t, x.pts ≠ pts) ∨
    ∃ a n same c, t = a ++ n :: (same ++ c) ∧ (∀ x ∈ a, x.pts < pts) ∧ n.pts = pts ∧ (∀ x ∈ same, x.pts = pts) ∧
      ∀ x ∈ c, pts < x.pts := by
  obtain ⟨le, c, rfl, hle, hc⟩ := h.split (· ≤ pts) fun _ _ => Nat.le_trans
  have hlater : ∀ x ∈ c, pts < x.pts := fun x hx => Nat.lt_of_not_le (hc x hx)
  obtain ⟨a, eq, rfl, ha, heq⟩ := (h.of_sublist (List.sublist_append_left le c)).split (· < pts) fun _ _ => Nat.lt_of_le_of_lt
  have hsame : ∀ x ∈ eq, x.pts = pts := fun x hx =>
    Nat.le_antisymm (hle x (List.mem_append_right _ hx)) (Nat.le_of_not_lt (heq x hx))
  cases eq with
  | nil =>
    refine .inl fun x hx => ?_
    rcases List.mem_append.mp hx with hx | hx
    · exact (ha x (by simpa using hx)).ne
    · exact (hlater x hx).ne'
  | cons n same =>
    obtain ⟨hn, hsame⟩ := List.forall_mem_cons.mp hsame
    exact .inr ⟨a, n, same, c, by simp, ha, hn, hsame, hlater⟩

/-- When an entry with this PTS that is taken out and pushed back leaves the tracker as it was: there is one, taking it
    out cleans up nothing, and if there is another one behind it, that one has the same ticks and, on the last frame,
    the end-of-stream flag that the first one gets. -/
def KeptByPushBack (pts : Nat) (eosReceived : Bool) (t : BufferTracker) : Prop :=
  ∃ n rest, t.filter (·.pts = pts) = n :: rest ∧
    (300 < t.findIdx (·.pts = pts) → ∀ x ∈ t, x.ticks ≠ 0 → n.ticks ≤ x.ticks) ∧
    ∀ m ∈ rest.head?, m.ticks = n.ticks ∧ (t.last n.ticks = true → m.flags.eos = (n.flags.eos || eosReceived))

theorem not_keptByPushBack_of_not_mem {eosReceived : Bool} (h : ∀ x ∈ t, x.pts ≠ pts) : ¬ KeptByPushBack pts eosReceived t := by
  rintro ⟨n, rest, hfilter, -⟩
  have hn : n ∈ t.filter (·.pts = pts) := by rw [hfilter]; exact List.mem_cons_self
  obtain ⟨hmem, hpts⟩ := List.mem_filter.mp hn
  exact h n hmem (of_decide_eq_true hpts)

theorem keptByPushBack_iff_of_split {same : BufferTracker} (eosReceived : Bool) (ha : ∀ x ∈ a, x.pts < pts)
    (hn : n.pts = pts) (hsame : ∀ x ∈ same, x.pts = pts) (hc : ∀ x ∈ c, pts < x.pts) :
    KeptByPushBack pts eosReceived (a ++ n :: (same ++ c)) ↔
      (300 < a.length → ∀ x ∈ a ++ (same ++ c), x.ticks ≠ 0 → n.ticks ≤ x.ticks) ∧
      ∀ m ∈ same.head?, m.ticks = n.ticks ∧
        ((a ++ (same ++ c)).last n.ticks = true → m.flags.eos = (n.flags.eos || eosReceived)) := by
  have hfilter : (a ++ n :: (same ++ c)).filter (·.pts = pts) = n :: same := by
    have hanone : a.filter (·.pts = pts) = [] := List.filter_eq_nil_iff.mpr fun x hx => by simpa using (ha x hx).ne
    have hcnone : c.filter (·.pts = pts) = [] := List.filter_eq_nil_iff.mpr fun x hx => by simpa using (hc x hx).ne'
    have hall : same.filter (·.pts = pts) = same := List.filter_eq_self.mpr fun x hx => decide_eq_true (hsame x hx)
    simp only [List.filter_append, List.filter_cons, hn, decide_true, if_true, hanone, hcnone, hall, List.nil_append,
      List.append_nil]
  have hidx : (a ++ n :: (same ++ c)).findIdx (·.pts = pts) = a.length := by
    rw [List.findIdx_append, List.findIdx_eq_length_of_false fun x hx => decide_eq_false (ha x hx).ne, if_neg (by simp),
      List.findIdx_cons, decide_eq_true hn]
    simp
  have hlast : (a ++ n :: (same ++ c)).last n.ticks = (a ++ (same ++ c)).last n.ticks := by
    simp [BufferTracker.last]
  have hall : (∀ x ∈ a ++ n :: (same ++ c), x.ticks ≠ 0 → n.ticks ≤ x.ticks) ↔
      ∀ x ∈ a ++ (same ++ c), x.ticks ≠ 0 → n.ticks ≤ x.ticks := by
    rw [List.forall_mem_append, List.forall_mem_append, List.forall_mem_cons, and_iff_right fun _ => Int.le_refl _]
  rw [KeptByPushBack, hfilter, hidx, ← hall, ← hlast]
  constructor
  · rintro ⟨n', rest, heq, hclean, hnext⟩
    cases heq
    exact ⟨hclean, hnext⟩
  · rintro ⟨hclean, hnext⟩
    exact ⟨n, same, rfl, hclean, hnext⟩

end BufferTracker

/-! ### The end of the stream -/

theorem endMark_eq (flag last received : Bool) :
    endMark flag last received = (!last && (flag || received), last && (flag || received)) := by
  cases flag <;> cases last <;> cases received <;> rfl

namespace StreamEnd
open BufferTracker
variable {e : StreamEnd} {status : FrameStatus}

/-- Taking the entry of a frame out and pushing it back changes nothing: one entry may have another end-of-stream flag,
    if that is received instead, and the next time the frame gets the same ticks and the same end-of-stream flag. -/
structure Neutral (status : FrameStatus) (e e' : StreamEnd) : Prop where
  entries : ∃ n n' rest, e.tracker.Perm (n :: rest) ∧ e'.tracker.Perm (n' :: rest) ∧
    n' = n.setEos n'.flags.eos ∧ (n'.flags.eos || e'.received) = (n.flags.eos || e.received)
  pending : e'.pending = e.pending
  delivered : e'.delivered = e.delivered
  ticks : (e'.tracker.remove status.pts).2.1 = (e.tracker.remove status.pts).2.1
  carried : (e'.mark status).2 = (e.mark status).2

theorem Neutral.length {e' : StreamEnd} (h : Neutral status e e') : e'.tracker.length = e.tracker.length := by
  obtain ⟨n, n', rest, hperm, hperm', -⟩ := h.entries
  rw [hperm.length_eq, hperm'.length_eq]
  rfl

theorem not_neutral_of_not_mem (h : ∀ x ∈ e.tracker, x.pts ≠ status.pts) : ¬ Neutral status e (e.pushBack status) := by
  intro hneutral
  have hlength := hneutral.length
  simp only [pushBack, removed, remove_of_not_mem h] at hlength
  rw [(insert_perm _ _).length_eq, List.length_cons] at hlength
  omega

section
variable {a same c : BufferTracker} {n : TrackerNode}

theorem pushBack_of_split (h : Ordered e.tracker) (hsplit : e.tracker = a ++ n :: (same ++ c))
    (ha : ∀ x ∈ a, x.pts < status.pts) (hn : n.pts = status.pts) (hsame : ∀ x ∈ same, x.pts = status.pts)
    (hc : ∀ x ∈ c, status.pts < x.pts) (hkept : 300 < a.length → ∀ x ∈ a ++ (same ++ c), x.ticks ≠ 0 → n.ticks ≤ x.ticks) :
    e.tracker.remove status.pts = (a ++ (same ++ c), n.ticks, n.flags) ∧
    (e.pushBack status).tracker = (a ++ same) ++ n.setEos (e.mark status).2 :: c := by
  have hremove : e.tracker.remove status.pts = (a ++ (same ++ c), n.ticks, n.flags) := by
    rw [hsplit, remove_of_split (fun x hx => (ha x hx).ne) hn]
    split
    · next hlong => rw [(cleanup_eq_self_iff (by omega)).mpr (hkept hlong)]
    · rfl
  have hpts : tickToPts n.ticks = status.pts := by
    rw [← h.pts n (by rw [hsplit]; simp), hn]
  refine ⟨hremove, ?_⟩
  have hentry : (e.pushBack status).tracker = (a ++ (same ++ c)).insert (n.setEos (e.mark status).2) := by
    have hself : n.setEos (e.mark status).2 =
        { ticks := n.ticks, flags := { n.flags with eos := (e.mark status).2 }, pts := status.pts } := by rw [← hn]; rfl
    simp only [pushBack, removed, hremove, hpts, hself]
  rw [hentry, ← List.append_assoc, insert_of_split]
  · intro x hx
    have hle : x.pts ≤ status.pts := by
      rcases List.mem_append.mp hx with hx | hx
      · exact (ha x hx).le
      · exact (hsame x hx).le
    exact hn ▸ hle
  · exact hn ▸ hc

theorem carried_again (h : Ordered e.tracker) (hsplit : e.tracker = a ++ n :: ([] ++ c))
    (ha : ∀ x ∈ a, x.pts < status.pts) (hn : n.pts = status.pts) (hc : ∀ x ∈ c, status.pts < x.pts)
    (hkept : 300 < a.length → ∀ x ∈ a ++ ([] ++ c), x.ticks ≠ 0 → n.ticks ≤ x.ticks) :
    ((e.pushBack status).tracker.remove status.pts).2.1 = (e.tracker.remove status.pts).2.1 ∧
    ((e.pushBack status).mark status).2 = (e.mark status).2 := by
  obtain ⟨hremove, hback⟩ := pushBack_of_split h hsplit ha hn (fun x hx => absurd hx List.not_mem_nil) hc hkept
  have hmark : e.mark status = endMark n.flags.eos ((a ++ c).last n.ticks) e.received := by
    simp only [mark, isLast, removed, hremove, List.nil_append]
  have hagain : (e.pushBack status).tracker.remove status.pts = (a ++ c, n.ticks, (n.setEos (e.mark status).2).flags) := by
    rw [hback, List.append_nil, remove_of_split (n := n.setEos (e.mark status).2) (fun x hx => (ha x hx).ne) hn]
    split
    · next hlong => exact congrArg (·, _) ((cleanup_eq_self_iff (by omega)).mpr (hkept hlong))
    · rfl
  have hreceived : (e.pushBack status).received = (e.mark status).1 := rfl
  have hmark' : (e.pushBack status).mark status =
      endMark (e.mark status).2 ((a ++ c).last n.ticks) (e.mark status).1 := by
    simp only [mark, isLast, removed, hagain, hreceived]
    rfl
  refine ⟨by rw [hagain, hremove], ?_⟩
  rw [hmark', hmark, endMark_eq, endMark_eq]
  cases (a ++ c).last n.ticks <;> simp

theorem carried_again_iff {m : TrackerNode} (h : Ordered e.tracker) (hsplit : e.tracker = a ++ n :: (m :: same ++ c))
    (ha : ∀ x ∈ a, x.pts < status.pts) (hn : n.pts = status.pts) (hsame : ∀ x ∈ m :: same, x.pts = status.pts)
    (hc : ∀ x ∈ c, status.pts < x.pts)
    (hkept : 300 < a.length → ∀ x ∈ a ++ (m :: same ++ c), x.ticks ≠ 0 → n.ticks ≤ x.ticks) :
    (((e.pushBack status).tracker.remove status.pts).2.1 = (e.tracker.remove status.pts).2.1 ∧
      ((e.pushBack status).mark status).2 = (e.mark status).2) ↔
    m.ticks = n.ticks ∧ ((a ++ (m :: same ++ c)).last n.ticks = true → m.flags.eos = (n.flags.eos || e.received)) := by
  obtain ⟨hremove, hback⟩ := pushBack_of_split h hsplit ha hn hsame hc hkept
  have hmark : e.mark status = endMark n.flags.eos ((a ++ (m :: same ++ c)).last n.ticks) e.received := by
    simp only [mark, isLast, removed, hremove]
  have hback' : (e.pushBack status).tracker = a ++ m :: (same ++ n.setEos (e.mark status).2 :: c) := by
    rw [hback]
    simp
  have hm : m.pts = status.pts := hsame m List.mem_cons_self
  have hticks : ((e.pushBack status).tracker.remove status.pts).2 = (m.ticks, m.flags) := by
    rw [hback', remove_of_split (fun x hx => (ha x hx).ne) hm]
  rw [hticks, hremove]
  refine and_congr_right fun (heq : m.ticks = n.ticks) => ?_
  have hlast : ((e.pushBack status).tracker.remove status.pts).1.last n.ticks = (a ++ (m :: same ++ c)).last n.ticks := by
    have hclean : ((e.pushBack status).tracker.remove status.pts).1 = a ++ (same ++ n.setEos (e.mark status).2 :: c) := by
      rw [hback', remove_of_split (fun x hx => (ha x hx).ne) hm]
      split
      · next hlong =>
        -- the entries are those of before, but for one with the same ticks
        have hsub : ∀ x ∈ a ++ (same ++ n.setEos (e.mark status).2 :: c),
            x ∈ a ++ (m :: same ++ c) ∨ x = n.setEos (e.mark status).2 := by
          intro x hx
          simp only [List.mem_append, List.mem_cons] at hx ⊢
          rcases hx with hx | hx | hx | hx
          · exact .inl (.inl hx)
          · exact .inl (.inr (.inl (.inr hx)))
          · exact .inr hx
          · exact .inl (.inr (.inr hx))
        refine (cleanup_eq_self_iff (by omega)).mpr fun x hx hne => ?_
        rw [heq]
        rcases hsub x hx with hx | rfl
        · exact hkept hlong x hx hne
        · exact Int.le_refl _
      · rfl
    rw [hclean]
    simp [BufferTracker.last, heq, TrackerNode.setEos]
  have hreceived : (e.pushBack status).received = (e.mark status).1 := rfl
  have hmark' : (e.pushBack status).mark status =
      endMark m.flags.eos ((a ++ (m :: same ++ c)).last n.ticks) (e.mark status).1 := by
    simp only [mark, isLast, removed, hticks, hreceived]
    rw [heq, hlast]
  rw [hmark', hmark, endMark_eq, endMark_eq]
  cases (a ++ (m :: same ++ c)).last n.ticks <;> simp

theorem not_neutral_of_cleanup (hsplit : e.tracker = a ++ n :: (same ++ c)) (ha : ∀ x ∈ a, x.pts < status.pts)
    (hn : n.pts = status.pts) (hlong : 300 < a.length)
    (hstale : ¬ ∀ x ∈ a ++ (same ++ c), x.ticks ≠ 0 → n.ticks ≤ x.ticks) :
    ¬ Neutral status e (e.pushBack status) := by
  intro hneutral
  have hmiss : 30 ≤ a.length := by omega
  have hdropped := cleanup_length_lt (mt (cleanup_eq_self_iff hmiss).mp hstale)
  have hremoved : (e.tracker.remove status.pts).1 = cleanup n.ticks (a ++ (same ++ c)) a.length := by
    rw [hsplit, remove_of_split (fun x hx => (ha x hx).ne) hn, if_pos hlong]
  have hlength := hneutral.length
  simp only [pushBack, removed] at hlength
  rw [(insert_perm _ _).length_eq, List.length_cons, hremoved, hsplit, List.length_append, List.length_cons] at hlength
  rw [List.length_append] at hdropped
  omega

theorem neutral_iff_of_split (h : Ordered e.tracker) (hsplit : e.tracker = a ++ n :: (same ++ c))
    (ha : ∀ x ∈ a, x.pts < status.pts) (hn : n.pts = status.pts) (hsame : ∀ x ∈ same, x.pts = status.pts)
    (hc : ∀ x ∈ c, status.pts < x.pts) (hkept : 300 < a.length → ∀ x ∈ a ++ (same ++ c), x.ticks ≠ 0 → n.ticks ≤ x.ticks) :
    Neutral status e (e.pushBack status) ↔
      ((e.pushBack status).tracker.remove status.pts).2.1 = (e.tracker.remove status.pts).2.1 ∧
      ((e.pushBack status).mark status).2 = (e.mark status).2 := by
  obtain ⟨hremove, hback⟩ := pushBack_of_split h hsplit ha hn hsame hc hkept
  refine ⟨fun hneutral => ⟨hneutral.ticks, hneutral.carried⟩, fun hagain => ⟨?_, rfl, rfl, hagain.1, hagain.2⟩⟩
  refine ⟨n, n.setEos (e.mark status).2, a ++ (same ++ c), ?_, ?_, rfl, ?_⟩
  · rw [hsplit]
    exact List.perm_middle
  · rw [hback, ← List.append_assoc]
    exact List.perm_middle
  · have hmark : e.mark status = endMark n.flags.eos ((a ++ (same ++ c)).last n.ticks) e.received := by
      simp only [mark, isLast, removed, hremove]
    change ((e.mark status).2 || (e.mark status).1) = _
    rw [hmark, endMark_eq]
    cases (a ++ (same ++ c)).last n.ticks <;> simp

end

theorem neutral_pushBack_iff (h : Reachable e.tracker) :
    Neutral status e (e.pushBack status) ↔ KeptByPushBack status.pts e.received e.tracker := by
  rcases h.ordered.split_at status.pts with hnone | ⟨a, n, same, c, hsplit, ha, hn, hsame, hc⟩
  · exact iff_of_false (not_neutral_of_not_mem hnone) (not_keptByPushBack_of_not_mem hnone)
  · have hiff := keptByPushBack_iff_of_split e.received ha hn hsame hc
    rw [← hsplit] at hiff
    rw [hiff]
    by_cases hkept : 300 < a.length → ∀ x ∈ a ++ (same ++ c), x.ticks ≠ 0 → n.ticks ≤ x.ticks
    · rw [neutral_iff_of_split h.ordered hsplit ha hn hsame hc hkept, and_iff_right hkept]
      cases same with
      | nil => exact iff_of_true (carried_again h.ordered hsplit ha hn hc hkept) fun m hm => by cases hm
      | cons m same =>
        rw [carried_again_iff h.ordered hsplit ha hn hsame hc hkept]
        simp
    · obtain ⟨hlong, hstale⟩ := Classical.not_imp.mp hkept
      exact iff_of_false (not_neutral_of_cleanup hsplit ha hn hlong hstale) fun h => hkept h.1

end StreamEnd

namespace VideoDecoder
open BufferTracker
variable {d d' : VideoDecoder} {f : FrameBuffer} {b : BufferId} {r : PollResult}

/-- Pushing the frame back is neutral: the tracker has the entries of before, but for an end-of-stream flag of one of them
    that is in `m_eosReceived` instead, the end of the stream is pending and delivered as before, and the header that the
    frame gets next time has the same ticks and the same end-of-stream flag. -/
structure PushBackNeutral (f : FrameBuffer) (d d' : VideoDecoder) : Prop where
  entries : ∃ n n' rest, d.inp.tracker.Perm (n :: rest) ∧ d'.inp.tracker.Perm (n' :: rest) ∧
    n' = n.setEos n'.flags.eos ∧ (n'.flags.eos || d'.out.eosReceived) = (n.flags.eos || d.out.eosReceived)
  pending : d'.inp.eosPending = d.inp.eosPending
  delivered : d'.out.eosDelivered = d.out.eosDelivered
  again : ∀ b, ((d'.prepareHeader f b).out.buffer b).header.nTimeStamp = ((d.prepareHeader f b).out.buffer b).header.nTimeStamp ∧
    ((d'.prepareHeader f b).out.buffer b).header.nFlags.eos = ((d.prepareHeader f b).out.buffer b).header.nFlags.eos

theorem prepareHeader_again (b : BufferId) :
    ((d.prepareHeader f b).out.buffer b).header.nTimeStamp = (d.inp.tracker.remove f.frameStatus.pts).2.1 ∧
    ((d.prepareHeader f b).out.buffer b).header.nFlags.eos = ((d.streamEnd []).mark f.frameStatus).2 := by
  rw [prepareHeader_flags []]
  exact ⟨by simp [prepareHeader, OutputSide.setBuffer], rfl⟩

theorem pushBackNeutral_iff : PushBackNeutral f d d' ↔ StreamEnd.Neutral f.frameStatus (d.streamEnd []) (d'.streamEnd []) := by
  constructor
  · intro h
    have hagain := h.again 0
    rw [(prepareHeader_again 0).1, (prepareHeader_again 0).1, (prepareHeader_again 0).2, (prepareHeader_again 0).2] at hagain
    exact ⟨h.entries, h.pending, h.delivered, hagain.1, hagain.2⟩
  · intro h
    refine ⟨h.entries, h.pending, h.delivered, fun b => ?_⟩
    rw [(prepareHeader_again b).1, (prepareHeader_again b).1, (prepareHeader_again b).2, (prepareHeader_again b).2]
    exact ⟨h.ticks, h.carried⟩

/-- A frame that resets the port is pushed back neutrally if and only if its PTS is tracked, no entry is cleaned up, and the
    next entry with this PTS, if there is one, has the same ticks and the end-of-stream flag that the frame gets. -/
theorem deliverRound_neutral_iff (htracker : Reachable d.inp.tracker) (hpush : (d.examine f b).any (·.pushesBack f) = true) :
    PushBackNeutral f d (d.deliverRound r f b).1 ↔
      KeptByPushBack f.frameStatus.pts d.out.eosReceived d.inp.tracker := by
  obtain ⟨d', hexamine, hback⟩ := (Option.any_eq_true _ _).mp hpush
  have hround : (d.deliverRound r f b).1 = pushedBack f b d d' := by
    rcases deliverRound_cases (r := r) hexamine with ⟨-, -, heq⟩ | ⟨hno, -⟩
    · rw [heq]
    · rw [hback] at hno
      cases hno
  have hlast : f.frameStatus.lastPicture = false := by
    simp only [pushesBack, Bool.and_eq_true, Bool.not_eq_true'] at hback
    exact hback.1.1
  have hexamined : Examined [] f b d d' := by
    rcases examine_cases [] d f b with ⟨hnone, -⟩ | ⟨d'', heq, hexamined⟩
    · rw [hnone] at hexamine
      cases hexamine
    · rw [hexamine] at heq
      cases heq
      exact hexamined
  rw [pushBackNeutral_iff, hround, streamEnd_pushedBack hexamined hlast]
  exact StreamEnd.neutral_pushBack_iff (e := d.streamEnd []) htracker

/-- A decoder with these entries in its tracker. -/
def withTracker (tracker : BufferTracker) : VideoDecoder :=
  let d := init .avc .standard false smallInput smallOutput
  { d with inp := { d.inp with tracker } }

/-- A picture of 16 × 16, which the output port is not set up for. -/
def otherFormat : FrameBuffer :=
  { id := 0, state := .ready, pPrivateHandle := none, pBufferInfo := none
    frameStatus := { serialNumber := 1, pts := 1800, imageWidth := 16, imageHeight := 16 } }

/-- Two frames in the same millisecond have the same PTS. -/
def oneMillisecond : BufferTracker := ((add [] { nTimeStamp := 40000 }).1.add { nTimeStamp := 40500 }).1

/-- A PTS that is not tracked gets an entry, and of two entries with one PTS the second one is found next. -/
theorem deliverRound_not_neutral :
    (Reachable [] ∧ ((withTracker []).examine otherFormat 20).any (·.pushesBack otherFormat) = true ∧
      ((withTracker []).deliverRound {} otherFormat 20).1.inp.tracker = [{ ticks := 40000, flags := {}, pts := 1800 }] ∧
      ¬ PushBackNeutral otherFormat (withTracker []) ((withTracker []).deliverRound {} otherFormat 20).1) ∧
    Reachable oneMillisecond ∧
      ((withTracker oneMillisecond).examine otherFormat 20).any (·.pushesBack otherFormat) = true ∧
      ¬ PushBackNeutral otherFormat (withTracker oneMillisecond)
        ((withTracker oneMillisecond).deliverRound {} otherFormat 20).1 := by
  refine ⟨⟨.empty, by decide, by decide, fun h => ?_⟩, (Reachable.empty.add _).add _, by decide, fun h => ?_⟩
  · obtain ⟨n, n', rest, hperm, -⟩ := h.entries
    have hlength := hperm.length_eq
    cases hlength
  · have hticks := (h.again 20).1
    revert hticks
    decide

/-- A single entry is found again. -/
theorem deliverRound_neutral_single :
    PushBackNeutral otherFormat (withTracker (add [] { nTimeStamp := 40000 }).1)
      ((withTracker (add [] { nTimeStamp := 40000 }).1).deliverRound {} otherFormat 20).1 := by
  refine (deliverRound_neutral_iff (Reachable.empty.add _) (by decide)).mpr ⟨_, [], rfl, ?_, by simp⟩
  intro hlong
  revert hlong
  decide

end VideoDecoder
end BcmPlatform.Bomx
