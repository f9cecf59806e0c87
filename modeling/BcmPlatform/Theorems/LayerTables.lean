import BcmPlatform.Hwc.LayerTables

/-! The indices into the layer tables. The arrays have an entry for each of 11 layers and nothing bounds the list; on the
    virtual display the entry of a layer is counted when it is prepared, and is its position when it is composed. -/

namespace BcmPlatform.Hwc

/-- Every access is in bounds. -/
def InBounds (accesses : List TableAccess) : Prop := ∀ x ∈ accesses, x.inBounds

namespace InBounds
variable {accesses accesses' : List TableAccess} {t : LayerTable} {i : Nat}

theorem nil : InBounds [] := fun _ h => absurd h List.not_mem_nil

theorem cons {x : TableAccess} (hx : x.inBounds) (h : InBounds accesses) : InBounds (x :: accesses) := by
  intro y hy
  rcases List.mem_cons.mp hy with rfl | hy
  · exact hx
  · exact h y hy

theorem append (h : InBounds accesses) (h' : InBounds accesses') : InBounds (accesses ++ accesses') := by
  intro x hx
  exact (List.mem_append.mp hx).elim (h x) (h' x)

theorem ite {c : Prop} [Decidable c] (h : c → InBounds accesses) (h' : ¬ c → InBounds accesses') :
    InBounds (if c then accesses else accesses') := by
  split
  · next hc => exact h hc
  · next hc => exact h' hc

theorem single (h : i < t.size) : InBounds [⟨t, i⟩] := cons h nil

theorem flatMap {α : Type} {l : List α} {f : α → List TableAccess} (h : ∀ a ∈ l, InBounds (f a)) : InBounds (l.flatMap f) := by
  intro x hx
  obtain ⟨a, ha, hx⟩ := List.mem_flatMap.mp hx
  exact h a ha x hx

theorem at_indices {indices : List Nat} (h : ∀ i ∈ indices, i < t.size) : InBounds (t.at indices) := by
  intro x hx
  obtain ⟨i, hi, rfl⟩ := List.mem_map.mp hx
  exact h i hi

end InBounds

section Primary
variable {a : PrimaryAnswers} {layers : List PrimaryLayer} {i n : Nat} {l : PrimaryLayer}

namespace PrimaryAnswers
open InBounds

theorem nscPrepareLayer_inBounds {before : List PrimaryLayer} (hi : before.length < nscGpxClientsNumber) :
    InBounds (a.nscPrepareLayer before l) := by
  unfold nscPrepareLayer
  dsimp only
  split
  · exact ite (fun h => cons hi (single h)) fun _ => nil
  · exact ite (fun h => cons hi (single h)) fun _ => nil
  · exact ite (fun _ => single hi) fun _ => nil
  · exact ite (fun _ => single hi) fun _ => nil

theorem prepare_inBounds (hn : layers.length ≤ nscGpxClientsNumber) : InBounds (a.prepare layers) := by
  unfold prepare
  refine ite (fun _ => nil) fun _ => append (append (append (append ?_ ?_) ?_) ?_) ?_
  · exact at_indices fun i hi => List.mem_range.mp hi
  · exact at_indices fun i hi => List.mem_range.mp hi
  · refine flatMap fun p hp => ?_
    have hlt : p.2 < layers.length := List.snd_lt_of_mem_zipIdx hp |>.trans_eq (by simp)
    refine ite (fun _ => nscPrepareLayer_inBounds ?_) fun _ => single (hlt.trans_le hn)
    rw [List.length_take]
    omega
  · exact ite (fun _ => at_indices fun i hi => (List.mem_range.mp hi).trans_le hn) fun _ => nil
  · exact at_indices fun i hi => List.mem_range.mp (List.mem_filter.mp hi).1

theorem set_inBounds (hn : layers.length ≤ nscGpxClientsNumber) : InBounds (a.set layers) := by
  unfold set
  refine ite (fun _ => nil) fun _ => append (flatMap fun p hp => ?_) (ite (fun _ => single (by decide)) fun _ => nil)
  have hlt : p.2 < nscGpxClientsNumber := (List.snd_lt_of_mem_zipIdx hp |>.trans_eq (by simp)).trans_le hn
  refine append (append (cons hlt (cons hlt (single hlt))) ?_) ?_
  · exact ite (fun _ => single hlt) fun _ => nil
  · exact ite (fun _ => single hlt) fun _ => nil

theorem clearFences_inBounds (hi : i < nscGpxClientsNumber) : InBounds (a.clearFences i) := by
  refine at_indices fun j hj => ?_
  have hlt := List.mem_range.mp (List.mem_filter.mp hj).1
  exact (hlt.trans_le (Nat.min_le_left _ _)).trans hi

theorem composeLayer_inBounds (hi : i < nscGpxClientsNumber) : InBounds (a.composeLayer i l) := by
  have hvisible : InBounds (⟨.itemComp, i⟩ :: if !a.visible i then []
      else [⟨.itemSkipSet, i⟩] ++ (if a.blends i then [⟨.gpxCli, i⟩] else []) ++ [⟨.surface, i⟩, ⟨.itemComp, i⟩] ++
        (if a.skipSet i then [] else ⟨.gpxCli, i⟩ :: a.clearFences i) ++ if a.composed i then [⟨.gpxCli, i⟩] else []) := by
    refine cons hi (ite (fun _ => nil) fun _ => append (append (append (append (single hi) ?_) ?_) ?_) ?_)
    · exact ite (fun _ => single hi) fun _ => nil
    · exact cons hi (single hi)
    · exact ite (fun _ => nil) fun _ => cons hi (clearFences_inBounds hi)
    · exact ite (fun _ => single hi) fun _ => nil
  unfold composeLayer
  refine ite (fun _ => nil) fun _ => ite (fun _ => nil) fun _ => ?_
  split
  · exact single (by decide)
  · exact single (by decide)
  · exact hvisible
  · exact hvisible

theorem composeLayers_inBounds : ∀ (layers : List PrimaryLayer) (i : Nat), i + layers.length ≤ nscGpxClientsNumber →
    InBounds (a.composeLayers i layers)
  | [], _, _ => nil
  | l :: rest, i, hn => by
    rw [List.length_cons] at hn
    have hi : i < nscGpxClientsNumber := by omega
    have hrest : InBounds (a.composeLayers (i + 1) rest) := composeLayers_inBounds rest (i + 1) (by omega)
    unfold composeLayers
    refine cons hi (ite (fun _ => hrest) fun _ => ite (fun _ => nil) fun _ => ?_)
    exact append (composeLayer_inBounds hi) hrest

theorem compose_inBounds (hn : layers.length ≤ nscGpxClientsNumber) : InBounds (a.compose layers) := by
  have hrange : ∀ i ∈ List.range layers.length, i < nscGpxClientsNumber := fun i hi => (List.mem_range.mp hi).trans_le hn
  unfold compose
  refine append (ite (fun _ => nil) fun _ => append (append (at_indices hrange) ?_) ?_) (flatMap fun i hi => ?_)
  · refine ite (fun _ => append (at_indices fun i hi => List.mem_range.mp hi) ?_) fun _ => nil
    exact ite (fun _ => at_indices hrange) fun _ => nil
  · exact composeLayers_inBounds layers 0 (by omega)
  · exact cons (hrange i hi) (ite (fun _ => single (hrange i hi)) fun _ => nil)

theorem accesses_inBounds (hn : layers.length ≤ nscGpxClientsNumber) : InBounds (a.accesses layers) :=
  append (append (prepare_inBounds hn) (set_inBounds hn)) (ite (fun _ => compose_inBounds hn) fun _ => nil)

/-- The power is on and there is memory. -/
def ready : PrimaryAnswers where
  powered := true
  glesTarget := true
  locked _ := true
  someUnskipped := false
  posted := true
  fenceSupport := true
  signalOobInline := false
  surface := true
  videoSeen := false
  pingReset := false
  invalid _ := false
  ignoreCursor := false
  composeLocked _ := true
  visible _ := true
  blends _ := false
  skipSet _ := false
  cleared _ := 0
  composed _ := true
  releaseFence _ := true

theorem length_le_of_inBounds (h : InBounds (ready.accesses layers)) : layers.length ≤ nscGpxClientsNumber := by
  by_contra hn
  have hmem : (⟨.gpxCli, nscGpxClientsNumber⟩ : TableAccess) ∈ ready.set layers := by
    have hlt : nscGpxClientsNumber < layers.length := by omega
    refine List.mem_append_left _ (List.mem_flatMap.mpr ⟨(layers[nscGpxClientsNumber], nscGpxClientsNumber), ?_, ?_⟩)
    · exact List.mem_zipIdx_iff_getElem?.mpr (List.getElem?_eq_getElem hlt)
    · simp [setLayer]
  exact absurd (h _ (List.mem_append_left _ (List.mem_append_right _ hmem))) (Nat.lt_irrefl _)

end PrimaryAnswers
end Primary

/-- No layer with a buffer is prepared after one that is passed over. -/
def PlainFirst (layers : List PrimaryLayer) : Prop :=
  ∀ m l, layers[m]? = some l → l.isPlain = true → l.handle.isSome = true → ∀ l' ∈ layers.take m, l'.isPlain = true

section Virtual
variable {a : VirtualAnswers} {layers : List PrimaryLayer} {i k j m : Nat} {l : PrimaryLayer} {s : VirtualPrepare}

namespace VirtualAnswers
open InBounds

/-! ### The loop of `hwc_prepare_virtual` -/

/-- The entry of a layer: as many as there are plain layers before it. -/
def entry (layers : List PrimaryLayer) (m : Nat) : Nat := (layers.take m).countP (·.isPlain)

theorem entry_cons (l : PrimaryLayer) (rest : List PrimaryLayer) (m : Nat) :
    entry (l :: rest) (m + 1) = (if l.isPlain then 1 else 0) + entry rest m := by
  simp only [entry, List.take_succ_cons, List.countP_cons]
  omega

theorem prepareLayer_layerId (a : VirtualAnswers) (i : Nat) (l : PrimaryLayer) (s : VirtualPrepare) :
    (a.prepareLayer i l s).layerId = s.layerId + if l.isPlain then 1 else 0 := by
  unfold prepareLayer
  cases l.isPlain with
  | false => rfl
  | true =>
    simp only [Bool.not_true, Bool.false_eq_true, if_false]
    split
    · rfl
    · split <;> rfl

theorem prepareLayer_vdCli (a : VirtualAnswers) (i : Nat) (l : PrimaryLayer) (s : VirtualPrepare) :
    (a.prepareLayer i l s).vdCli = if a.prepares l i then Function.update s.vdCli s.layerId (some i) else s.vdCli := by
  unfold prepareLayer prepares
  cases l.isPlain <;> cases a.checked l i <;> cases a.skips l i <;> rfl

theorem prepareLayer_accesses (hs : InBounds s.accesses) (hid : s.layerId < nscGpxClientsNumber) :
    InBounds (a.prepareLayer i l s).accesses := by
  unfold prepareLayer
  split
  · exact hs
  · split
    · exact hs
    · split
      · exact hs.append (single hid)
      · exact hs.append (cons hid (single hid))

theorem prepareLayers_frame : ∀ (layers : List PrimaryLayer) (i : Nat) (s : VirtualPrepare), k < s.layerId →
    (a.prepareLayers i layers s).vdCli k = s.vdCli k
  | [], _, _, _ => rfl
  | l :: rest, i, s, hk => by
    rw [prepareLayers, prepareLayers_frame rest (i + 1) _ (by rw [prepareLayer_layerId]; omega), prepareLayer_vdCli]
    split
    · rw [Function.update_of_ne (by omega)]
    · rfl

theorem prepareLayers_entry : ∀ (layers : List PrimaryLayer) (i : Nat) (s : VirtualPrepare) (m : Nat) (l : PrimaryLayer),
    layers[m]? = some l → a.prepares l (i + m) = true →
    (a.prepareLayers i layers s).vdCli (s.layerId + entry layers m) = some (i + m)
  | l :: rest, i, s, 0, _, hl, hprepares => by
    cases hl
    have hplain : l.isPlain = true := by
      simp only [prepares, Bool.and_eq_true] at hprepares
      exact hprepares.1.1
    rw [prepareLayers, prepareLayers_frame rest (i + 1) _ (by rw [prepareLayer_layerId]; simp [entry, hplain]), prepareLayer_vdCli]
    rw [Nat.add_zero] at hprepares ⊢
    simp [entry, hprepares]
  | l :: rest, i, s, m + 1, l', hl, hprepares => by
    have hl' : rest[m]? = some l' := by simpa using hl
    have hrest := prepareLayers_entry rest (i + 1) (a.prepareLayer i l s) m l' hl' (by rw [← hprepares]; congr 1; omega)
    rw [prepareLayer_layerId] at hrest
    rw [prepareLayers, entry_cons, ← Nat.add_assoc, hrest]
    congr 1
    omega

theorem of_prepareLayers : ∀ (layers : List PrimaryLayer) (i : Nat) (s : VirtualPrepare),
    (a.prepareLayers i layers s).vdCli k = some j →
    s.vdCli k = some j ∨ ∃ m l, layers[m]? = some l ∧ a.prepares l j = true ∧ j = i + m ∧ k = s.layerId + entry layers m
  | [], _, _, h => .inl h
  | l :: rest, i, s, h => by
    rcases of_prepareLayers rest (i + 1) _ h with h | ⟨m, l', hl', hprepares, hj, hk⟩
    · rw [prepareLayer_vdCli] at h
      split at h
      · next hprepares =>
        by_cases hk : k = s.layerId
        · subst hk
          rw [Function.update_self] at h
          cases h
          exact .inr ⟨0, l, rfl, hprepares, rfl, by simp [entry]⟩
        · rw [Function.update_of_ne hk] at h
          exact .inl h
      · exact .inl h
    · refine .inr ⟨m + 1, l', by simpa using hl', hprepares, by omega, ?_⟩
      rw [hk, prepareLayer_layerId, entry_cons, Nat.add_assoc]

theorem prepareLayers_inBounds : ∀ (layers : List PrimaryLayer) (i : Nat) (s : VirtualPrepare), InBounds s.accesses →
    s.layerId + layers.length ≤ nscGpxClientsNumber → InBounds (a.prepareLayers i layers s).accesses
  | [], _, _, hs, _ => hs
  | l :: rest, i, s, hs, hn => by
    rw [List.length_cons] at hn
    refine prepareLayers_inBounds rest (i + 1) _ (prepareLayer_accesses hs (by omega)) ?_
    rw [prepareLayer_layerId]
    split <;> omega

theorem of_prepare (h : (a.prepare layers).vdCli k = some j) :
    ∃ l, layers[j]? = some l ∧ a.prepares l j = true ∧ k = entry layers j := by
  unfold prepare at h
  dsimp only at h
  split at h
  · rcases of_prepareLayers layers 0 _ h with h | ⟨m, l, hl, hprepares, hj, hk⟩
    · cases h
    · rw [Nat.zero_add] at hj hk
      subst hj
      exact ⟨l, hl, hprepares, hk⟩
  · cases h

theorem prepare_entry (hcomposes : a.composes = true) (hl : layers[m]? = some l) (hprepares : a.prepares l m = true) :
    (a.prepare layers).vdCli (entry layers m) = some m := by
  have h := prepareLayers_entry layers 0 { accesses := LayerTable.vdCli.at (List.range nscGpxClientsNumber) } m l hl
    (by rwa [Nat.zero_add])
  simpa [prepare, hcomposes] using h

/-! ### The other calls -/

theorem composeLayers_comp (comp : Nat → Option Nat) : ∀ (layers : List PrimaryLayer) (i : Nat) {p : Nat × Nat},
    p ∈ (a.composeLayers comp i layers).2 → comp p.1 = some p.2
  | [], _, _, hp => by cases hp
  | l :: rest, i, p, hp => by
    have ih := composeLayers_comp comp rest (i + 1) (p := p)
    unfold composeLayers at hp
    split at hp
    · exact ih hp
    · next j hj =>
      split at hp
      · cases hp
      · dsimp only at hp
        split at hp
        · exact ih hp
        · rcases List.mem_cons.mp hp with rfl | hp
          · exact hj
          · exact ih hp

theorem composeLayers_inBounds (comp : Nat → Option Nat) : ∀ (layers : List PrimaryLayer) (i : Nat),
    i + layers.length ≤ nscGpxClientsNumber → InBounds (a.composeLayers comp i layers).1
  | [], _, _ => nil
  | l :: rest, i, hn => by
    rw [List.length_cons] at hn
    have hi : i < nscGpxClientsNumber := by omega
    have hrest := composeLayers_inBounds comp rest (i + 1) (by omega)
    unfold composeLayers
    split
    · exact cons hi hrest
    · split
      · exact single hi
      · dsimp only
        split
        · exact cons hi hrest
        · refine append (append (cons hi (cons hi (single hi))) (at_indices fun j hj => ?_)) hrest
          have hlt := List.mem_range.mp (List.mem_filter.mp hj).1
          exact (hlt.trans_le (Nat.min_le_left _ _)).trans hi

theorem accesses_inBounds (hn : layers.length ≤ nscGpxClientsNumber) : InBounds (a.accesses layers) := by
  have hrange : ∀ i ∈ List.range layers.length, i < nscGpxClientsNumber := fun i hi => (List.mem_range.mp hi).trans_le hn
  have hhidden : InBounds (LayerTable.vdCli.at (List.range nscGpxClientsNumber)) :=
    at_indices fun i hi => List.mem_range.mp hi
  have hset : InBounds (a.set layers) := by
    unfold set
    refine ite (fun _ => nil) fun _ => append (append (at_indices hrange) (at_indices hrange)) ?_
    exact ite (fun _ => at_indices hrange) fun _ => nil
  have hcompose : InBounds (a.compose layers).1 := by
    unfold compose
    refine append (append ?_ (ite (fun _ => at_indices hrange) fun _ => nil)) (flatMap fun i hi => ?_)
    · split
      · exact composeLayers_inBounds _ layers 0 (by omega)
      · exact nil
    · exact ite (fun _ => single (hrange i hi)) fun _ => nil
  refine append ?_ (ite (fun _ => append hset hcompose) fun _ => nil)
  unfold prepare
  dsimp only
  split
  · exact prepareLayers_inBounds layers 0 _ hhidden (by simpa using hn)
  · exact hhidden

/-- What is promised about a list: indices in bounds, and for each layer the composition that was prepared for it. -/
structure TablesOk (a : VirtualAnswers) (layers : List PrimaryLayer) : Prop where
  inBounds : InBounds (a.accesses layers)
  kept : a.composesItem = true → ∀ k j, (a.prepare layers).vdCli k = some j → a.itemComp layers j = some j
  own : a.composesItem = true → ∀ p ∈ (a.compose layers).2, p.2 = p.1

theorem entry_eq (hplain : PlainFirst layers) (hl : layers[m]? = some l) (hprepares : a.prepares l m = true) :
    entry layers m = m := by
  simp only [prepares, checked, Bool.and_eq_true] at hprepares
  have hlt := (List.getElem?_eq_some_iff.mp hl).1
  rw [entry, List.countP_eq_length.mpr (hplain m l hl hprepares.1.1 hprepares.1.2.1), List.length_take]
  omega

theorem tablesOk (hn : layers.length ≤ nscGpxClientsNumber) (hplain : PlainFirst layers) : a.TablesOk layers where
  inBounds := accesses_inBounds hn
  kept _ k j h := by
    obtain ⟨l, hl, hprepares, hk⟩ := of_prepare h
    have hlt := (List.getElem?_eq_some_iff.mp hl).1
    rw [entry_eq hplain hl hprepares] at hk
    rw [itemComp, if_pos hlt, ← hk, h]
    rw [hk]
  own _ p hp := by
    have hcomp : a.itemComp layers p.1 = some p.2 := by
      unfold compose at hp
      dsimp only at hp
      split at hp
      · exact composeLayers_comp _ layers 0 hp
      · cases hp
    unfold itemComp at hcomp
    split at hcomp
    · obtain ⟨l, hl, hprepares, hk⟩ := of_prepare hcomp
      rw [hk, entry_eq hplain hl hprepares]
    · cases hcomp

/-- The display composes and every lock succeeds. -/
def ready : VirtualAnswers where
  composes := true
  locked _ := true
  sameHandle _ := false
  posted := true
  fenceSupport := true
  output := true
  composeLocked _ := true
  blits _ := true
  cleared _ := 0
  releaseFence _ := true

theorem length_le_of_inBounds (h : InBounds (ready.accesses layers)) : layers.length ≤ nscGpxClientsNumber := by
  by_contra hn
  have hmem : (⟨.vdCli, nscGpxClientsNumber⟩ : TableAccess) ∈ ready.set layers :=
    List.mem_append_right _ (List.mem_map.mpr ⟨_, List.mem_range.mpr (by omega), rfl⟩)
  exact absurd (h _ (List.mem_append_right _ (List.mem_append_left _ hmem))) (Nat.lt_irrefl _)

theorem plainFirst_of_tablesOk (h : ready.TablesOk layers) : PlainFirst layers := by
  intro m l hl hplain hhandle
  have hprepares : ready.prepares l m = true := by simp [prepares, checked, skips, ready, hplain, hhandle]
  have hlt := (List.getElem?_eq_some_iff.mp hl).1
  have hkept := h.kept rfl _ m (prepare_entry rfl hl hprepares)
  rw [itemComp, if_pos hlt] at hkept
  obtain ⟨-, -, -, hentry⟩ := of_prepare hkept
  refine List.countP_eq_length.mp ?_
  rw [List.length_take, Nat.min_eq_left (by omega)]
  exact hentry.symm

end VirtualAnswers
end Virtual

/-- A list for the primary display is used within the bounds, whatever is answered, exactly if it has at most 11 layers; one
    for the virtual display is composed as it was prepared, too, exactly if no layer with a buffer is prepared after one that is
    passed over. -/
theorem layer_tables_ok (layers : List PrimaryLayer) :
    ((∀ a : PrimaryAnswers, InBounds (a.accesses layers)) ↔ layers.length ≤ nscGpxClientsNumber) ∧
      ((∀ a : VirtualAnswers, a.TablesOk layers) ↔ layers.length ≤ nscGpxClientsNumber ∧ PlainFirst layers) := by
  refine ⟨⟨fun h => ?_, fun hn a => ?_⟩, fun h => ⟨?_, ?_⟩, fun ⟨hn, hplain⟩ a => ?_⟩
  · exact PrimaryAnswers.length_le_of_inBounds (h .ready)
  · exact PrimaryAnswers.accesses_inBounds hn
  · exact VirtualAnswers.length_le_of_inBounds (h .ready).inBounds
  · exact VirtualAnswers.plainFirst_of_tablesOk (h .ready)
  · exact VirtualAnswers.tablesOk hn hplain

/-- A list of 12 layers on the primary display, and one on the virtual display whose first layer is not prepared: the
    composition of the second is used for the first. -/
theorem layer_tables_exceeded :
    ¬ InBounds (PrimaryAnswers.ready.accesses (List.replicate 12 { geometry := 0, compositionType := .overlay, handle := some 1 })) ∧
    ¬ VirtualAnswers.ready.TablesOk [{ geometry := 0, compositionType := .background, handle := some 1 },
      { geometry := 1, compositionType := .framebuffer, handle := some 2 }] := by
  refine ⟨fun h => absurd (PrimaryAnswers.length_le_of_inBounds h) (by decide), fun h => ?_⟩
  exact absurd (h.own rfl (0, 1) (by decide)) (by decide)

end BcmPlatform.Hwc
