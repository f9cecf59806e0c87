import BcmPlatform.Theorems.OutputBackends

/-! Which opens of an output stream are all or nothing. An open that fails has closed the stream that it swaps with, and one that
    finds its place in the table taken has already opened what it then forgets; all others are, and every close gives each
    resource back once. -/

namespace BcmPlatform.Audio
open Lib

/-! ### What is logged for a stream -/

/-- Of each resource, what the stream has is what was acquired for it and not given back; nothing is acquired twice. -/
def Owns (log : List (Nat × BoutEvent)) (b : Bout) : Prop :=
  ∀ r, log.count (b.id, .acquire r) = log.count (b.id, .release r) + b.owned.count r ∧ log.count (b.id, .acquire r) ≤ 1

/-- All that was acquired for a stream is given back, once. -/
def Settled (log : List (Nat × BoutEvent)) (id : Nat) : Prop :=
  ∀ r, log.count (id, .acquire r) = log.count (id, .release r) ∧ log.count (id, .acquire r) ≤ 1

/-- No callback has the stream for its context. -/
def StandbyCallbacks.Forgotten (m : StandbyCallbacks) (id : Nat) : Prop := ∀ i : Nat, m.contexts[i]? ≠ some (some id)

/-- The callback of a stream is registered under its id while the stream is open. -/
structure Bout.Placed (b : Bout) (m : StandbyCallbacks) : Prop where
  callback : b.destroyed = false → ∃ i, b.standbyCallback = some i
  contexts : ∀ i : Nat, m.contexts[i]? = some (some b.id) ↔ b.destroyed = false ∧ b.standbyCallback = some i

section
variable {m : StandbyCallbacks} {b b' : Bout} {i id id' : Nat} {callback : StandbyCallback} {log : List (Nat × BoutEvent)}

theorem count_logged (log : List (Nat × BoutEvent)) (id id' : Nat) (events : List BoutEvent) (e : BoutEvent) :
    (log ++ events.map fun e => (id, e)).count (id', e) = log.count (id', e) + if id' = id then events.count e else 0 := by
  rw [List.count_append]
  congr 1
  split
  · next hid =>
    rw [hid]
    exact List.count_map_of_injective _ _ (fun _ _ h => (Prod.mk.inj h).2) _
  · next hid =>
    refine List.count_eq_zero.mpr fun hmem => ?_
    obtain ⟨_, -, heq⟩ := List.mem_map.mp hmem
    exact hid (Prod.mk.inj heq).1.symm

theorem count_acquires (resources : List BoutResource) (r : BoutResource) :
    (acquires resources).count (.acquire r) = resources.count r ∧ (acquires resources).count (.release r) = 0 := by
  refine ⟨List.count_map_of_injective _ _ (fun _ _ h => BoutEvent.acquire.inj h) _, List.count_eq_zero.mpr fun hmem => ?_⟩
  obtain ⟨_, -, heq⟩ := List.mem_map.mp hmem
  cases heq

theorem count_releases (resources : List BoutResource) (r : BoutResource) :
    (releases resources).count (.acquire r) = 0 ∧ (releases resources).count (.release r) = resources.count r := by
  refine ⟨List.count_eq_zero.mpr fun hmem => ?_, List.count_map_of_injective _ _ (fun _ _ h => BoutEvent.release.inj h) _⟩
  obtain ⟨_, -, heq⟩ := List.mem_map.mp hmem
  cases heq

theorem acquires_ifHas (has : Bool) (r : BoutResource) : acquires (ifHas has r) = if has then acquires [r] else [] := by
  cases has <;> rfl

theorem releases_ifHas (has : Bool) (r : BoutResource) : releases (ifHas has r) = if has then releases [r] else [] := by
  cases has <;> rfl

theorem count_debugFile_le (has : Bool) (r : BoutResource) :
    (ifHas has .debugFile).count r ≤ if r = .debugFile then 1 else 0 := by
  cases has with
  | false => exact Nat.zero_le _
  | true => cases r <;> decide

theorem Owns.of_count (h : Owns log b) {log' : List (Nat × BoutEvent)}
    (hcount : ∀ e, log'.count (b.id, e) = log.count (b.id, e)) : Owns log' b := by
  intro r
  rw [hcount, hcount]
  exact h r

theorem Bout.Placed.of_contexts (h : b.Placed m) {m' : StandbyCallbacks}
    (hcontexts : ∀ i : Nat, m'.contexts[i]? = some (some b.id) ↔ m.contexts[i]? = some (some b.id)) : b.Placed m' :=
  ⟨h.callback, fun i => (hcontexts i).trans (h.contexts i)⟩

theorem contexts_set {contexts : List (Option Nat)} {slot : Option Nat} (hold : contexts[i]? ≠ some (some id'))
    (hslot : slot ≠ some id') (j : Nat) : (contexts.set i slot)[j]? = some (some id') ↔ contexts[j]? = some (some id') := by
  rw [List.getElem?_set]
  by_cases hij : i = j
  · subst hij
    rw [if_pos rfl]
    refine iff_of_false (fun h => ?_) hold
    split at h
    · exact hslot (Option.some.inj h)
    · cases h
  · rw [if_neg hij]

theorem StandbyCallbacks.Paired.contexts_filled (h : m.Paired) (hi : m.callbacks[i]? = some none) (hid : id ≠ id') (j : Nat) :
    (m.filled i callback id).contexts[j]? = some (some id') ↔ m.contexts[j]? = some (some id') :=
  contexts_set (by rw [(h.paired i).mp hi]; rintro ⟨⟩) (fun heq => hid (Option.some.inj heq)) j

theorem StandbyCallbacks.contexts_cleared (hi : m.contexts[i]? = some (some id)) (hid : id ≠ id') (j : Nat) :
    (m.cleared i).contexts[j]? = some (some id') ↔ m.contexts[j]? = some (some id') :=
  contexts_set (by rw [hi]; exact fun heq => hid (Option.some.inj (Option.some.inj heq))) (by rintro ⟨⟩) j

theorem StandbyCallbacks.Paired.callback_of_context (h : m.Paired) (hi : m.contexts[i]? = some (some id)) :
    ∃ callback, m.callbacks[i]? = some (some callback) := by
  obtain ⟨hlt, -⟩ := List.getElem?_eq_some_iff.mp hi
  have hlt' : i < m.callbacks.length := by rw [h.callbacks, ← h.contexts]; exact hlt
  have hslot := List.getElem?_eq_getElem hlt'
  cases hcallback : m.callbacks[i] with
  | none =>
    rw [hcallback, h.paired i, hi] at hslot
    cases hslot
  | some callback => exact ⟨callback, by rw [hslot, hcallback]⟩

end

/-! ### The device in a run -/

namespace OutputDevice

/-- The table has the stream. -/
def Has (d : OutputDevice) (id : Nat) : Prop := ∃ k b, d.bouts k = some b ∧ b.id = id

/-- Nothing was acquired or given back for the stream, and its callback is as it was. -/
structure SameFor (d d' : OutputDevice) (id : Nat) : Prop where
  log : ∀ e, d'.log.count (id, e) = d.log.count (id, e)
  contexts : ∀ i : Nat, d'.monitor.contexts[i]? = some (some id) ↔ d.monitor.contexts[i]? = some (some id)

/-- What holds of the device in every run. -/
structure Sound (d : OutputDevice) : Prop where
  monitor : d.monitor.Paired
  device : ∀ k b, d.bouts k = some b → b.device = k
  nexus : ∀ b, d.bouts .nexus = some b → b.destroyed = false
  ids : ∀ k b, d.bouts k = some b → b.id < d.next
  distinct : ∀ k k' b b', d.bouts k = some b → d.bouts k' = some b' → b.id = b'.id → k = k'
  log : ∀ id e, d.next ≤ id → d.log.count (id, e) = 0
  contexts : ∀ id, d.next ≤ id → d.monitor.Forgotten id
  placed : ∀ k b, d.bouts k = some b → b.Placed d.monitor
  owns : ∀ k b, d.bouts k = some b → Owns d.log b

variable {d d' d'' : OutputDevice} {k : OutDevice} {b : Bout} {id : Nat} {i : Nat}

theorem SameFor.refl (d : OutputDevice) (id : Nat) : SameFor d d id := ⟨fun _ => rfl, fun _ => Iff.rfl⟩

theorem SameFor.trans (h : SameFor d d' id) (h' : SameFor d' d'' id) : SameFor d d'' id :=
  ⟨fun e => (h'.log e).trans (h.log e), fun i => (h'.contexts i).trans (h.contexts i)⟩

theorem SameFor.forgotten (h : SameFor d d' id) (hforgotten : d.monitor.Forgotten id) : d'.monitor.Forgotten id :=
  fun i hi => hforgotten i ((h.contexts i).mp hi)

theorem sameFor_logged (d : OutputDevice) (events : List BoutEvent) {id' : Nat} (hid : id' ≠ id) :
    SameFor d (d.logged id events) id' :=
  ⟨fun e => by rw [logged, count_logged, if_neg hid, Nat.add_zero], fun _ => Iff.rfl⟩

theorem Sound.init : Sound {} :=
  ⟨.init, by rintro _ _ ⟨⟩, by rintro _ ⟨⟩, by rintro _ _ ⟨⟩, by rintro _ _ _ _ ⟨⟩, fun _ _ _ => rfl,
    fun _ _ i hi => by
      obtain ⟨_, _⟩ := List.getElem?_eq_some_iff.mp hi
      simp_all, by rintro _ _ ⟨⟩, by rintro _ _ ⟨⟩⟩

theorem Sound.frame (h : d.Sound) (hbouts : ∀ k b, d'.bouts k = some b → d.bouts k = some b) (hmonitor : d'.monitor.Paired)
    (hnext : d.next ≤ d'.next) (hsame : ∀ id, d'.Has id ∨ d'.next ≤ id → SameFor d d' id) : d'.Sound where
  monitor := hmonitor
  device k b hb := h.device k b (hbouts k b hb)
  nexus b hb := h.nexus b (hbouts _ b hb)
  ids k b hb := Nat.lt_of_lt_of_le (h.ids k b (hbouts k b hb)) hnext
  distinct k k' b b' hb hb' := h.distinct k k' b b' (hbouts k b hb) (hbouts k' b' hb')
  log id e hid := by
    rw [(hsame id (Or.inr hid)).log]
    exact h.log id e (Nat.le_trans hnext hid)
  contexts id hid := (hsame id (Or.inr hid)).forgotten (h.contexts id (Nat.le_trans hnext hid))
  placed k b hb := (h.placed k b (hbouts k b hb)).of_contexts (hsame b.id (Or.inl ⟨k, b, hb, rfl⟩)).contexts
  owns k b hb := (h.owns k b (hbouts k b hb)).of_count (hsame b.id (Or.inl ⟨k, b, hb, rfl⟩)).log

theorem forall_update {bouts : OutDevice → Option Bout} {P : OutDevice → Bout → Prop}
    (hold : ∀ k b, bouts k = some b → P k b) (hnew : P k b) :
    ∀ k' b', Function.update bouts k (some b) k' = some b' → P k' b' := by
  intro k' b' hb'
  by_cases hk' : k' = k
  · subst hk'
    rw [Function.update_self] at hb'
    cases hb'
    exact hnew
  · rw [Function.update_of_ne hk'] at hb'
    exact hold k' b' hb'

theorem Sound.insert (h : d.Sound) (hdevice : b.device = k) (hnexus : k = .nexus → b.destroyed = false)
    (hnext : b.id < d.next) (hnew : ¬ d.Has b.id) (hplaced : b.Placed d.monitor) (howns : Owns d.log b) :
    Sound { d with bouts := Function.update d.bouts k (some b) } where
  monitor := h.monitor
  device := forall_update h.device hdevice
  nexus b' hb' := forall_update (P := fun k b => k = .nexus → b.destroyed = false)
    (fun k b hb hk => h.nexus b (by rw [← hk]; exact hb)) hnexus _ b' hb' rfl
  ids := forall_update h.ids hnext
  distinct k₁ k₂ b₁ b₂ h₁ h₂ := by
    refine forall_update (P := fun k₁ b₁ => b₁.id = b₂.id → k₁ = k₂) (fun k₁ b₁ h₁ => ?_) ?_ k₁ b₁ h₁
    · refine forall_update (P := fun k₂ b₂ => b₁.id = b₂.id → k₁ = k₂) (fun k₂ b₂ h₂ => h.distinct k₁ k₂ b₁ b₂ h₁ h₂) ?_ k₂ b₂ h₂
      exact fun hid => absurd ⟨k₁, b₁, h₁, hid⟩ hnew
    · refine forall_update (P := fun k₂ b₂ => b.id = b₂.id → k = k₂) (fun k₂ b₂ h₂ hid => ?_) (fun _ => rfl) k₂ b₂ h₂
      exact absurd ⟨k₂, b₂, h₂, hid.symm⟩ hnew
  log := h.log
  contexts := h.contexts
  placed := forall_update h.placed hplaced
  owns := forall_update h.owns howns

/-! ### A stream is closed -/

/-- The stream is closed and not in the table. -/
def remove (d : OutputDevice) (k : OutDevice) (b : Bout) (events : List BoutEvent) : OutputDevice :=
  { d with bouts := Function.update d.bouts k none, monitor := (doBoutClose b d.monitor).monitor }.logged b.id
    ((doBoutClose b d.monitor).events ++ events)

theorem Sound.closed (h : d.Sound) (hb : d.bouts k = some b) : Closed b d.monitor (doBoutClose b d.monitor) := by
  refine doBoutClose_closed h.monitor (fun hdevice => ?_) fun hopen => ?_
  · have hk : k = .nexus := (h.device k b hb).symm.trans hdevice
    exact h.nexus b (by rw [← hk]; exact hb)
  · obtain ⟨i, hi⟩ := (h.placed k b hb).callback hopen
    obtain ⟨callback, hcallback⟩ := h.monitor.callback_of_context (((h.placed k b hb).contexts i).mpr ⟨hopen, hi⟩)
    exact ⟨i, callback, hi, hcallback⟩

theorem Sound.close_monitor (h : d.Sound) (hb : d.bouts k = some b) :
    (doBoutClose b d.monitor).monitor.Paired ∧ (doBoutClose b d.monitor).monitor.Forgotten b.id ∧
      ∀ id, b.id ≠ id → ∀ i : Nat,
        (doBoutClose b d.monitor).monitor.contexts[i]? = some (some id) ↔ d.monitor.contexts[i]? = some (some id) := by
  have hplaced := h.placed k b hb
  have hclosed := h.closed hb
  generalize doBoutClose b d.monitor = c at hclosed ⊢
  cases hclosed with
  | before hdestroyed =>
    refine ⟨h.monitor, fun i hi => ?_, fun _ _ _ => Iff.rfl⟩
    have hopen := ((hplaced.contexts i).mp hi).1
    rw [hdestroyed] at hopen
    cases hopen
  | @closed b' i hopen hcallback =>
    have hi := (hplaced.contexts i).mpr ⟨hopen, hcallback⟩
    obtain ⟨callback, hslot⟩ := h.monitor.callback_of_context hi
    refine ⟨h.monitor.cleared hslot, fun j hj => ?_, fun id hid => StandbyCallbacks.contexts_cleared hi hid⟩
    by_cases hij : i = j
    · subst hij
      obtain ⟨hlt, -⟩ := List.getElem?_eq_some_iff.mp hi
      simp [StandbyCallbacks.cleared, List.getElem?_set_self hlt] at hj
    · rw [StandbyCallbacks.cleared, List.getElem?_set_ne hij] at hj
      have hcallback' := ((hplaced.contexts j).mp hj).2
      rw [hcallback] at hcallback'
      exact hij (Option.some.inj hcallback')

theorem Sound.close_events (h : d.Sound) (hb : d.bouts k = some b) (r : BoutResource) :
    (doBoutClose b d.monitor).events.count (.acquire r) = 0 ∧
      (doBoutClose b d.monitor).events.count (.release r) = (if b.destroyed then [] else b.backendOwned).count r := by
  have hclosed := h.closed hb
  generalize doBoutClose b d.monitor = c at hclosed ⊢
  cases hclosed with
  | before hdestroyed =>
    rw [hdestroyed]
    exact ⟨rfl, rfl⟩
  | closed hopen =>
    rw [hopen]
    exact count_releases _ r

theorem Sound.remove (h : d.Sound) (hb : d.bouts k = some b) (events : List BoutEvent) :
    (d.remove k b events).Sound ∧ (d.remove k b events).monitor.Forgotten b.id ∧ ¬ (d.remove k b events).Has b.id ∧
      ∀ id, b.id ≠ id → SameFor d (d.remove k b events) id := by
  obtain ⟨hpaired, hforgotten, hcontexts⟩ := h.close_monitor hb
  have hbouts (k' : OutDevice) (b' : Bout) (hb' : (d.remove k b events).bouts k' = some b') : k' ≠ k ∧ d.bouts k' = some b' := by
    by_cases hk : k' = k
    · subst hk
      have hnone : (d.remove k' b events).bouts k' = none := Function.update_self ..
      rw [hnone] at hb'
      cases hb'
    · have hsame : (d.remove k b events).bouts k' = d.bouts k' := Function.update_of_ne hk ..
      rw [hsame] at hb'
      exact ⟨hk, hb'⟩
  have hgone : ¬ (d.remove k b events).Has b.id := by
    rintro ⟨k', b', hb', hid⟩
    obtain ⟨hk, hb'⟩ := hbouts k' b' hb'
    exact hk (h.distinct k' k b' b hb' hb hid)
  have hsame (id : Nat) (hid : b.id ≠ id) : SameFor d (d.remove k b events) id :=
    ⟨fun e => by rw [OutputDevice.remove, logged, count_logged, if_neg hid.symm, Nat.add_zero], hcontexts id hid⟩
  refine ⟨h.frame (fun k' b' hb' => (hbouts k' b' hb').2) hpaired (Nat.le_refl _) fun id hid => hsame id ?_, hforgotten, hgone,
    hsame⟩
  rintro rfl
  rcases hid with hhas | hnext
  · exact hgone hhas
  · exact absurd (h.ids k b hb) (Nat.not_lt.mpr hnext)

theorem count_remove (h : d.Sound) (hb : d.bouts k = some b) (events : List BoutEvent) (r : BoutResource) :
    (d.remove k b events).log.count (b.id, .acquire r) = d.log.count (b.id, .acquire r) + events.count (.acquire r) ∧
      (d.remove k b events).log.count (b.id, .release r) =
        d.log.count (b.id, .release r) +
          ((if b.destroyed then [] else b.backendOwned).count r + events.count (.release r)) := by
  obtain ⟨hacquire, hrelease⟩ := h.close_events hb r
  constructor
  · rw [remove, logged, count_logged, if_pos rfl, List.count_append, hacquire, Nat.zero_add]
  · rw [remove, logged, count_logged, if_pos rfl, List.count_append, hrelease]

/-! ### The swap -/

/-- A stream that is open gives its resources to the device. -/
def swaps (d : OutputDevice) (k : OutDevice) : Bool := ((swapped k).bind d.bouts).any fun b => !b.destroyed

/-- There is nothing to swap, or the other stream is closed and stays in the table. -/
inductive Swap (d : OutputDevice) (k : OutDevice) : OutputDevice → Prop where
  | none (hswaps : d.swaps k = false) : Swap d k d
  | closed {other : OutDevice} {b b' : Bout} (hswaps : d.swaps k = true) (hnexus : other ≠ .nexus)
      (hb : d.bouts other = some b) (hopen : b.destroyed = false) (hid : b'.id = b.id) (hdevice : b'.device = other)
      (hfile : b'.outDebugFile = b.outDebugFile) (hdestroyed : b'.destroyed = true) :
      Swap d k { d.remove other b [] with bouts := Function.update d.bouts other (some b') }

theorem swapped_ne {other : OutDevice} (h : swapped k = some other) : other ≠ .nexus := by
  cases k <;> cases h <;> decide

theorem Sound.swap_cases (h : d.Sound) (k : OutDevice) : Swap d k (d.swap k) := by
  rw [swap]
  cases hother : swapped k with
  | none => exact .none (by rw [swaps, hother]; rfl)
  | some other =>
    have hnexus := swapped_ne hother
    dsimp only
    cases hb : d.bouts other with
    | none => exact .none (by rw [swaps, hother, Option.bind_some, hb]; rfl)
    | some b =>
      have hswaps : d.swaps k = !b.destroyed := by rw [swaps, hother, Option.bind_some, hb]; rfl
      have hdevice := h.device other b hb
      dsimp only
      cases hdestroyed : b.destroyed with
      | true =>
        rw [doBoutClose_of_destroyed hdestroyed (by rw [hdevice]; exact hnexus), ← hb, Function.update_eq_self]
        dsimp only
        rw [logged, List.map_nil, List.append_nil]
        exact .none (by rw [hswaps, hdestroyed]; rfl)
      | false =>
        obtain ⟨hid, hdevice', hfile, hclosed⟩ := (h.closed hb).bout hdestroyed
        have hdone := Swap.closed (by rw [hswaps, hdestroyed]; rfl) hnexus hb hdestroyed hid (hdevice'.trans hdevice) hfile
          (hclosed (by rw [hdevice]; exact hnexus))
        rw [OutputDevice.remove, List.append_nil] at hdone
        exact hdone

theorem Sound.swap_bouts (h : d.Sound) (k k' : OutDevice) :
    ((d.swap k).bouts k').map (·.id) = (d.bouts k').map (·.id) := by
  have hswap := h.swap_cases k
  generalize d.swap k = s at hswap ⊢
  cases hswap with
  | none => rfl
  | @closed other b b' _ _ hb _ hid =>
    by_cases hk : k' = other
    · subst hk
      dsimp only
      rw [Function.update_self, hb, Option.map_some, Option.map_some, hid]
    · dsimp only
      rw [Function.update_of_ne hk]

theorem Sound.swap_next (h : d.Sound) (k : OutDevice) : (d.swap k).next = d.next := by
  have hswap := h.swap_cases k
  generalize d.swap k = s at hswap ⊢
  cases hswap <;> rfl

theorem has_iff : d.Has id ↔ ∃ k, (d.bouts k).map (·.id) = some id := by
  simp only [Has, Option.map_eq_some_iff]

theorem Sound.swap_has (h : d.Sound) (k : OutDevice) : (d.swap k).Has id ↔ d.Has id := by
  simp only [has_iff, h.swap_bouts k]

theorem Sound.swap_same (h : d.Sound) (k : OutDevice) (hid : ¬ d.Has id) : SameFor d (d.swap k) id := by
  have hswap := h.swap_cases k
  generalize d.swap k = s at hswap ⊢
  cases hswap with
  | none => exact .refl d id
  | @closed other b b' _ _ hb =>
    have hsame := (h.remove hb []).2.2.2 id fun heq => hid ⟨other, b, hb, heq⟩
    exact ⟨hsame.log, hsame.contexts⟩

theorem Sound.owns_closed (h : d.Sound) (hb : d.bouts k = some b) {b' : Bout} (hid : b'.id = b.id)
    (hfile : b'.outDebugFile = b.outDebugFile) (hdestroyed : b'.destroyed = true) : Owns (d.remove k b []).log b' := by
  intro r
  obtain ⟨howns, honce⟩ := h.owns k b hb r
  obtain ⟨hacquire, hrelease⟩ := count_remove h hb [] r
  have howned : b'.owned.count r = (ifHas b.outDebugFile .debugFile).count r := by
    rw [Bout.owned, hfile, hdestroyed, if_pos rfl, List.append_nil]
  rw [Bout.owned, List.count_append] at howns
  rw [hid, hacquire, hrelease, howned]
  simp only [List.count_nil, Nat.add_zero]
  exact ⟨by omega, honce⟩

theorem Sound.swap (h : d.Sound) (k : OutDevice) : (d.swap k).Sound := by
  have hswap := h.swap_cases k
  generalize d.swap k = s at hswap ⊢
  cases hswap with
  | none => exact h
  | @closed other b b' _ hnexus hb _ hid hdevice hfile hdestroyed =>
    obtain ⟨hremove, hforgotten, hgone, -⟩ := h.remove hb []
    have hplaced : b'.Placed (d.remove other b []).monitor := by
      refine ⟨fun hopen => ?_, fun i => ⟨fun hi => ?_, fun hi => ?_⟩⟩
      · rw [hdestroyed] at hopen
        cases hopen
      · rw [hid] at hi
        exact absurd hi (hforgotten i)
      · rw [hdestroyed] at hi
        cases hi.1
    have hinsert := hremove.insert hdevice (fun heq => absurd heq hnexus) (by rw [hid]; exact h.ids other b hb)
      (by rw [hid]; exact hgone) hplaced (h.owns_closed hb hid hfile hdestroyed)
    have hbouts : Function.update (d.remove other b []).bouts other (some b') = Function.update d.bouts other (some b') :=
      Function.update_idem ..
    rw [hbouts] at hinsert
    exact hinsert

theorem Sound.swap_of_swaps (h : d.Sound) (hswaps : d.swaps k = false) : d.swap k = d := by
  have hswap := h.swap_cases k
  generalize d.swap k = s at hswap ⊢
  cases hswap with
  | none => rfl
  | closed hswaps' =>
    rw [hswaps] at hswaps'
    cases hswaps'

theorem Sound.swap_ne (h : d.Sound) (hswaps : d.swaps k = true) : (d.swap k).bouts ≠ d.bouts := by
  have hswap := h.swap_cases k
  generalize d.swap k = s at hswap ⊢
  cases hswap with
  | none hswaps' =>
    rw [hswaps] at hswaps'
    cases hswaps'
  | @closed other b b' _ _ hb hopen _ _ _ hdestroyed =>
    intro heq
    have hentry := congrFun heq other
    dsimp only at hentry
    rw [Function.update_self, hb] at hentry
    rw [Option.some.inj hentry, hopen] at hdestroyed
    cases hdestroyed

/-! ### A stream is opened -/

/-- The new stream has its address and its file, and its backend is not open yet. -/
def begun (d : OutputDevice) (a : BoutAnswers) : OutputDevice :=
  { d with next := d.next + 1 }.logged d.next (acquires (ifHas a.debugFile .debugFile))

/-- The backend opens, after the swap. -/
def backendOpens (d : OutputDevice) (device : OutDevice) (r : OpenRequest) (a : BoutAnswers) : Bool :=
  a.joins && (d.swap device).monitor.accepts a.run && (newBout d device r a).opens a

/-- The backend opens and the device has no stream yet, or it does not open and there is nothing to swap. -/
def OpenFits (d : OutputDevice) (r : OpenRequest) (a : BoutAnswers) : Prop :=
  a.calloc = true → ∀ device, getBrcmDevicesOut r.devices (r.direct && r.hwAvSync) = some device →
    if d.backendOpens device r a then d.bouts device = none else d.swaps device = false

variable {r : OpenRequest} {a : BoutAnswers} {device : OutDevice}

theorem newBout_spec (d : OutputDevice) (device : OutDevice) (r : OpenRequest) (a : BoutAnswers) :
    (newBout d device r a).Fresh ∧ (newBout d device r a).id = d.next ∧ (newBout d device r a).device = device ∧
      (newBout d device r a).outDebugFile = a.debugFile := by
  rw [newBout]
  dsimp only
  split
  · split
    · exact ⟨⟨rfl, rfl, rfl, rfl, rfl, by rintro ⟨⟩, rfl⟩, rfl, rfl, rfl⟩
    · exact ⟨⟨rfl, rfl, rfl, rfl, rfl, by rintro ⟨⟩, rfl⟩, rfl, rfl, rfl⟩
  · exact ⟨⟨rfl, rfl, rfl, rfl, rfl, by rintro ⟨⟩, rfl⟩, rfl, rfl, rfl⟩

theorem Sound.not_has_next (h : d.Sound) : ¬ d.Has d.next := by
  rintro ⟨k, b, hb, hid⟩
  exact absurd (h.ids k b hb) (by rw [hid]; exact Nat.lt_irrefl _)

theorem ne_of_not_has {id' : Nat} (hid : id < d.next) (hnew : ¬ d.Has id) (h : d.Has id' ∨ d.next ≤ id') : id' ≠ id := by
  rintro rfl
  rcases h with hhas | hnext
  · exact hnew hhas
  · exact absurd hid (Nat.not_lt.mpr hnext)

theorem Sound.logged (h : d.Sound) (hid : id < d.next) (hnew : ¬ d.Has id) (events : List BoutEvent) :
    (d.logged id events).Sound := by
  exact h.frame (fun _ _ hb => hb) h.monitor (Nat.le_refl _) fun id' hid' => sameFor_logged d events (ne_of_not_has hid hnew hid')

theorem Sound.begun (h : d.Sound) (a : BoutAnswers) : (d.begun a).Sound := by
  have hnext : Sound { d with next := d.next + 1 } :=
    h.frame (fun _ _ hb => hb) h.monitor (Nat.le_succ _) fun id _ => ⟨fun _ => rfl, fun _ => Iff.rfl⟩
  exact hnext.logged (Nat.lt_succ_self _) h.not_has_next _

theorem Sound.filled (h : d.Sound) (hid : id < d.next) (hnew : ¬ d.Has id) (hi : d.monitor.callbacks[i]? = some none)
    (callback : StandbyCallback) : Sound { d with monitor := d.monitor.filled i callback id } := by
  exact h.frame (fun _ _ hb => hb) (h.monitor.filled hi) (Nat.le_refl _) fun id' hid' =>
    ⟨fun _ => rfl, h.monitor.contexts_filled hi (ne_of_not_has hid hnew hid').symm⟩

theorem swap_monitor (d d' : OutputDevice) (k : OutDevice) (hbouts : d'.bouts = d.bouts) (hmonitor : d'.monitor = d.monitor) :
    (d'.swap k).monitor = (d.swap k).monitor := by
  rw [OutputDevice.swap, OutputDevice.swap]
  cases swapped k with
  | none => exact hmonitor
  | some other =>
    dsimp only
    rw [hbouts, hmonitor]
    cases d.bouts other with
    | none => exact hmonitor
    | some b => rfl

/-- What an open has done, and whether it fits. -/
inductive Outcome (d : OutputDevice) (r : OpenRequest) (a : BoutAnswers) : Except OpenError Nat × OutputDevice → Prop where
  | refused {e : OpenError} {next : Nat} (hfits : OpenFits d r a) (hnext : d.next ≤ next) :
      Outcome d r a (.error e, { d with next })
  | failed {device : OutDevice} {events : List BoutEvent} (hfits : OpenFits d r a ↔ d.swaps device = false)
      (hreturns : Returns events) :
      Outcome d r a
        (.error .ebusy, ((d.begun a).swap device).logged d.next (events ++ releases (ifHas a.debugFile .debugFile)))
  | busy {device : OutDevice} {b : Bout} {i : Nat} {events : List BoutEvent} (hfits : ¬ OpenFits d r a)
      (hi : ((d.begun a).swap device).monitor.callbacks[i]? = some none) (hacquires : Acquires events b.backendOwned) :
      Outcome d r a
        (.error .ebusy,
          { (d.begun a).swap device with
            monitor := ((d.begun a).swap device).monitor.filled i device.standbyMonitor d.next }.logged d.next
              (events ++ releases (ifHas a.debugFile .debugFile)))
  | opened {device : OutDevice} {b : Bout} {i : Nat} {events : List BoutEvent} (hfits : OpenFits d r a)
      (hget : getBrcmDevicesOut r.devices (r.direct && r.hwAvSync) = some device) (hk : d.bouts device = none)
      (hi : ((d.begun a).swap device).monitor.callbacks[i]? = some none)
      (hid : b.id = d.next) (hdevice : b.device = device) (hfile : b.outDebugFile = a.debugFile) (hopen : b.destroyed = false)
      (hcallback : b.standbyCallback = some i) (hacquires : Acquires events b.backendOwned) :
      Outcome d r a
        (.ok d.next,
          { { (d.begun a).swap device with
              monitor := ((d.begun a).swap device).monitor.filled i device.standbyMonitor d.next }.logged d.next events with
            bouts := Function.update ((d.begun a).swap device).bouts device (some b) })

theorem openFits_iff (ha : a.calloc = true) (hdevice : getBrcmDevicesOut r.devices (r.direct && r.hwAvSync) = some device) :
    OpenFits d r a ↔ if d.backendOpens device r a then d.bouts device = none else d.swaps device = false := by
  constructor
  · exact fun h => h ha device hdevice
  · intro h _ device' hdevice'
    rw [hdevice] at hdevice'
    cases hdevice'
    exact h

theorem Sound.bouts_swap_begun (h : d.Sound) (a : BoutAnswers) (device : OutDevice) :
    (((d.begun a).swap device).bouts device).isSome = (d.bouts device).isSome := by
  have hids := (h.begun a).swap_bouts device device
  rw [← Option.isSome_map (f := (·.id)), hids, Option.isSome_map]
  rfl

theorem logged_logged (d : OutputDevice) (id : Nat) (xs ys : List BoutEvent) :
    (d.logged id xs).logged id ys = d.logged id (xs ++ ys) := by
  rw [logged, logged, logged, List.append_assoc, List.map_append]

theorem Sound.openOutputStream_eq (h : d.Sound) (ha : a.calloc = true)
    (hdevice : getBrcmDevicesOut r.devices (r.direct && r.hwAvSync) = some device)
    (opened : BoutOpened) (hopened : doBoutOpen (newBout d device r a) a ((d.begun a).swap device).monitor = opened) :
    d.openOutputStream r a =
      match opened.bout with
      | none =>
        (.error .ebusy, { (d.begun a).swap device with monitor := opened.monitor }.logged d.next
          (opened.events ++ releases (ifHas a.debugFile .debugFile)))
      | some bout =>
        if (d.bouts device).isSome then
          (.error .ebusy, { (d.begun a).swap device with monitor := opened.monitor }.logged d.next
            (opened.events ++ releases (ifHas a.debugFile .debugFile)))
        else
          (.ok d.next, { { (d.begun a).swap device with monitor := opened.monitor }.logged d.next opened.events with
            bouts := Function.update ((d.begun a).swap device).bouts device (some bout) }) := by
  rw [openOutputStream, ha, hdevice, ← acquires_ifHas, ← releases_ifHas, ← hopened, ← h.bouts_swap_begun a device]
  simp only [logged_logged]
  rfl

theorem Sound.openOutputStream_outcome (h : d.Sound) (r : OpenRequest) (a : BoutAnswers) :
    Outcome d r a (d.openOutputStream r a) := by
  cases hcalloc : a.calloc with
  | false =>
    rw [openOutputStream, hcalloc]
    refine @Outcome.refused d r a _ d.next (fun ha => ?_) (Nat.le_refl _)
    rw [hcalloc] at ha
    cases ha
  | true =>
    cases hdevice : getBrcmDevicesOut r.devices (r.direct && r.hwAvSync) with
    | none =>
      rw [openOutputStream, hcalloc, hdevice]
      refine .refused (fun _ device hdevice' => ?_) (Nat.le_succ _)
      rw [hdevice] at hdevice'
      cases hdevice'
    | some device =>
      obtain ⟨hfresh, hid, hdev, hfile⟩ := newBout_spec d device r a
      have hfits := openFits_iff (d := d) hcalloc hdevice
      have hopens : d.backendOpens device r a =
          (doBoutOpen (newBout d device r a) a ((d.begun a).swap device).monitor).bout.isSome := by
        rw [doBoutOpen_isSome, backendOpens, swap_monitor d (d.begun a) device rfl rfl]
      have hopened := doBoutOpen_opened (a := a) ((h.begun a).swap device).monitor hfresh
      rw [h.openOutputStream_eq hcalloc hdevice _ rfl]
      rw [hopens] at hfits
      generalize doBoutOpen (newBout d device r a) a ((d.begun a).swap device).monitor = opened at hopened hfits ⊢
      cases hopened with
      | failed hreturns => exact .failed (hfits.trans (by simp)) hreturns
      | @opened b events i hi hid' hdevice' hfile' hopen hcallback hacquires =>
        rw [hid, hdev]
        dsimp only at hfits ⊢
        split
        · next hk => exact .busy (fun hfits' => by simp_all) hi hacquires
        · next hk =>
          have hnone : d.bouts device = none := by simpa using hk
          exact .opened (hfits.mpr (by simp [hnone])) hdevice hnone hi (hid'.trans hid) (hdevice'.trans hdev)
            (hfile'.trans hfile) hopen hcallback hacquires

/-! ### What a step keeps -/

/-- The device before the backend of a new stream opens. -/
structure Prepared (d s : OutputDevice) (a : BoutAnswers) : Prop where
  sound : s.Sound
  next : d.next < s.next
  new : ¬ s.Has d.next
  forgotten : s.monitor.Forgotten d.next
  acquired : ∀ r, s.log.count (d.next, .acquire r) = (ifHas a.debugFile .debugFile).count r
  released : ∀ r, s.log.count (d.next, .release r) = 0
  has : ∀ id, s.Has id ↔ d.Has id

theorem Sound.prepared (h : d.Sound) (a : BoutAnswers) (device : OutDevice) : Prepared d ((d.begun a).swap device) a := by
  have hbegun := h.begun a
  have hsame := hbegun.swap_same device h.not_has_next
  have hlog (e : BoutEvent) : ((d.begun a).swap device).log.count (d.next, e) =
      (acquires (ifHas a.debugFile .debugFile)).count e := by
    rw [hsame.log, OutputDevice.begun, OutputDevice.logged, count_logged, if_pos rfl]
    rw [h.log _ _ (Nat.le_refl _), Nat.zero_add]
  refine ⟨hbegun.swap device, ?_, ?_, hsame.forgotten (h.contexts _ (Nat.le_refl _)), fun r => ?_, fun r => ?_,
    fun id => hbegun.swap_has device⟩
  · rw [hbegun.swap_next]
    exact Nat.lt_succ_self _
  · rw [hbegun.swap_has]
    exact h.not_has_next
  · rw [hlog, (count_acquires _ r).1]
  · rw [hlog, (count_acquires _ r).2]

variable {s : OutputDevice} {events : List BoutEvent}

theorem Prepared.opened (h : Prepared d s a) (hi : s.monitor.callbacks[i]? = some none) (callback : StandbyCallback)
    (hid : b.id = d.next) (hdevice : b.device = device) (hfile : b.outDebugFile = a.debugFile) (hopen : b.destroyed = false)
    (hcallback : b.standbyCallback = some i) (hacquires : Acquires events b.backendOwned) :
    Sound { { s with monitor := s.monitor.filled i callback d.next }.logged d.next events with
      bouts := Function.update s.bouts device (some b) } := by
  have hfilled := (h.sound.filled h.next h.new hi callback).logged h.next h.new events
  refine hfilled.insert hdevice (fun _ => hopen) (by rw [hid]; exact h.next) (by rw [hid]; exact h.new) ?_ ?_
  · refine ⟨fun _ => ⟨i, hcallback⟩, fun j => ?_⟩
    rw [hid, hcallback]
    by_cases hij : i = j
    · subst hij
      have hslot : (s.monitor.filled i callback d.next).contexts[i]? = some (some d.next) :=
        List.getElem?_set_self (h.sound.monitor.lt hi).2
      exact iff_of_true hslot ⟨hopen, rfl⟩
    · refine iff_of_false (fun hj => h.forgotten j ?_) fun hj => hij (Option.some.inj hj.2)
      have hother : (s.monitor.filled i callback d.next).contexts[j]? = s.monitor.contexts[j]? := List.getElem?_set_ne hij
      rw [← hother]
      exact hj
  · intro r
    obtain ⟨hacquire, hrelease, honce⟩ := hacquires r
    have hfileOnce := count_debugFile_le a.debugFile r
    rw [hid, logged, count_logged, count_logged, if_pos rfl, if_pos rfl]
    dsimp only
    rw [h.acquired, h.released, hacquire, hrelease, Bout.owned, hopen, hfile, List.count_append, if_neg Bool.false_ne_true]
    refine ⟨by omega, ?_⟩
    split at hfileOnce <;> split at honce <;> omega

theorem Prepared.failed (h : Prepared d s a) (events : List BoutEvent) : (s.logged d.next events).Sound :=
  h.sound.logged h.next h.new events

theorem Sound.openOutputStream (h : d.Sound) (r : OpenRequest) (a : BoutAnswers) : (d.openOutputStream r a).2.Sound := by
  have houtcome := h.openOutputStream_outcome r a
  generalize d.openOutputStream r a = o at houtcome ⊢
  cases houtcome with
  | refused _ hnext => exact h.frame (fun _ _ hb => hb) h.monitor hnext fun _ _ => ⟨fun _ => rfl, fun _ => Iff.rfl⟩
  | failed => exact (h.prepared a _).failed _
  | @busy device _ _ _ _ hi =>
    have hprepared := h.prepared a device
    exact (hprepared.sound.filled hprepared.next hprepared.new hi _).logged hprepared.next hprepared.new _
  | opened _ _ _ hi hid hdevice hfile hopen hcallback hacquires =>
    exact (h.prepared a _).opened hi _ hid hdevice hfile hopen hcallback hacquires

theorem find_some (hfind : d.find id = some b) : b.id = id ∧ ∃ k, d.bouts k = some b := by
  obtain ⟨x, hx, hfilter⟩ := List.exists_of_findSome?_eq_some hfind
  obtain ⟨hsome, hid⟩ := Option.filter_eq_some_iff.mp hfilter
  refine ⟨of_decide_eq_true hid, ?_⟩
  simp only [List.mem_cons, List.not_mem_nil, or_false] at hx
  rcases hx with rfl | rfl | rfl
  · exact ⟨_, hsome⟩
  · exact ⟨_, hsome⟩
  · exact ⟨_, hsome⟩

theorem find_isSome (hhas : d.Has id) : (d.find id).isSome := by
  obtain ⟨k, b, hb, hid⟩ := hhas
  rw [find, List.findSome?_isSome_iff]
  refine ⟨d.bouts k, by cases k <;> simp, ?_⟩
  rw [hb, Option.filter_some, if_pos (decide_eq_true hid)]
  rfl

theorem Sound.closeOutputStream_eq (h : d.Sound) (hclose : d.closeOutputStream id = some d') :
    ∃ k b, d.bouts k = some b ∧ b.id = id ∧ d' = d.remove k b (releases (ifHas b.outDebugFile .debugFile)) := by
  obtain ⟨b, hfind, hd'⟩ := Option.map_eq_some_iff.mp hclose
  obtain ⟨hid, k, hb⟩ := find_some hfind
  refine ⟨k, b, hb, hid, ?_⟩
  rw [← hd', ← releases_ifHas, OutputDevice.remove, h.device k b hb, hid]

theorem Sound.step {x : OutputAction} (h : d.Sound) (hstep : d.step x = some d') : d'.Sound := by
  cases x with
  | openStream r a =>
    rw [← Option.some.inj hstep]
    exact h.openOutputStream r a
  | closeStream id =>
    obtain ⟨k, b, hb, -, rfl⟩ := h.closeOutputStream_eq hstep
    exact (h.remove hb _).1

theorem Sound.step_has {x : OutputAction} (h : d.Sound) (hhas : d.Has id) (hx : x ≠ .closeStream id)
    (hstep : d.step x = some d') : d'.Has id := by
  cases x with
  | openStream r a =>
    rw [← Option.some.inj hstep]
    have houtcome := h.openOutputStream_outcome r a
    generalize d.openOutputStream r a = o at houtcome ⊢
    cases houtcome with
    | refused => exact hhas
    | @failed device => exact ((h.prepared a device).has id).mpr hhas
    | @busy device => exact ((h.prepared a device).has id).mpr hhas
    | @opened device b _ _ _ _ hk =>
      obtain ⟨k, b', hb', hid⟩ := ((h.prepared a device).has id).mpr hhas
      have hnone := h.bouts_swap_begun a device
      have hk' : k ≠ device := by
        rintro rfl
        rw [hb', hk] at hnone
        cases hnone
      exact ⟨k, b', (Function.update_of_ne hk' _ _).trans hb', hid⟩
  | closeStream id' =>
    obtain ⟨k, b, hb, hid, rfl⟩ := h.closeOutputStream_eq hstep
    obtain ⟨k', b', hb', hid'⟩ := hhas
    have hk : k' ≠ k := by
      rintro rfl
      rw [hb] at hb'
      cases hb'
      exact hx (by rw [← hid', hid])
    exact ⟨k', b', (Function.update_of_ne hk _ _).trans hb', hid'⟩

/-! ### All or nothing -/

/-- Nothing of a new stream is left: all is as before, and what was acquired for it is given back. -/
structure NothingLeft (d d' : OutputDevice) (id : Nat) : Prop where
  bouts : d'.bouts = d.bouts
  monitor : d'.monitor = d.monitor
  others : ∀ id', id' ≠ id → SameFor d d' id'
  settled : Settled d'.log id
  forgotten : d'.monitor.Forgotten id

/-- A stream is closed: the table no longer has it, all that was acquired for it is given back once, and no callback has it for
    its context. Nothing changes for the others. -/
structure ClosedOnce (d d' : OutputDevice) (id : Nat) : Prop where
  gone : ¬ d'.Has id
  bouts : ∀ k b, b.id ≠ id → (d'.bouts k = some b ↔ d.bouts k = some b)
  others : ∀ id', id' ≠ id → SameFor d d' id'
  settled : Settled d'.log id
  forgotten : d'.monitor.Forgotten id

/-- A stream is open, the entry of its device, and the only one with its address. -/
def Installed (d : OutputDevice) (device : OutDevice) (id : Nat) : Prop :=
  (∃ b, d.bouts device = some b ∧ b.id = id ∧ b.device = device ∧ b.destroyed = false ∧ b.Placed d.monitor) ∧
    ∀ k b, d.bouts k = some b → b.id = id → k = device

/-- An open that fails leaves nothing; one that succeeds installs the stream, and whatever is done until its owner closes it,
    that close is possible and gives back each resource once. -/
def OpenAllOrNothing (d : OutputDevice) (r : OpenRequest) (a : BoutAnswers) : Prop :=
  match d.openOutputStream r a with
  | (.error _, d') => NothingLeft d d' d.next
  | (.ok id, d') =>
    (∃ device, getBrcmDevicesOut r.devices (r.direct && r.hwAvSync) = some device ∧ Installed d' device id) ∧
      ∀ d'', Reaches OutputDevice.step (fun _ x => x ≠ .closeStream id) d' d'' →
        ∃ closed, d''.closeOutputStream id = some closed ∧ ClosedOnce d'' closed id

theorem Sound.closedOnce (h : d.Sound) (hclose : d.closeOutputStream id = some d') : ClosedOnce d d' id := by
  obtain ⟨k, b, hb, rfl, rfl⟩ := h.closeOutputStream_eq hclose
  obtain ⟨-, hforgotten, hgone, hothers⟩ := h.remove hb (releases (ifHas b.outDebugFile .debugFile))
  refine ⟨hgone, fun k' b' hid => ?_, fun id' hid => hothers id' hid.symm, fun r => ?_, hforgotten⟩
  · by_cases hk : k' = k
    · subst hk
      have hnone : (d.remove k' b (releases (ifHas b.outDebugFile .debugFile))).bouts k' = none := Function.update_self ..
      rw [hnone, hb]
      refine iff_of_false (fun hsome => by cases hsome) fun hsome => hid ?_
      rw [Option.some.inj hsome]
    · have hsame : (d.remove k b (releases (ifHas b.outDebugFile .debugFile))).bouts k' = d.bouts k' :=
        Function.update_of_ne hk ..
      rw [hsame]
  · obtain ⟨hacquire, hrelease⟩ := count_remove h hb (releases (ifHas b.outDebugFile .debugFile)) r
    obtain ⟨hfile, hfile'⟩ := count_releases (ifHas b.outDebugFile .debugFile) r
    obtain ⟨howns, honce⟩ := h.owns k b hb r
    rw [Bout.owned, List.count_append] at howns
    rw [hacquire, hrelease, hfile, hfile', Nat.add_zero]
    exact ⟨by omega, honce⟩

theorem Sound.closes_later (h : d.Sound) (hhas : d.Has id)
    (hrun : Reaches OutputDevice.step (fun _ x => x ≠ .closeStream id) d d') :
    ∃ closed, d'.closeOutputStream id = some closed ∧ ClosedOnce d' closed id := by
  obtain ⟨hsound, hhas'⟩ : d'.Sound ∧ d'.Has id := by
    refine Reaches.invariant (P := fun d => d.Sound ∧ d.Has id) ⟨h, hhas⟩ (fun _ _ _ hs hx hstep => ?_) hrun
    exact ⟨hs.1.step hstep, hs.1.step_has hs.2 hx hstep⟩
  obtain ⟨b, hfind⟩ := Option.isSome_iff_exists.mp (find_isSome hhas')
  have hclose : ∃ closed, d'.closeOutputStream id = some closed := by
    rw [closeOutputStream, hfind]
    exact ⟨_, rfl⟩
  obtain ⟨closed, hclosed⟩ := hclose
  exact ⟨closed, hclosed, hsound.closedOnce hclosed⟩

theorem Sound.installed (h : d.Sound) (hb : d.bouts k = some b) (hopen : b.destroyed = false) : Installed d k b.id :=
  ⟨⟨b, hb, rfl, h.device k b hb, hopen, h.placed k b hb⟩, fun k' b' hb' hid => h.distinct k' k b' b hb' hb hid⟩

theorem begun_same (d : OutputDevice) (a : BoutAnswers) (hid : id ≠ d.next) (events : List BoutEvent) :
    SameFor d ((d.begun a).logged d.next events) id := by
  have hbegun := sameFor_logged { d with next := d.next + 1 } (acquires (ifHas a.debugFile .debugFile)) hid
  exact SameFor.trans ⟨hbegun.log, hbegun.contexts⟩ (sameFor_logged (d.begun a) events hid)

theorem Sound.nothingLeft_iff (h : d.Sound) {events : List BoutEvent} (hreturns : Returns events) :
    NothingLeft d (((d.begun a).swap device).logged d.next (events ++ releases (ifHas a.debugFile .debugFile))) d.next ↔
      d.swaps device = false := by
  constructor
  · intro hnothing
    by_contra hswaps
    have hswaps' : (d.begun a).swaps device = true := Bool.of_not_eq_false hswaps
    exact (h.begun a).swap_ne hswaps' hnothing.bouts
  · intro hswaps
    have hprepared := h.prepared a device
    have hswaps' : (d.begun a).swaps device = false := hswaps
    rw [(h.begun a).swap_of_swaps hswaps'] at hprepared ⊢
    refine ⟨rfl, rfl, fun id hid => begun_same d a hid _, fun r => ?_, hprepared.forgotten⟩
    obtain ⟨hevents, honce⟩ := hreturns r
    obtain ⟨hacquire, hrelease⟩ := count_releases (ifHas a.debugFile .debugFile) r
    have hfile := count_debugFile_le a.debugFile r
    rw [OutputDevice.logged, count_logged, count_logged, if_pos rfl, if_pos rfl, hprepared.acquired, hprepared.released,
      List.count_append, List.count_append, hacquire, hrelease]
    refine ⟨by omega, ?_⟩
    split at hfile <;> split at honce <;> omega

theorem Sound.not_nothingLeft (h : d.Sound) {events : List BoutEvent} (hacquires : Acquires events b.backendOwned)
    (hlog : d'.log = ((d.begun a).swap device).log ++
      (events ++ releases (ifHas a.debugFile .debugFile)).map fun e => (d.next, e)) : ¬ NothingLeft d d' d.next := by
  intro hnothing
  have hprepared := h.prepared a device
  have hclient : 0 < b.backendOwned.count .client := List.count_pos_iff.mpr b.client_mem_backendOwned
  have hsettled := (hnothing.settled .client).1
  obtain ⟨hacquire, hrelease, -⟩ := hacquires .client
  obtain ⟨hfile, hfile'⟩ := count_releases (ifHas a.debugFile .debugFile) .client
  have hnone : (ifHas a.debugFile .debugFile).count .client = 0 := by cases a.debugFile <;> rfl
  rw [hlog, count_logged, count_logged, if_pos rfl, if_pos rfl, hprepared.acquired, hprepared.released, List.count_append,
    List.count_append, hacquire, hrelease, hfile, hfile', hnone] at hsettled
  omega

end OutputDevice
end BcmPlatform.Audio
