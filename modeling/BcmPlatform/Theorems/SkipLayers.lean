import BcmPlatform.Hwc.SkipLayers
import BcmPlatform.Lib.Runs

/-! A list whose layers are marked has the buffers of the list before. The composer thread can skip it when that list was
    shown, which `hwc_prepare` does not know: it keeps the buffers of every list that it prepared. -/

namespace BcmPlatform.Hwc
open Lib

/-- What a layer of a work item shows. -/
def ItemLayer.shows (l : ItemLayer) : Option (Nat × Nat) := if l.visible then l.layer.shows else none

theorem wanted_cons (l : ItemLayer) (item : List ItemLayer) : wanted (l :: item) = l.shows.toList ++ wanted item := by
  unfold wanted ItemLayer.shows
  rw [List.filterMap_cons]
  split
  · next hnone => rw [hnone]; rfl
  · next hsome => rw [hsome]; rfl

theorem wanted_congr {item item' : List ItemLayer} (h : item.map (·.shows) = item'.map (·.shows)) :
    wanted item = wanted item' := by
  have hid (item : List ItemLayer) : wanted item = (item.map (·.shows)).filterMap id := by
    rw [List.filterMap_map]
    rfl
  rw [hid, hid, h]

/-- What `hwc_prepare` makes of every list. -/
structure WellFormed (item : List ItemLayer) : Prop where
  clients : item.length ≤ nscGpxClientsNumber
  visible : ∀ l ∈ item, l.visible = true → l.isGpx = true
  video : ∀ l ∈ item, l.isGpx = true → l.layer.video ≠ .window ∧ l.layer.video ≠ .sideband

/-- The item has a layer that is marked. -/
def anyMarked (item : List ItemLayer) : Bool := item.any fun l => l.isGpx && l.skipSet

/-- The item shows what the item before showed, and can be skipped. -/
structure Marked (item : List ItemLayer) : Prop where
  visible : ∀ l ∈ item, l.visible = l.isGpx
  skipSet : ∀ l ∈ item, l.isGpx = true → l.skipSet = true

theorem Marked.listed {item : List ItemLayer} (h : Marked item) : listed item = wanted item :=
  List.filterMap_congr fun l hl => by rw [h.visible l hl]

theorem anyMarked_eq_false {item : List ItemLayer} (h : anyMarked item = false) (l : ItemLayer) (hl : l ∈ item)
    (hgpx : l.isGpx = true) : l.skipSet = false := by
  simpa [hgpx] using List.any_eq_false.mp h l hl

namespace SkipContext
variable {s s' : SkipContext}

/-! ### The loop over the layers -/

/-- No layer of the item fails. -/
def LayersComposed (a : Nat → LayerAnswer) (item : List ItemLayer) : Prop :=
  ∀ i l, item[i]? = some l → l.visible = true → (a i).valid = true ∧ (a i).composed = true

theorem LayersComposed.tail {a : Nat → LayerAnswer} {l : ItemLayer} {item : List ItemLayer}
    (h : LayersComposed a (l :: item)) : LayersComposed (fun i => a (i + 1)) item :=
  fun i l' hl' => h (i + 1) l' (by rwa [List.getElem?_cons_succ])

variable {videoSeen : Bool} {a : LayerAnswer} {l : ItemLayer} {loop : ComposeLoop}

theorem composeLayer_hidden (hvisible : l.visible = false) : composeLayer videoSeen a l loop = loop := by
  simp [composeLayer, hvisible]

theorem composeLayer_composed (loop : ComposeLoop)
    (hvideo : l.visible = true → l.layer.video ≠ .window ∧ l.layer.video ≠ .sideband)
    (ha : l.visible = true → a.valid = true ∧ a.composed = true)
    (hskip : l.visible = true → l.skipSet = false ∨ videoSeen = true ∧ loop.background = false) :
    (composeLayer videoSeen a l loop).composed = loop.composed ++ l.shows.toList ∧
      (composeLayer videoSeen a l loop).skipComp = loop.skipComp ∧
      (loop.background = false → (composeLayer videoSeen a l loop).background = false) := by
  cases hvisible : l.visible with
  | false => simp [composeLayer_hidden hvisible, ItemLayer.shows, hvisible]
  | true =>
    obtain ⟨hwindow, hsideband⟩ := hvideo hvisible
    obtain ⟨hvalid, hcomposed⟩ := ha hvisible
    have hskipped : (l.skipSet && !(l.skipSet && videoSeen && !loop.background)) = false := by
      obtain hnot | ⟨hseen, hback⟩ := hskip hvisible
      · simp [hnot]
      · simp [hseen, hback]
    cases hhandle : l.layer.handle with
    | none => simp [composeLayer, hhandle, ItemLayer.shows, hvisible, PrimaryLayer.shows]
    | some handle =>
      simp only [composeLayer, hvalid, hhandle, hwindow, hsideband, hvisible, hskipped, hcomposed, Bool.not_true,
        Option.isNone_some, decide_false, Bool.or_self, Bool.false_eq_true, if_false, if_true, Bool.or_false,
        ItemLayer.shows, true_and]
      intro hback
      rw [hback, Bool.false_and]

theorem composeLayer_skipped (hskip : l.visible = true → l.skipSet = true)
    (hback : (videoSeen && !loop.background) = false) :
    (composeLayer videoSeen a l loop).composed = loop.composed ∧
      (composeLayer videoSeen a l loop).background = loop.background := by
  cases hvisible : l.visible with
  | false => simp [composeLayer_hidden hvisible]
  | true =>
    have hskip := hskip hvisible
    have hforced : (l.skipSet && videoSeen && !loop.background) = false := by rw [hskip, Bool.true_and, hback]
    unfold composeLayer
    split
    · exact ⟨rfl, rfl⟩
    · simp only [hskip, Bool.true_and] at hforced
      simp [hskip, hforced]

theorem composeLayers_composed {a : Nat → LayerAnswer} : ∀ (item : List ItemLayer) (i : Nat) (loop : ComposeLoop),
    i + item.length ≤ nscGpxClientsNumber →
    (∀ l ∈ item, l.visible = true → l.layer.video ≠ .window ∧ l.layer.video ≠ .sideband) →
    LayersComposed (fun k => a (i + k)) item →
    ((∀ l ∈ item, l.visible = true → l.skipSet = false) ∨ videoSeen = true ∧ loop.background = false) →
    (composeLayers videoSeen a i item loop).composed = loop.composed ++ wanted item ∧
      (composeLayers videoSeen a i item loop).skipComp = loop.skipComp
  | [], _, loop, _, _, _, _ => ⟨(List.append_nil _).symm, rfl⟩
  | l :: rest, i, loop, hi, hvideo, ha, hskip => by
    rw [List.length_cons] at hi
    have hlayer := composeLayer_composed (a := a i) loop (hvideo l List.mem_cons_self) (ha 0 l rfl)
      fun hvisible => hskip.imp_left fun hnot => hnot l List.mem_cons_self hvisible
    obtain ⟨hcomposed, hskipComp, hback⟩ := hlayer
    have hrest := composeLayers_composed rest (i + 1) (composeLayer videoSeen (a i) l loop) (by omega)
      (fun l hl => hvideo l (List.mem_cons_of_mem _ hl))
      (by simpa only [Nat.add_assoc, Nat.add_comm 1] using ha.tail)
      (hskip.imp (fun hnot l hl => hnot l (List.mem_cons_of_mem _ hl)) fun ⟨hseen, hno⟩ => ⟨hseen, hback hno⟩)
    rw [composeLayers, if_neg (by omega), hrest.1, hrest.2, hcomposed, hskipComp, wanted_cons, List.append_assoc]
    exact ⟨rfl, rfl⟩

theorem composeLayers_skipped {a : Nat → LayerAnswer} : ∀ (item : List ItemLayer) (i : Nat) (loop : ComposeLoop),
    (∀ l ∈ item, l.visible = true → l.skipSet = true) → (videoSeen && !loop.background) = false →
    (composeLayers videoSeen a i item loop).composed = loop.composed ∧
      (composeLayers videoSeen a i item loop).background = loop.background
  | [], _, _, _, _ => ⟨rfl, rfl⟩
  | l :: rest, i, loop, hskip, hback => by
    unfold composeLayers
    split
    · exact ⟨rfl, rfl⟩
    · obtain ⟨hcomposed, hbackground⟩ := composeLayer_skipped (a := a i) (hskip l List.mem_cons_self) hback
      have hrest := composeLayers_skipped (a := a) rest (i + 1) (composeLayer videoSeen (a i) l loop)
        (fun l hl => hskip l (List.mem_cons_of_mem _ hl)) (by rw [hbackground, hback])
      rw [hrest.1, hrest.2, hcomposed, hbackground]
      exact ⟨rfl, rfl⟩

end SkipContext

/-! ### `hwc_prepare_primary` -/

namespace FrameInput
variable {f : FrameInput} {gpxCli : Nat → GpxClient} {i : Nat} {l : PrimaryLayer}

/-- The layer is one of the graphics core. -/
def isGpx (f : FrameInput) (i : Nat) (l : PrimaryLayer) : Bool := l.isGpxLayer f.glesTarget (f.valid i)

/-- The client of the layer stays as it is: the layer has no valid memory, or is one video too many. -/
def leftAlone (f : FrameInput) (i : Nat) (l : PrimaryLayer) : Bool :=
  let taken (video : LayerVideo) : Nat := (f.layers.take i).countP fun l => l.needNscLayer f.glesTarget && l.video = video
  l.needNscLayer f.glesTarget && match l.video with
    | .window => nscMmClientsNumber ≤ taken .window
    | .sideband => nscSbClientsNumber ≤ taken .sideband
    | .none | .yuv => !f.isGpx i l

theorem isGpx_spec (h : f.isGpx i l = true) :
    l.needNscLayer f.glesTarget = true ∧ (l.video = .none ∨ l.video = .yuv) := by
  simp only [isGpx, PrimaryLayer.isGpxLayer, Bool.and_eq_true, Bool.or_eq_true, decide_eq_true_eq] at h
  exact ⟨h.1.1.1, h.1.1.2⟩

theorem prepareLayers_isGpx (hl : f.layers[i]? = some l) (h : f.isGpx i l = true) :
    f.prepareLayers gpxCli i =
      if f.unchanged gpxCli i then { gpxCli i with skipSet := true }
      else { layerhdl := l.handle, skipSet := false, visible := true } := by
  obtain ⟨hneed, hvideo⟩ := isGpx_spec h
  have hprepare : f.prepareLayers gpxCli i =
      prepareGpxLayer f.geometryChanged f.glesTarget (f.valid i) l (gpxCli i) := by
    rcases hvideo with hvideo | hvideo <;> simp [prepareLayers, hl, prepareLayer, hneed, hvideo]
  rw [isGpx] at h
  rw [hprepare, prepareGpxLayer, h, unchanged, hl, Option.any_some]
  rfl

theorem prepareLayers_other (hl : f.layers[i]? = some l) (h : f.isGpx i l = false) :
    (f.prepareLayers gpxCli i).visible = if f.leftAlone i l then (gpxCli i).visible else false := by
  cases hneed : l.needNscLayer f.glesTarget with
  | false => simp [prepareLayers, hl, prepareLayer, hneed, leftAlone]
  | true =>
    have hnot := h
    rw [isGpx] at hnot
    cases hvideo : l.video <;>
      simp only [prepareLayers, hl, prepareLayer, hneed, hvideo, leftAlone, h, prepareGpxLayer, hnot, Bool.not_true,
        Bool.not_false, Bool.false_eq_true, if_false, if_true, Bool.true_and, decide_eq_true_eq]
    all_goals split <;> split <;> first | rfl | omega

theorem unchanged_spec (h : f.unchanged gpxCli i = true) : ∃ l, f.layers[i]? = some l ∧
    l.skipCand f.glesTarget (f.valid i) = true ∧ (gpxCli i).layerhdl.isSome = true ∧ (gpxCli i).layerhdl = l.handle ∧
    f.geometryChanged = false := by
  obtain ⟨l, hl, h⟩ := (Option.any_eq_true _ _).mp h
  simp only [PrimaryLayer.unchanged, Bool.and_eq_true, decide_eq_true_eq, Bool.not_eq_true'] at h
  exact ⟨l, hl, h.1.1.1, h.1.1.2, h.1.2, h.2⟩

theorem preparePrimary_eq (hprepared : f.prepared = true) (hl : f.layers[i]? = some l) : f.preparePrimary gpxCli i =
    if f.skipAll gpxCli then f.prepareLayers gpxCli i else { f.prepareLayers gpxCli i with skipSet := false } := by
  have hlt : i < f.layers.length := (List.getElem?_eq_some_iff.mp hl).1
  cases hskip : f.skipAll gpxCli <;> simp [preparePrimary, hprepared, hskip, hlt]

/-- A layer of the graphics core has its own buffer, and is marked when all candidates have the buffers that they had. -/
theorem preparePrimary_isGpx (gpxCli : Nat → GpxClient) (hprepared : f.prepared = true)
    (hl : f.layers[i]? = some l) (h : f.isGpx i l = true) :
    (f.preparePrimary gpxCli i).layerhdl = l.handle ∧
      (f.preparePrimary gpxCli i).visible = (!f.unchanged gpxCli i || (gpxCli i).visible) ∧
      (f.preparePrimary gpxCli i).skipSet = (f.skipAll gpxCli && f.unchanged gpxCli i) := by
  rw [preparePrimary_eq hprepared hl, prepareLayers_isGpx hl h]
  cases hunchanged : f.unchanged gpxCli i with
  | false => cases f.skipAll gpxCli <;> exact ⟨rfl, rfl, rfl⟩
  | true =>
    obtain ⟨l', hl', -, -, hhandle, -⟩ := unchanged_spec hunchanged
    rw [hl, Option.some.injEq] at hl'
    subst hl'
    cases f.skipAll gpxCli <;> exact ⟨hhandle, rfl, rfl⟩

theorem preparePrimary_other (hprepared : f.prepared = true) (hl : f.layers[i]? = some l)
    (h : f.isGpx i l = false) :
    (f.preparePrimary gpxCli i).visible = if f.leftAlone i l then (gpxCli i).visible else false := by
  rw [preparePrimary_eq hprepared hl, ← prepareLayers_other hl h]
  split <;> rfl

theorem unchanged_imp_skipCand (h : f.unchanged gpxCli i = true) : f.skipCand i = true := by
  obtain ⟨l, hl, hcand, -⟩ := unchanged_spec h
  exact (Option.any_eq_true _ _).mpr ⟨l, hl, hcand⟩

theorem skipAll_unchanged (h : f.skipAll gpxCli = true) (hl : f.layers[i]? = some l) (hcand : f.skipCand i = true) :
    f.unchanged gpxCli i = true := by
  have hsub : ((List.range f.layers.length).filter (f.unchanged gpxCli)).Sublist
      ((List.range f.layers.length).filter f.skipCand) :=
    List.monotone_filter_right _ fun _ => unchanged_imp_skipCand
  have hle := of_decide_eq_false (Bool.not_eq_true' _ |>.mp h)
  rw [List.countP_eq_length_filter, List.countP_eq_length_filter, Nat.not_lt] at hle
  have hmem : i ∈ (List.range f.layers.length).filter f.skipCand :=
    List.mem_filter.mpr ⟨List.mem_range.mpr (List.getElem?_eq_some_iff.mp hl).1, hcand⟩
  rw [← hsub.eq_of_length_le hle] at hmem
  exact (List.mem_filter.mp hmem).2

/-- All candidates have the buffers that they had, and there is one. -/
def marks (f : FrameInput) (gpxCli : Nat → GpxClient) : Bool :=
  f.skipAll gpxCli && (List.range f.layers.length).any (f.unchanged gpxCli)

theorem item_getElem? (gpxCli : Nat → GpxClient) (i : Nat) : (f.item gpxCli)[i]? = f.layers[i]?.map fun l =>
    { layer := if l.compositionType = .framebufferTarget then { l with handle := f.target } else l
      isGpx := f.isGpx i l
      visible := (gpxCli i).visible
      skipSet := (gpxCli i).skipSet } :=
  List.getElem?_mapIdx

theorem item_layer {x : ItemLayer} (hx : (f.item gpxCli)[i]? = some x) : ∃ l, f.layers[i]? = some l ∧
    x.layer = (if l.compositionType = .framebufferTarget then { l with handle := f.target } else l) ∧
    x.isGpx = f.isGpx i l ∧ x.visible = (gpxCli i).visible ∧ x.skipSet = (gpxCli i).skipSet := by
  rw [item_getElem?] at hx
  obtain ⟨l, hl, rfl⟩ := Option.map_eq_some_iff.mp hx
  exact ⟨l, hl, rfl, rfl, rfl, rfl⟩

end FrameInput

/-- What a list has to keep unless its geometry changed. -/
def PrimaryLayer.shape (l : PrimaryLayer) : Nat × Bool := (l.geometry, l.compositionType = .framebufferTarget)

namespace SkipContext
variable {s s' : SkipContext} {f : FrameInput}

/-- The caller tells when the number, the order or the geometry of the layers changes. -/
def promised (s : SkipContext) : SkipAction → Bool
  | .frame f => f.geometryChanged || f.layers.map (·.shape) = s.last.map (·.layer.shape)
  | .compose _ => true

/-- A list that `hwc_prepare` and `hwc_set` take as it is. When all its candidates have the buffers that they had, it has
    no other layer for the graphics core, and no layer came to the graphics core or left it. -/
def frameKept (s : SkipContext) (f : FrameInput) : Bool :=
  f.prepared && (f.posted || f.marks s.gpxCli) && f.layers.length ≤ nscGpxClientsNumber &&
    f.layers.zipIdx.all (fun p => !(f.leftAlone p.2 p.1 && (s.gpxCli p.2).visible)) &&
    (!f.marks s.gpxCli || f.layers.zipIdx.all fun p =>
      (s.gpxCli p.2).visible = f.isGpx p.2 p.1 && (!f.isGpx p.2 p.1 || f.skipCand p.2))

/-- Every layer is composed, and what is new is shown. -/
def composeKept (a : FrameAnswer) (item : List ItemLayer) : Bool :=
  (!a.surface || item.zipIdx.all fun p => !p.1.visible || (a.layers p.2).valid && (a.layers p.2).composed) &&
    (anyMarked item || wanted item = [] || a.surface && (!a.qOps || a.checkpoint) && a.push)

def skipKept (s : SkipContext) : SkipAction → Bool
  | .frame f => s.frameKept f
  | .compose a => s.composerWorkList.head?.all (composeKept a)

/-- The facts of `frameKept` by name. -/
structure FrameKept (s : SkipContext) (f : FrameInput) : Prop where
  prepared : f.prepared = true
  posted : f.posted = true ∨ f.marks s.gpxCli = true
  clients : f.layers.length ≤ nscGpxClientsNumber
  leftAlone : ∀ i l, f.layers[i]? = some l → f.leftAlone i l = true → (s.gpxCli i).visible = false
  marked : f.marks s.gpxCli = true → ∀ i l, f.layers[i]? = some l →
    (s.gpxCli i).visible = f.isGpx i l ∧ (f.isGpx i l = true → f.skipCand i = true)

theorem FrameKept.of_frameKept (h : s.frameKept f = true) : s.FrameKept f := by
  simp only [frameKept, Bool.and_eq_true, Bool.or_eq_true, decide_eq_true_eq, List.all_eq_true, Bool.not_eq_true',
    Bool.and_eq_false_iff] at h
  obtain ⟨⟨⟨⟨hprepared, hposted⟩, hclients⟩, hleft⟩, hmarked⟩ := h
  refine ⟨hprepared, hposted, hclients, fun i l hl hleftAlone => ?_, fun hmarks i l hl => ?_⟩
  · exact (hleft (l, i) (List.mem_zipIdx_iff_getElem?.mpr hl)).resolve_left (by simp [hleftAlone])
  · obtain ⟨hvisible, hcand⟩ := hmarked.resolve_left (by simp [hmarks]) (l, i) (List.mem_zipIdx_iff_getElem?.mpr hl)
    exact ⟨hvisible, fun hgpx => hcand.resolve_left (by simp [hgpx])⟩

/-! ### A list -/

/-- The clients have the buffers of the list before. -/
def ClientsFollow (s : SkipContext) : Prop :=
  ∀ i x, s.last[i]? = some x → x.visible = (s.gpxCli i).visible ∧
    (x.visible = true → x.layer.compositionType ≠ .framebufferTarget → (s.gpxCli i).layerhdl = x.layer.handle)

/-- The work item of a list. -/
def itemOf (s : SkipContext) (f : FrameInput) : List ItemLayer := f.item (f.preparePrimary s.gpxCli)

theorem FrameKept.wellFormed (h : s.FrameKept f) : WellFormed (s.itemOf f) := by
  refine ⟨?_, fun x hx hvisible => ?_, fun x hx hgpx => ?_⟩
  · rw [itemOf, FrameInput.item, List.length_mapIdx]
    exact h.clients
  · obtain ⟨i, hi⟩ := List.mem_iff_getElem?.mp hx
    obtain ⟨l, hl, -, hisGpx, hsame, -⟩ := FrameInput.item_layer hi
    cases hgpx : f.isGpx i l with
    | true => rw [hisGpx, hgpx]
    | false =>
      rw [hsame, FrameInput.preparePrimary_other h.prepared hl hgpx] at hvisible
      split at hvisible
      · next hleft => rw [h.leftAlone i l hl hleft] at hvisible; cases hvisible
      · cases hvisible
  · obtain ⟨i, hi⟩ := List.mem_iff_getElem?.mp hx
    obtain ⟨l, hl, hlayer, hisGpx, -, -⟩ := FrameInput.item_layer hi
    have hvideo := (FrameInput.isGpx_spec (hisGpx ▸ hgpx)).2
    have hsame : x.layer.video = l.video := by
      rw [hlayer]
      split <;> rfl
    rw [hsame]
    rcases hvideo with hvideo | hvideo <;> rw [hvideo] <;> exact ⟨nofun, nofun⟩

theorem FrameKept.clientsFollow (h : s.FrameKept f) : (s.frame f).ClientsFollow := by
  intro i x hx
  obtain ⟨l, hl, hlayer, hisGpx, hvisible, -⟩ := FrameInput.item_layer hx
  refine ⟨hvisible, fun hshown htarget => ?_⟩
  have hgpx : f.isGpx i l = true :=
    hisGpx ▸ h.wellFormed.visible x (List.mem_of_getElem? hx) hshown
  have hnot : l.compositionType ≠ .framebufferTarget := by
    intro hl
    rw [hlayer, if_pos hl] at htarget
    exact htarget hl
  rw [if_neg hnot] at hlayer
  rw [hlayer]
  exact (FrameInput.preparePrimary_isGpx s.gpxCli h.prepared hl hgpx).1

theorem FrameKept.unmarked (h : s.FrameKept f) (hmarks : f.marks s.gpxCli = false) : anyMarked (s.itemOf f) = false := by
  refine List.any_eq_false.mpr fun x hx hmarked => ?_
  obtain ⟨i, hi⟩ := List.mem_iff_getElem?.mp hx
  obtain ⟨l, hl, -, hisGpx, -, hskipSet⟩ := FrameInput.item_layer hi
  rw [Bool.and_eq_true, hisGpx, hskipSet] at hmarked
  rw [(FrameInput.preparePrimary_isGpx s.gpxCli h.prepared hl hmarked.1).2.2, Bool.and_eq_true] at hmarked
  have hmem : i ∈ List.range f.layers.length := List.mem_range.mpr (List.getElem?_eq_some_iff.mp hl).1
  rw [FrameInput.marks, hmarked.2.1, Bool.true_and] at hmarks
  exact List.any_eq_false.mp hmarks i hmem hmarked.2.2

theorem FrameKept.marked_layer (h : s.FrameKept f) (hmarks : f.marks s.gpxCli = true) {i : Nat} {x : ItemLayer}
    (hx : (s.itemOf f)[i]? = some x) : x.visible = (s.gpxCli i).visible ∧ x.visible = x.isGpx ∧
      (x.isGpx = true → f.layers[i]? = some x.layer ∧ f.unchanged s.gpxCli i = true ∧ x.skipSet = true) := by
  have hskipAll := (Bool.and_eq_true_iff.mp hmarks).1
  obtain ⟨l, hl, hlayer, hisGpx, hvisible, hskipSet⟩ := FrameInput.item_layer hx
  obtain ⟨hbefore, hcand⟩ := h.marked hmarks i l hl
  rw [hvisible, hisGpx, hskipSet]
  cases hgpx : f.isGpx i l with
  | true =>
    have hclient := FrameInput.preparePrimary_isGpx s.gpxCli h.prepared hl hgpx
    obtain ⟨-, hkept, hmarked⟩ := hclient
    have hunchanged := FrameInput.skipAll_unchanged hskipAll hl (hcand hgpx)
    obtain ⟨l', hl', hoverlay, -⟩ := FrameInput.unchanged_spec hunchanged
    rw [hl, Option.some.injEq] at hl'
    subst hl'
    have hnot : l.compositionType ≠ .framebufferTarget := by
      simp only [PrimaryLayer.skipCand, Bool.and_eq_true, decide_eq_true_eq] at hoverlay
      rw [hoverlay.1.2]
      decide
    rw [if_neg hnot] at hlayer
    rw [hkept, hmarked, hbefore, hgpx, Bool.or_true, hskipAll, hunchanged, hlayer]
    exact ⟨rfl, rfl, fun _ => ⟨hl, rfl, rfl⟩⟩
  | false =>
    rw [FrameInput.preparePrimary_other h.prepared hl hgpx, hbefore, hgpx, ite_self]
    refine ⟨rfl, rfl, ?_⟩
    intro h
    cases h

theorem FrameKept.marked_item (h : s.FrameKept f) (hmarks : f.marks s.gpxCli = true) : Marked (s.itemOf f) := by
  refine ⟨fun x hx => ?_, fun x hx hgpx => ?_⟩ <;> obtain ⟨i, hi⟩ := List.mem_iff_getElem?.mp hx
  · exact (h.marked_layer hmarks hi).2.1
  · exact ((h.marked_layer hmarks hi).2.2 hgpx).2.2

theorem FrameKept.marked_wanted (h : s.FrameKept f) (hmarks : f.marks s.gpxCli = true) :
    anyMarked (s.itemOf f) = true ∧ wanted (s.itemOf f) ≠ [] := by
  obtain ⟨i, -, hi⟩ := List.any_eq_true.mp (Bool.and_eq_true_iff.mp hmarks).2
  obtain ⟨l, hl, hcand, hsome, hhandle, -⟩ := FrameInput.unchanged_spec hi
  obtain ⟨x, hx, hgpx⟩ : ∃ x, (s.itemOf f)[i]? = some x ∧ x.isGpx = true := by
    simp only [PrimaryLayer.skipCand, Bool.and_eq_true] at hcand
    exact ⟨_, by rw [itemOf, FrameInput.item_getElem?, hl, Option.map_some], hcand.1.1⟩
  have hmem := List.mem_of_getElem? hx
  obtain ⟨-, hvisible, hlayer⟩ := h.marked_layer hmarks hx
  obtain ⟨hlayer, -, hskipSet⟩ := hlayer hgpx
  rw [hl, Option.some.injEq] at hlayer
  subst hlayer
  obtain ⟨handle, hsome⟩ := Option.isSome_iff_exists.mp (hhandle ▸ hsome)
  refine ⟨List.any_eq_true.mpr ⟨x, hmem, by rw [hgpx, hskipSet]; rfl⟩, List.ne_nil_of_mem (a := (x.layer.geometry, handle)) ?_⟩
  refine List.mem_filterMap.mpr ⟨x, hmem, ?_⟩
  rw [hvisible, hgpx, if_pos rfl, PrimaryLayer.shows, hsome, Option.map_some]

theorem FrameKept.marked_same (h : s.FrameKept f) (hclients : s.ClientsFollow) (hpromised : s.promised (.frame f) = true)
    (hmarks : f.marks s.gpxCli = true) : wanted (s.itemOf f) = wanted s.last := by
  have hshapes : f.layers.map (·.shape) = s.last.map (·.layer.shape) := by
    obtain ⟨i, -, hi⟩ := List.any_eq_true.mp (Bool.and_eq_true_iff.mp hmarks).2
    obtain ⟨l, -, -, -, -, hgeometry⟩ := FrameInput.unchanged_spec hi
    simpa [promised, hgeometry] using hpromised
  refine wanted_congr (List.ext_getElem? fun i => ?_)
  have hshape := congrArg (·[i]?) hshapes
  simp only [List.getElem?_map] at hshape ⊢
  cases hx : (s.itemOf f)[i]? with
  | none =>
    have hnone : f.layers[i]? = none := by simpa [itemOf, FrameInput.item_getElem?] using hx
    rw [hnone] at hshape
    rw [Option.map_eq_none_iff.mp hshape.symm]
  | some x =>
    obtain ⟨l, hl, -⟩ := FrameInput.item_layer hx
    rw [hl, Option.map_some] at hshape
    obtain ⟨y, hy, hshape⟩ := Option.map_eq_some_iff.mp hshape.symm
    obtain ⟨hvisible, hisGpx, hgpx⟩ := h.marked_layer hmarks hx
    obtain ⟨hbefore, hlayerhdl⟩ := hclients i y hy
    rw [hy, Option.map_some, Option.map_some, ItemLayer.shows, ItemLayer.shows, hvisible, ← hbefore]
    cases hshown : y.visible with
    | false => rfl
    | true =>
      obtain ⟨hsame, hunchanged, -⟩ := hgpx (by rw [← hisGpx, hvisible, ← hbefore, hshown])
      obtain ⟨l', hl', hcand, -, hhandle, -⟩ := FrameInput.unchanged_spec hunchanged
      rw [hl, Option.some.injEq] at hl' hsame
      subst hl' hsame
      simp only [PrimaryLayer.shape, Prod.mk.injEq, decide_eq_decide] at hshape
      have hnot : y.layer.compositionType ≠ .framebufferTarget := by
        simp only [PrimaryLayer.skipCand, Bool.and_eq_true, decide_eq_true_eq] at hcand
        rw [ne_eq, hshape.2, hcand.1.2]
        nofun
      rw [if_pos rfl, if_pos rfl, PrimaryLayer.shows, PrimaryLayer.shows, ← hlayerhdl hshown hnot, hhandle, hshape.1]

/-! ### The queue -/

/-- When a picture is shown and the items of the queue are composed, another picture is shown: a marked item is one for
    the picture that is shown then. -/
inductive Follows : Picture → List (List ItemLayer) → Picture → Prop
  | nil (shown : Picture) : Follows shown [] shown
  | composed {shown last : Picture} {item : List ItemLayer} {rest : List (List ItemLayer)} :
      anyMarked item = false → Follows (wanted item) rest last → Follows shown (item :: rest) last
  | marked {last : Picture} {item : List ItemLayer} {rest : List (List ItemLayer)} :
      Marked item → wanted item ≠ [] → Follows (wanted item) rest last → Follows (wanted item) (item :: rest) last

theorem Follows.append_composed {shown last : Picture} {items : List (List ItemLayer)} {item : List ItemLayer}
    (h : Follows shown items last) (hitem : anyMarked item = false) : Follows shown (items ++ [item]) (wanted item) := by
  induction h with
  | nil shown => exact .composed hitem (.nil _)
  | composed hunmarked _ ih => exact .composed hunmarked ih
  | marked hmarked hne _ ih => exact .marked hmarked hne ih

theorem Follows.append_marked {shown last : Picture} {items : List (List ItemLayer)} {item : List ItemLayer}
    (h : Follows shown items last) (hmarked : Marked item) (hne : wanted item ≠ []) (hsame : wanted item = last) :
    Follows shown (items ++ [item]) last := by
  induction h with
  | nil shown =>
    subst hsame
    exact .marked hmarked hne (.nil _)
  | composed hunmarked _ ih => exact .composed hunmarked (ih hsame)
  | marked hmarked hne _ ih => exact .marked hmarked hne (ih hsame)

/-! ### A frame -/

theorem resetFirst_cases (a : FrameAnswer) (item : List ItemLayer) (s : SkipContext) :
    (s.resetFirst a item).1 = item ∨
      (s.resetFirst a item).1 = item.map (fun l => { l with skipSet := false }) := by
  unfold resetFirst
  split
  · exact .inr rfl
  · exact .inl rfl

theorem resetFirst_getElem? {a : FrameAnswer} {item : List ItemLayer} {i : Nat} {x : ItemLayer}
    (hx : (s.resetFirst a item).1[i]? = some x) : ∃ y, item[i]? = some y ∧ x.layer = y.layer ∧ x.isGpx = y.isGpx ∧
      x.visible = y.visible := by
  rcases resetFirst_cases a item s with heq | heq <;> rw [heq] at hx
  · exact ⟨x, hx, rfl, rfl, rfl⟩
  · rw [List.getElem?_map] at hx
    obtain ⟨y, hy, rfl⟩ := Option.map_eq_some_iff.mp hx
    exact ⟨y, hy, rfl, rfl, rfl⟩

theorem resetFirst_wanted (a : FrameAnswer) (item : List ItemLayer) (s : SkipContext) :
    wanted (s.resetFirst a item).1 = wanted item := by
  rcases resetFirst_cases a item s with heq | heq <;> rw [heq]
  refine wanted_congr ?_
  rw [List.map_map]
  rfl

theorem resetFirst_wellFormed {item : List ItemLayer} (h : WellFormed item) (a : FrameAnswer) (s : SkipContext) :
    WellFormed (s.resetFirst a item).1 := by
  refine ⟨?_, fun x hx hvisible => ?_, fun x hx hgpx => ?_⟩
  · rcases resetFirst_cases a item s with heq | heq <;> rw [heq]
    · exact h.clients
    · rw [List.length_map]
      exact h.clients
  · obtain ⟨i, hi⟩ := List.mem_iff_getElem?.mp hx
    obtain ⟨y, hy, -, hisGpx, hsame⟩ := resetFirst_getElem? hi
    exact hisGpx ▸ h.visible y (List.mem_of_getElem? hy) (hsame ▸ hvisible)
  · obtain ⟨i, hi⟩ := List.mem_iff_getElem?.mp hx
    obtain ⟨y, hy, hlayer, hisGpx, -⟩ := resetFirst_getElem? hi
    rw [hlayer]
    exact h.video y (List.mem_of_getElem? hy) (hisGpx ▸ hgpx)

/-- The facts of `composeKept` by name. -/
structure ComposeKept (a : FrameAnswer) (item : List ItemLayer) : Prop where
  layers : a.surface = true → LayersComposed a.layers item
  shown : anyMarked item = true ∨ wanted item = [] ∨
    a.surface = true ∧ (a.qOps = false ∨ a.checkpoint = true) ∧ a.push = true

theorem ComposeKept.of_composeKept {a : FrameAnswer} {item : List ItemLayer} (h : composeKept a item = true) :
    ComposeKept a item := by
  simp only [composeKept, Bool.and_eq_true, Bool.or_eq_true, decide_eq_true_eq, List.all_eq_true, Bool.not_eq_true'] at h
  obtain ⟨hlayers, hshown⟩ := h
  refine ⟨fun hsurface i l hl hvisible => ?_, ?_⟩
  · exact (hlayers.resolve_left (by simp [hsurface]) (l, i) (List.mem_zipIdx_iff_getElem?.mpr hl)).resolve_left
      (by simp [hvisible])
  · rcases hshown with (hmarked | hempty) | ⟨⟨hsurface, hcheck⟩, hpush⟩
    · exact .inl hmarked
    · exact .inr (.inl hempty)
    · exact .inr (.inr ⟨hsurface, hcheck, hpush⟩)

end SkipContext

/-- A surface that is pushed has every visible layer, and when every layer was skipped the surface pushed last shows the
    buffers of the list. -/
structure FrameRecord.Sound (r : FrameRecord) : Prop where
  composed : r.pushed = true → r.composed = wanted r.item
  skipped : r.pushed = false → r.composed = [] → anyMarked r.item = true → r.shown = listed r.item

namespace SkipContext
variable {s s' : SkipContext} {f : FrameInput}

/-- What is known of the item that is composed: it is not marked, or its picture is shown. -/
def Ready (s : SkipContext) (item : List ItemLayer) : Prop :=
  anyMarked item = false ∨ Marked item ∧ wanted item ≠ [] ∧ s.shown = wanted item

theorem Ready.shown {item : List ItemLayer} (h : s.Ready item) (hmarked : anyMarked item = true) :
    Marked item ∧ wanted item ≠ [] ∧ s.shown = wanted item :=
  h.resolve_left (by simp [hmarked])

theorem composeLayers_cases {a : FrameAnswer} {item : List ItemLayer} (hwf : WellFormed item) (hready : s.Ready item)
    (hlayers : LayersComposed a.layers item) :
    let p := s.resetFirst a item
    let loop := composeLayers (videoSeen item) a.layers 0 p.1 { background := p.2 }
    loop.composed = wanted item ∧ loop.skipComp = false ∨
      p.1 = item ∧ anyMarked item = true ∧ loop.composed = [] ∧ (videoSeen item && !loop.background) = false := by
  intro p loop
  have hwf' : WellFormed p.1 := resetFirst_wellFormed hwf a s
  have hvideo : ∀ l ∈ p.1, l.visible = true → l.layer.video ≠ .window ∧ l.layer.video ≠ .sideband :=
    fun l hl hvisible => hwf'.video l hl (hwf'.visible l hl hvisible)
  have hanswers : LayersComposed (fun k => a.layers (0 + k)) p.1 := by
    intro i l hl hvisible
    obtain ⟨y, hy, -, -, hsame⟩ := resetFirst_getElem? hl
    dsimp only
    rw [Nat.zero_add]
    exact hlayers i y hy (hsame ▸ hvisible)
  by_cases hcomposed : (∀ l ∈ p.1, l.visible = true → l.skipSet = false) ∨ videoSeen item = true ∧ p.2 = false
  · have hloop := composeLayers_composed (a := a.layers) p.1 0 { background := p.2 }
      (by rw [Nat.zero_add]; exact hwf'.clients) hvideo hanswers hcomposed
    rw [List.nil_append, resetFirst_wanted] at hloop
    exact .inl hloop
  · obtain ⟨hmarks, hback⟩ := not_or.mp hcomposed
    have hsame : p.1 = item := by
      rcases resetFirst_cases a item s with heq | heq
      · exact heq
      · refine absurd (fun l hl _ => ?_) hmarks
        obtain ⟨y, -, rfl⟩ := List.mem_map.mp (heq ▸ hl)
        rfl
    have hmarked : anyMarked item = true := by
      by_contra hnot
      refine hmarks fun l hl hvisible => ?_
      rw [hsame] at hl
      exact anyMarked_eq_false (Bool.not_eq_true _ ▸ hnot) l hl (hwf.visible l hl hvisible)
    have hall := (hready.shown hmarked).1
    have hback : (videoSeen item && !p.2) = false := by
      cases hseen : videoSeen item <;> cases hbackground : p.2 <;> simp [hseen, hbackground] at hback ⊢
    have hloop := composeLayers_skipped (a := a.layers) p.1 0 { background := p.2 }
      (fun l hl hvisible => hall.skipSet l (hsame ▸ hl) (hwf.visible l (hsame ▸ hl) hvisible)) hback
    exact .inr ⟨hsame, hmarked, hloop.1, by rw [hloop.2]; exact hback⟩

theorem resetFirst_anyMarked {a : FrameAnswer} {item : List ItemLayer} (h : anyMarked (s.resetFirst a item).1 = true) :
    (s.resetFirst a item).1 = item := by
  rcases resetFirst_cases a item s with heq | heq
  · exact heq
  · rw [heq] at h
    simp [anyMarked] at h

theorem compose_frame {a : FrameAnswer} {item : List ItemLayer} {rest : List (List ItemLayer)}
    (hlist : s.composerWorkList = item :: rest) (hwf : WellFormed item) (hkept : ComposeKept a item)
    (hready : s.Ready item) (hstep : s.compose a = some s') :
    (∃ r : FrameRecord, s'.frames = s.frames ++ [r] ∧ r.Sound) ∧ (wanted item ≠ [] → s'.shown = wanted item) ∧
      s'.composerWorkList = rest ∧ s'.gpxCli = s.gpxCli ∧ s'.last = s.last := by
  simp only [compose, hlist, Option.some.injEq] at hstep
  cases hsurface : a.surface with
  | false =>
    simp only [hsurface, Bool.not_false, if_true] at hstep
    subst hstep
    refine ⟨⟨_, rfl, nofun, fun _ _ hmarked => ?_⟩, fun hne => ?_, rfl, rfl, rfl⟩
    · obtain ⟨hall, -, hshown⟩ := hready.shown hmarked
      rw [hall.listed]
      exact hshown
    · rcases hkept.shown with hmarked | hempty | ⟨hthere, -⟩
      · exact (hready.shown hmarked).2.2
      · exact absurd hempty hne
      · rw [hsurface] at hthere
        cases hthere
  | true =>
    simp only [hsurface, Bool.not_true, Bool.false_eq_true, if_false] at hstep
    subst hstep
    have hcases := composeLayers_cases hwf hready (hkept.layers hsurface)
    dsimp only at hcases
    generalize hloop : composeLayers (videoSeen item) a.layers 0 (s.resetFirst a item).1
      { background := (s.resetFirst a item).2 } = loop at hcases
    rcases hcases with ⟨hcomposed, hskipComp⟩ | ⟨hsame, hmarked, hcomposed, hback⟩
    · refine ⟨⟨_, rfl, fun _ => hcomposed.trans (resetFirst_wanted a item s).symm, fun _ hnone hmarked => ?_⟩, fun hne => ?_,
        rfl, rfl, rfl⟩
      · have hmarked : anyMarked item = true := resetFirst_anyMarked hmarked ▸ hmarked
        exact absurd (hcomposed.symm.trans hnone) (hready.shown hmarked).2.1
      · dsimp only
        split
        · exact hcomposed
        · next hnot =>
          rcases hkept.shown with hmarked | hempty | ⟨-, hcheck, hpush⟩
          · exact (hready.shown hmarked).2.2
          · exact absurd hempty hne
          · refine absurd ?_ hnot
            rw [finishFrame, if_neg (hcomposed ▸ hne), hpush]
            rcases hcheck with hcheck | hcheck <;> simp [hcheck]
    · obtain ⟨hall, -, hshown⟩ := hready.shown hmarked
      have hnot : (finishFrame a (videoSeen item) loop).1 = false := by
        rw [finishFrame, if_pos hcomposed, hback]
        rfl
      refine ⟨⟨_, rfl, fun hpushed => ?_, fun _ _ _ => ?_⟩, fun _ => ?_, rfl, rfl, rfl⟩
      · rw [hnot] at hpushed
        cases hpushed
      · rw [hsame, hall.listed]
        exact hshown
      · rw [hnot]
        exact hshown

/-! ### Runs -/

/-- Every frame was sound. -/
def SkipSound (s : SkipContext) : Prop := ∀ r ∈ s.frames, r.Sound

/-- The frames were sound, and the queue leads from the picture that is shown to the one of the last list. -/
structure Skips (s : SkipContext) : Prop where
  sound : s.SkipSound
  clients : s.ClientsFollow
  items : ∀ item ∈ s.composerWorkList, WellFormed item
  queue : ∃ shown, (shown ≠ [] → s.shown = shown) ∧ Follows shown s.composerWorkList (wanted s.last)

theorem Skips.frame (h : s.Skips) (hpromised : s.promised (.frame f) = true) (hkept : s.FrameKept f) :
    (s.frame f).Skips := by
  obtain ⟨shown, hshown, hqueue⟩ := h.queue
  refine ⟨h.sound, hkept.clientsFollow, fun item hitem => ?_, shown, hshown, ?_⟩
  · simp only [SkipContext.frame] at hitem
    split at hitem
    · rcases List.mem_append.mp hitem with hitem | hitem
      · exact h.items item hitem
      · rw [List.mem_singleton.mp hitem]
        exact hkept.wellFormed
    · exact h.items item hitem
  · have hlist : (s.frame f).composerWorkList =
        if f.posted then s.composerWorkList ++ [s.itemOf f] else s.composerWorkList := rfl
    have hlast : (s.frame f).last = s.itemOf f := rfl
    rw [hlist, hlast]
    cases hmarks : f.marks s.gpxCli with
    | false =>
      rw [if_pos (hkept.posted.resolve_right (by simp [hmarks]))]
      exact hqueue.append_composed (hkept.unmarked hmarks)
    | true =>
      have hsame := hkept.marked_same h.clients hpromised hmarks
      rw [hsame]
      split
      · exact hqueue.append_marked (hkept.marked_item hmarks) (hkept.marked_wanted hmarks).2 hsame
      · exact hqueue

theorem Skips.compose (h : s.Skips) {a : FrameAnswer} (hkept : s.skipKept (.compose a) = true)
    (hstep : s.compose a = some s') : s'.Skips := by
  cases hlist : s.composerWorkList with
  | nil =>
    rw [SkipContext.compose, hlist] at hstep
    cases hstep
  | cons item rest =>
    rw [skipKept, hlist, List.head?_cons, Option.all_some] at hkept
    obtain ⟨shown, hshown, hqueue⟩ := h.queue
    rw [hlist] at hqueue
    have hready : s.Ready item ∧ Follows (wanted item) rest (wanted s.last) := by
      cases hqueue with
      | composed hunmarked hrest => exact ⟨.inl hunmarked, hrest⟩
      | marked hmarked hne hrest => exact ⟨.inr ⟨hmarked, hne, hshown hne⟩, hrest⟩
    have hframe := compose_frame hlist (h.items item (hlist ▸ List.mem_cons_self)) (.of_composeKept hkept) hready.1 hstep
    obtain ⟨⟨r, hframes, hsound⟩, hpicture, hrest, hclients, hlast⟩ := hframe
    refine ⟨fun r' hr' => ?_, ?_, fun item' hitem' => ?_, wanted item, hpicture, ?_⟩
    · rw [hframes] at hr'
      rcases List.mem_append.mp hr' with hr' | hr'
      · exact h.sound r' hr'
      · rw [List.mem_singleton.mp hr']
        exact hsound
    · rw [ClientsFollow, hlast, hclients]
      exact h.clients
    · exact h.items item' (hlist ▸ List.mem_cons_of_mem _ (hrest ▸ hitem'))
    · rw [hrest, hlast]
      exact hready.2

theorem Skips.step (h : s.Skips) {a : SkipAction} (hok : (s.promised a && s.skipKept a) = true)
    (hstep : s.step a = some s') : s'.Skips := by
  obtain ⟨hpromised, hkept⟩ := Bool.and_eq_true_iff.mp hok
  cases a with
  | frame f =>
    cases hstep
    exact h.frame hpromised (.of_frameKept hkept)
  | compose a => exact h.compose hkept hstep

theorem ClientsFollow.init : ClientsFollow {} := by
  intro i x hx
  cases List.mem_of_getElem? hx

theorem Skips.init : Skips {} := ⟨nofun, .init, nofun, [], fun _ => rfl, .nil []⟩

/-- In every run in which what is new is shown before it is skipped, skipping is sound. -/
theorem skipping_sound (s : SkipContext)
    (h : Reaches SkipContext.step (fun s a => (s.promised a && s.skipKept a) = true) {} s) : s.SkipSound :=
  (h.invariant (P := Skips) Skips.init fun _ _ _ hs hok hstep => hs.step hok hstep).sound

/-- A list of one overlay layer, and its frame. -/
def oneLayer (handle : Nat) (a : FrameAnswer) : List SkipAction :=
  [.frame { layers := [{ geometry := 0, compositionType := .overlay, handle := some handle }],
            geometryChanged := handle = 0 }, .compose a]

/-- A list is shown, and skipped when it comes again. -/
theorem skipping_sound_again :
    ∃ s : SkipContext, s.frames.map (fun r => (r.composed, r.pushed, r.shown)) =
      [([(0, 0)], true, []), ([(0, 1)], true, [(0, 0)]), ([], false, [(0, 1)])] ∧ s.SkipSound := by
  obtain ⟨s, hs, hp⟩ := Reaches.exists_of_run SkipContext.step (fun s a => s.promised a && s.skipKept a) {}
    (oneLayer 0 {} ++ oneLayer 1 {} ++ oneLayer 1 {})
    (fun s => s.frames.map (fun r => (r.composed, r.pushed, r.shown)) =
      [([(0, 0)], true, []), ([(0, 1)], true, [(0, 0)]), ([], false, [(0, 1)])]) (by decide +kernel)
  exact ⟨s, of_decide_eq_true hp, skipping_sound s hs⟩

/-- The checkpoint of a list times out. The list comes again, and is skipped, but what is shown is the list before. -/
theorem skipped_after_timeout :
    ∃ s, Reaches SkipContext.step (fun s a => s.promised a = true) {} s ∧ ¬ s.SkipSound := by
  obtain ⟨s, hs, hp⟩ := Reaches.exists_of_run SkipContext.step promised {}
    (oneLayer 0 {} ++ oneLayer 1 { checkpoint := false } ++ oneLayer 1 {})
    (fun s => s.frames.any fun r =>
      !r.pushed && r.composed = [] && anyMarked r.item && r.shown = [(0, 0)] && listed r.item = [(0, 1)]) (by decide +kernel)
  obtain ⟨r, hr, hp⟩ := List.any_eq_true.mp hp
  simp only [Bool.and_eq_true, Bool.not_eq_true', decide_eq_true_eq] at hp
  obtain ⟨⟨⟨⟨hpushed, hnone⟩, hmarked⟩, hshown⟩, hlisted⟩ := hp
  refine ⟨s, hs, fun h => ?_⟩
  have hsame := (h r hr).skipped hpushed hnone hmarked
  rw [hshown, hlisted] at hsame
  cases hsame

end SkipContext
end BcmPlatform.Hwc
