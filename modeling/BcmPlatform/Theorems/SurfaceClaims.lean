import BcmPlatform.Hwc.Binder
import BcmPlatform.Lib.Runs
import Mathlib.Data.List.Basic

/-! The claims of the surfaces of the binder service. The claim is a raw address: it names a live client as long as the
    client that has it does not die, since `binderDied` leaves the tables as they are, and only if it was registered. -/

namespace BcmPlatform.Hwc
open Lib

/-- The listener of a surface is the one of the client that claimed it, which is registered. -/
def HwcDispNotifier.Claimed (listeners : List HwcListener) (d : HwcDispNotifier) : Prop :=
  ∀ b, d.listener = some b → ∃ l ∈ listeners, l.client.binder = b ∧ d.claimant = some l.client

namespace HwcService
variable {s : HwcService} {c : Client} {t : SurfaceTable} {index : Int} {a : HwcServiceAction}

/-- What is promised about the claims. -/
structure ClaimsLive (s : HwcService) : Prop where
  inBounds : ∀ access ∈ s.accesses, access.1.inBounds access.2 = true
  registered : ∀ t i b, i < t.size → (s.surfaces t i).listener = some b → s.isRegistered b = true
  toClaimant : ∀ n ∈ s.sent, n.msg.ofListener = true → n.claimant = some n.receiver

/-- No surface has the address of this client. -/
def holdsNoSurface (c : Client) (s : HwcService) : Bool :=
  [SurfaceTable.video, .sideband].all fun t => (List.range t.size).all fun i => (s.surfaces t i).listener ≠ some c.binder

/-- A surface is claimed by a registered client, with an index that is not negative. -/
def mayClaim (t : SurfaceTable) (c : Client) (index : Int) (s : HwcService) : Bool :=
  index < t.size → (0 ≤ index && s.notificationListeners.any fun l => l.client = c)

/-- The indices of the HWC are in bounds where they are not checked, surfaces are claimed by registered clients, and a
    client that dies has no surface. -/
def claimsKept (s : HwcService) : HwcServiceAction → Bool
  | .registerListener _ _ | .unregisterListener _ | .setDisplayFrameId _ _ _ => true
  | .binderDied c => s.holdsNoSurface c
  | .setVideoSurfaceId c index _ _ _ => s.isHwc c.binder → SurfaceTable.video.inBounds index
  | .setSidebandSurfaceId c index _ _ _ => s.isHwc c.binder → SurfaceTable.sideband.inBounds index
  | .getVideoSurfaceId c index => s.mayClaim .video c index
  | .getSidebandSurfaceId c index => s.mayClaim .sideband c index
  | .setGeometry c type index _ _ _ _ => (SurfaceTable.ofType type).all fun t => s.isHwc c.binder → index < t.size → 0 ≤ index

/-- The invariant of the runs in which the claims are kept. -/
structure Kept (s : HwcService) : Prop where
  inBounds : ∀ access ∈ s.accesses, access.1.inBounds access.2 = true
  toClaimant : ∀ n ∈ s.sent, n.msg.ofListener = true → n.claimant = some n.receiver
  /-- No two listeners have the same binder. -/
  unique : ∀ l ∈ s.notificationListeners, ∀ l' ∈ s.notificationListeners, l.client.binder = l'.client.binder → l.client = l'.client
  claimed : ∀ t i, i < t.size → (s.surfaces t i).Claimed s.notificationListeners

theorem isRegistered_iff {b : Nat} : s.isRegistered b = true ↔ ∃ l ∈ s.notificationListeners, l.client.binder = b := by
  simp [isRegistered, List.any_eq_true]

theorem inBounds_iff : t.inBounds index = true ↔ 0 ≤ index ∧ index < t.size := by
  simp [SurfaceTable.inBounds]

namespace Kept

theorem init : ({} : HwcService).Kept where
  inBounds _ h := absurd h List.not_mem_nil
  toClaimant _ h := absurd h List.not_mem_nil
  unique _ h := absurd h List.not_mem_nil
  claimed _ _ _ _ h := by cases h

theorem claimsLive (h : s.Kept) : s.ClaimsLive where
  inBounds := h.inBounds
  toClaimant := h.toClaimant
  registered t i b hi hb := by
    obtain ⟨l, hl, hbinder, -⟩ := h.claimed t i hi b hb
    exact isRegistered_iff.mpr ⟨l, hl, hbinder⟩

/-! ### What a call is made of -/

theorem notify (h : s.Kept) {n : SentNotification} (hn : n.msg.ofListener = true → n.claimant = some n.receiver) :
    (s.notify n).Kept where
  inBounds := h.inBounds
  toClaimant m hm := by
    rcases List.mem_append.mp hm with hm | hm
    · exact h.toClaimant m hm
    · cases List.mem_singleton.mp hm
      exact hn
  unique := h.unique
  claimed := h.claimed

theorem notifyListener (h : s.Kept) {d : HwcDispNotifier} (hd : d.Claimed s.notificationListeners) (msg : HwcNotify)
    (ntfy : HwcNotificationInfo) : (s.notifyListener msg ntfy d).Kept := by
  unfold HwcService.notifyListener
  split
  · next l hl =>
    have hlistener : d.listener = some l.client.binder := by simpa using List.find?_some hl
    obtain ⟨l', hl', hbinder, hclaimant⟩ := hd _ hlistener
    refine h.notify fun _ => ?_
    rw [hclaimant, h.unique l' hl' l (List.mem_of_find?_eq_some hl) hbinder]
  · exact h

theorem notifyAcquired (h : s.Kept) (t : SurfaceTable) (value : Int) : (s.notifyAcquired t value).Kept where
  inBounds := h.inBounds
  toClaimant n hn hmsg := by
    rcases List.mem_append.mp hn with hn | hn
    · exact h.toClaimant n hn hmsg
    · obtain ⟨l, -, rfl⟩ := List.mem_map.mp hn
      cases hmsg
  unique := h.unique
  claimed := h.claimed

theorem modify (h : s.Kept) {i : Nat} {f : HwcDispNotifier → HwcDispNotifier}
    (hf : (f (s.surfaces t i)).Claimed s.notificationListeners) : (s.modify t i f).Kept where
  inBounds := h.inBounds
  toClaimant := h.toClaimant
  unique := h.unique
  claimed t' i' hi' := by
    simp only [HwcService.modify]
    by_cases ht : t' = t
    · subst ht
      by_cases hi : i' = i
      · subst hi
        simpa using hf
      · simpa [hi] using h.claimed t' i' hi'
    · simpa [ht] using h.claimed t' i' hi'

theorem access (h : s.Kept) {f : Nat → HwcService → HwcService} (hindex : t.inBounds index = true)
    (hf : ∀ s' : HwcService, s'.Kept → s'.notificationListeners = s.notificationListeners → s'.surfaces = s.surfaces →
      index.toNat < t.size → (f index.toNat s').Kept) : (s.access t index f).Kept := by
  have hsame : ({ s with accesses := s.accesses ++ [(t, index)] } : HwcService).Kept := by
    refine ⟨fun access hmem => ?_, h.toClaimant, h.unique, h.claimed⟩
    rcases List.mem_append.mp hmem with hmem | hmem
    · exact h.inBounds access hmem
    · cases List.mem_singleton.mp hmem
      exact hindex
  have hlt := inBounds_iff.mp hindex
  unfold HwcService.access
  simp only [hindex, if_true]
  exact hf _ hsame rfl rfl (by omega)

/-! ### The calls -/

theorem registerListener (h : s.Kept) (c : Client) (kind : Int) : (s.registerListener c kind).Kept := by
  unfold HwcService.registerListener
  split
  · exact h
  · next hnew =>
    have hnew : ∀ l ∈ s.notificationListeners, l.client.binder ≠ c.binder := fun l hl hbinder =>
      hnew (isRegistered_iff.mpr ⟨l, hl, hbinder⟩)
    have hadded : ({ s with notificationListeners := s.notificationListeners ++ [{ client := c, kind }] } : HwcService).Kept := by
      refine ⟨h.inBounds, h.toClaimant, fun l hl l' hl' hbinder => ?_, fun t i hi b hb => ?_⟩
      · rcases List.mem_append.mp hl with hl | hl <;> rcases List.mem_append.mp hl' with hl' | hl'
        · exact h.unique l hl l' hl' hbinder
        · cases List.mem_singleton.mp hl'
          exact absurd hbinder (hnew l hl)
        · cases List.mem_singleton.mp hl
          exact absurd hbinder.symm (hnew l' hl')
        · cases List.mem_singleton.mp hl
          cases List.mem_singleton.mp hl'
          rfl
      · obtain ⟨l, hl, hclaimed⟩ := h.claimed t i hi b hb
        exact ⟨l, List.mem_append_left _ hl, hclaimed⟩
    dsimp only
    split
    · exact hadded.notify nofun
    · exact hadded

theorem removed (h : s.Kept) {s' : HwcService} (haccesses : s'.accesses = s.accesses) (hsent : s'.sent = s.sent)
    (hlisteners : s'.notificationListeners = s.notificationListeners.eraseP fun l => l.client.binder = c.binder)
    (hsurfaces : ∀ t i b, i < t.size → (s'.surfaces t i).listener = some b → b ≠ c.binder ∧ (s.surfaces t i).listener = some b ∧
      (s'.surfaces t i).claimant = if (s.surfaces t i).claimant = some c then none else (s.surfaces t i).claimant) : s'.Kept where
  inBounds := haccesses ▸ h.inBounds
  toClaimant := hsent ▸ h.toClaimant
  unique l hl l' hl' hbinder := by
    rw [hlisteners] at hl hl'
    exact h.unique l (List.mem_of_mem_eraseP hl) l' (List.mem_of_mem_eraseP hl') hbinder
  claimed t i hi b hb := by
    obtain ⟨hother, hlistener, hclaimant⟩ := hsurfaces t i b hi hb
    obtain ⟨l, hl, hbinder, hl'⟩ := h.claimed t i hi b hlistener
    refine ⟨l, ?_, hbinder, ?_⟩
    · rw [hlisteners]
      exact (List.mem_eraseP_of_neg (by simp [hbinder, hother])).mpr hl
    · have hne : l.client ≠ c := fun hc => hother (by rw [← hbinder, hc])
      simp [hclaimant, hl', hne]

theorem unregisterListener (h : s.Kept) (c : Client) : (s.unregisterListener c).Kept := by
  unfold HwcService.unregisterListener
  dsimp only
  split
  · refine h.removed (c := c) rfl rfl rfl fun t i b hi hb => ?_
    have hb : (if (s.surfaces t i).listener = some c.binder then none else (s.surfaces t i).listener) = some b := hb
    by_cases hother : (s.surfaces t i).listener = some c.binder
    · rw [if_pos hother] at hb
      cases hb
    · rw [if_neg hother] at hb
      exact ⟨fun hbinder => hother (hbinder ▸ hb), hb, rfl⟩
  · next hnone =>
    refine ⟨h.inBounds, h.toClaimant, h.unique, fun t i hi b hb => ?_⟩
    obtain ⟨l, hl, hbinder, hclaimant⟩ := h.claimed t i hi b hb
    refine ⟨l, hl, hbinder, ?_⟩
    have hne : l.client ≠ c := fun hc => hnone (isRegistered_iff.mpr ⟨l, hl, by rw [hc]⟩)
    simp [forget, mapSurfaces, hclaimant, hne]

theorem binderDied (h : s.Kept) (hdead : s.holdsNoSurface c = true) : (s.binderDied c).Kept := by
  refine h.removed (c := c) rfl rfl rfl fun t i b hi hb => ⟨fun hbinder => ?_, hb, rfl⟩
  simp only [holdsNoSurface, List.all_cons, List.all_nil, Bool.and_true, Bool.and_eq_true, List.all_eq_true,
    List.mem_range, decide_eq_true_eq] at hdead
  rw [← hbinder] at hdead
  cases t with
  | video => exact hdead.1 i hi hb
  | sideband => exact hdead.2 i hi hb

theorem setSurfaceId (h : s.Kept) (value dispW dispH : Int) (hindex : s.isHwc c.binder = true → t.inBounds index = true) :
    (s.setSurfaceId t c index value dispW dispH).Kept := by
  unfold HwcService.setSurfaceId
  split
  · next hhwc => exact h.access (hindex hhwc) fun s' h' _ _ _ => h'.modify nofun
  · exact h

theorem getSurfaceId (h : s.Kept) (hclaim : s.mayClaim t c index = true) : (s.getSurfaceId t c index).Kept := by
  unfold HwcService.getSurfaceId
  split
  · exact h
  · next hindex =>
    simp only [mayClaim, Bool.and_eq_true, decide_eq_true_eq, List.any_eq_true] at hclaim
    obtain ⟨hnonneg, l, hl, rfl⟩ := hclaim (by omega)
    refine h.access (inBounds_iff.mpr ⟨hnonneg, by omega⟩) fun s' h' hlisteners _ _ => ?_
    refine (h'.modify fun b hb => ⟨l, hlisteners ▸ hl, ?_, rfl⟩).notifyAcquired t _
    simpa using hb

theorem setGeometry (h : s.Kept) {type : Int} (frame clipped : HwcPosition) (zorder visible : Int)
    (hindex : ∀ t, SurfaceTable.ofType type = some t → s.isHwc c.binder = true → index < t.size → 0 ≤ index) :
    (s.setGeometry c type index frame clipped zorder visible).Kept := by
  unfold HwcService.setGeometry
  split
  · exact h
  · next t ht =>
    split
    · next hhwc =>
      simp only [Bool.and_eq_true, decide_eq_true_eq] at hhwc
      refine h.access (inBounds_iff.mpr ⟨hindex t ht hhwc.1 hhwc.2, hhwc.2⟩) fun s' h' hlisteners hsurfaces hlt => ?_
      have hd : ({ s'.surfaces t index.toNat with frame, clipped, zorder, visible } : HwcDispNotifier).Claimed
          s'.notificationListeners := h'.claimed t _ hlt
      dsimp only
      split
      · exact h'
      · split
        · exact (h'.modify hd).notifyListener hd _ _
        · exact h'.modify hd
    · exact h

theorem setDisplayFrameId (h : s.Kept) (handle frame : Int) : (s.setDisplayFrameId handle frame).Kept := by
  unfold HwcService.setDisplayFrameId
  split
  · exact h
  · next i hi => exact h.notifyListener (h.claimed .video i (List.mem_range.mp (List.mem_of_find?_eq_some hi))) _ _

theorem act (h : s.Kept) (hok : s.claimsKept a = true) : (s.act a).Kept := by
  cases a with
  | registerListener c kind => exact h.registerListener c kind
  | unregisterListener c => exact h.unregisterListener c
  | binderDied c => exact h.binderDied hok
  | setVideoSurfaceId c index value dispW dispH => exact h.setSurfaceId value dispW dispH (of_decide_eq_true hok)
  | setSidebandSurfaceId c index value dispW dispH => exact h.setSurfaceId value dispW dispH (of_decide_eq_true hok)
  | getVideoSurfaceId c index => exact h.getSurfaceId hok
  | getSidebandSurfaceId c index => exact h.getSurfaceId hok
  | setGeometry c type index frame clipped zorder visible =>
    refine h.setGeometry frame clipped zorder visible fun t ht => ?_
    simp only [claimsKept, ht, Option.all_some, decide_eq_true_eq] at hok
    exact hok
  | setDisplayFrameId c handle frame => exact h.setDisplayFrameId handle frame

end Kept

/-! ### Runs -/

/-- In every run in which the claims are kept, every access is in bounds, a surface has the listener of a registered client,
    and what is told about a surface goes to its claimant. -/
theorem claims_live (s : HwcService) (h : Reaches step (fun s a => s.claimsKept a = true) {} s) : s.ClaimsLive := by
  have hkept : s.Kept := by
    refine h.invariant (P := Kept) Kept.init fun s a s' hs hok hstep => ?_
    unfold step at hstep
    split at hstep
    · cases hstep
      exact hs.act hok
    · cases hstep
  exact hkept.claimsLive

/-- A decoder claims the surface of the HWC and is told about a frame. -/
def claimedSurface : List HwcServiceAction :=
  [.registerListener ⟨1, 100⟩ hwcBinderHwc, .setVideoSurfaceId ⟨1, 100⟩ 0 7 1920 1080,
    .registerListener ⟨2, 200⟩ hwcBinderOmx, .getVideoSurfaceId ⟨2, 200⟩ 0, .setDisplayFrameId ⟨1, 100⟩ 7 33]

theorem claims_live_first : ∃ s : HwcService, (∃ n ∈ s.sent, n.msg = .display ∧ n.receiver = ⟨2, 200⟩) ∧ s.ClaimsLive := by
  obtain ⟨s, hs, hp⟩ := Reaches.exists_of_run step claimsKept {} claimedSurface
    (fun s => s.sent.any fun n => n.msg = .display && n.receiver = ⟨2, 200⟩) (by decide)
  refine ⟨s, ?_, claims_live s hs⟩
  simpa [List.any_eq_true] using hp

/-- The decoder dies and its address is reused: the next client, which claimed nothing, is told about the frames. -/
theorem claim_outlives_client : ∃ s, Reaches step (fun _ _ => True) {} s ∧ ¬ s.ClaimsLive := by
  obtain ⟨s, hs, hp⟩ := Reaches.exists_of_run step (fun _ _ => true) {}
    (claimedSurface ++ [.binderDied ⟨2, 200⟩, .registerListener ⟨3, 200⟩ hwcBinderOmx, .setDisplayFrameId ⟨1, 100⟩ 7 34])
    (fun s => s.sent.any fun n => n.msg.ofListener && n.claimant ≠ some n.receiver) (by decide)
  refine ⟨s, hs.mono fun _ _ _ => trivial, fun h => ?_⟩
  obtain ⟨n, hn, hbad⟩ := List.any_eq_true.mp hp
  simp only [Bool.and_eq_true, decide_eq_true_eq] at hbad
  exact hbad.2 (h.toClaimant n hn hbad.1)

end HwcService
end BcmPlatform.Hwc
