import BcmPlatform.Hwc.MemLocks
import BcmPlatform.Lib.Logs

/-! The locks are balanced, but for two leaks: an external reference is not given back when its ioctl fails, and the shared data
    of a layer stays locked when the lock of its pixels fails. A leak raises the external count of a block, which nothing
    lowers. -/

namespace BcmPlatform.Hwc
open Lib

/-- The counts of a block: locks, locks of its offset, external references. -/
inductive MemCount where
  | locks
  | offsets
  | refs
  deriving DecidableEq, Repr

/-- What a call changes a count of a block by. -/
def MemCall.weight (c : MemCount) (b : Nat) : MemCall → Int
  | .lock b' rc => if c = .locks ∧ b' = b ∧ rc ≠ .error then 1 else 0
  | .unlock b' => if c = .locks ∧ b' = b then -1 else 0
  | .lockOffset b' ok => if c = .offsets ∧ b' = b ∧ ok = true then 1 else 0
  | .unlockOffset b' => if c = .offsets ∧ b' = b then -1 else 0
  | .refAdd b' ok => if c = .refs ∧ b' = b ∧ ok = true then 1 else 0
  | .refRem b' ok => if c = .refs ∧ b' = b ∧ ok = true then -1 else 0

/-- The ioctl that gives a reference back does not fail. -/
def MemCall.remOk : MemCall → Bool
  | .refRem _ ok => ok
  | .refAdd _ _ | .lock _ _ | .unlock _ | .lockOffset _ _ | .unlockOffset _ => true

def RemsOk (log : List MemCall) : Prop := ∀ x ∈ log, x.remOk = true

/-- Every count of every block is what it was before, and was never below that: what is unlocked was locked. -/
def Balanced (log : List MemCall) : Prop := ∀ c b, net (MemCall.weight c b) log = 0 ∧ NeverBelow (MemCall.weight c b) log

@[simp] theorem remsOk_append {log log' : List MemCall} : RemsOk (log ++ log') ↔ RemsOk log ∧ RemsOk log' := by
  simp [RemsOk, or_imp, forall_and]

/-- Two calls that undo each other, as far as the last one succeeds, with a log between them. -/
structure Undoes (first last : MemCall) : Prop where
  first_nonneg : ∀ c b, 0 ≤ first.weight c b
  first_remOk : first.remOk = true
  nonneg : ∀ c b, 0 ≤ first.weight c b + last.weight c b
  back : last.remOk = true → ∀ c b, first.weight c b + last.weight c b = 0
  lost : last.remOk = false → ∃ b, 0 < first.weight .refs b + last.weight .refs b

namespace Undoes

theorem ref (b : Nat) (rem : Bool) : Undoes (.refAdd b true) (.refRem b rem) where
  first_nonneg c b' := by simp only [MemCall.weight]; split <;> decide
  first_remOk := rfl
  nonneg c b' := by
    cases rem
    · simp only [MemCall.weight]
      split <;> simp
    · simp only [MemCall.weight]
      split <;> simp
  back hrem c b' := by
    cases hrem
    simp only [MemCall.weight]
    split <;> rfl
  lost hrem := by
    cases hrem
    exact ⟨b, by simp [MemCall.weight]⟩

theorem lock (b : Nat) : Undoes (.lock b .success) (.unlock b) where
  first_nonneg c b' := by simp only [MemCall.weight]; split <;> decide
  first_remOk := rfl
  nonneg c b' := by by_cases h : c = .locks ∧ b = b' <;> simp [MemCall.weight, h]
  back _ c b' := by by_cases h : c = .locks ∧ b = b' <;> simp [MemCall.weight, h]
  lost hrem := nomatch hrem

theorem offset (b : Nat) : Undoes (.lockOffset b true) (.unlockOffset b) where
  first_nonneg c b' := by simp only [MemCall.weight]; split <;> decide
  first_remOk := rfl
  nonneg c b' := by by_cases h : c = .offsets ∧ b = b' <;> simp [MemCall.weight, h]
  back _ c b' := by by_cases h : c = .offsets ∧ b = b' <;> simp [MemCall.weight, h]
  lost hrem := nomatch hrem

end Undoes

/-- A log that is balanced but for leaks: the external reference of a block, when it leaks by itself or when an ioctl fails. -/
structure Returns (leaks : Prop) (log : List MemCall) : Prop where
  neverBelow : ∀ c b, NeverBelow (MemCall.weight c b) log
  returned : ¬ leaks → RemsOk log → ∀ c b, net (MemCall.weight c b) log = 0
  leaked : leaks ∨ ¬ RemsOk log → ∃ b, 0 < net (MemCall.weight .refs b) log

namespace Returns
variable {leaks leaks' : Prop} {log log' : List MemCall} {b : Nat} {block : Option Nat} {a : LockAnswers}

theorem balanced_iff (h : Returns leaks log) : Balanced log ↔ RemsOk log ∧ ¬ leaks := by
  constructor
  · intro hbalanced
    by_contra hnot
    have hleaks : leaks ∨ ¬ RemsOk log := by
      by_cases hrems : RemsOk log
      · exact .inl (not_not.mp fun hno => hnot ⟨hrems, hno⟩)
      · exact .inr hrems
    obtain ⟨b, hb⟩ := h.leaked hleaks
    rw [(hbalanced .refs b).1] at hb
    exact absurd hb (by decide)
  · intro ⟨hrems, hno⟩ c b
    exact ⟨h.returned hno hrems c b, h.neverBelow c b⟩

theorem congr (h : Returns leaks log) (hiff : leaks ↔ leaks') : Returns leaks' log := by
  rwa [← hiff]

theorem nil : Returns False [] where
  neverBelow _ _ := NeverBelow.nil
  returned _ _ _ _ := rfl
  leaked h := (h.resolve_left id fun _ hx => absurd hx List.not_mem_nil).elim

theorem append (h : Returns leaks log) (h' : Returns leaks' log') : Returns (leaks ∨ leaks') (log ++ log') where
  neverBelow c b := (h.neverBelow c b).append (h'.neverBelow c b)
  returned hno hrems c b := by
    have hrems := remsOk_append.mp hrems
    rw [net_append, h.returned (fun hl => hno (.inl hl)) hrems.1, h'.returned (fun hl => hno (.inr hl)) hrems.2]
    rfl
  leaked hleaks := by
    have hcases : (leaks ∨ ¬ RemsOk log) ∨ (leaks' ∨ ¬ RemsOk log') := by
      rw [remsOk_append] at hleaks
      tauto
    rcases hcases with hcases | hcases
    · obtain ⟨b, hb⟩ := h.leaked hcases
      refine ⟨b, ?_⟩
      have hnonneg := (h'.neverBelow .refs b).net_nonneg
      rw [net_append]
      omega
    · obtain ⟨b, hb⟩ := h'.leaked hcases
      refine ⟨b, ?_⟩
      have hnonneg := (h.neverBelow .refs b).net_nonneg
      rw [net_append]
      omega

theorem append_false (h : Returns False log) (h' : Returns False log') : Returns False (log ++ log') :=
  (h.append h').congr (by simp)

theorem flatMap {α : Type} {l : List α} {f : α → List MemCall} (h : ∀ x ∈ l, Returns False (f x)) :
    Returns False (l.flatMap f) := by
  induction l with
  | nil => exact nil
  | cons x l ih =>
    rw [List.flatMap_cons]
    exact (h x List.mem_cons_self).append_false (ih fun y hy => h y (List.mem_cons_of_mem _ hy))

theorem ite {c : Prop} [Decidable c] (h : c → Returns leaks log) (h' : ¬ c → Returns leaks log') :
    Returns leaks (if c then log else log') := by
  split
  · next hc => exact h hc
  · next hc => exact h' hc

/-! ### A lock and its unlock -/

theorem wrap {first last : MemCall} (h : Returns leaks log) (hundoes : Undoes first last) :
    Returns leaks (first :: log ++ [last]) := by
  have hnet (c : MemCount) (b : Nat) : net (MemCall.weight c b) (first :: log ++ [last]) =
      net (MemCall.weight c b) log + (first.weight c b + last.weight c b) := by
    rw [net_append, net_cons, net_cons, net_nil]
    omega
  have hrems : RemsOk (first :: log ++ [last]) ↔ RemsOk log ∧ last.remOk = true := by
    simp [RemsOk, or_imp, forall_and, hundoes.first_remOk]
  refine ⟨fun c b => (h.neverBelow c b).wrap (hundoes.first_nonneg c b) (hundoes.nonneg c b), fun hno hok c b => ?_, fun hleaks => ?_⟩
  · obtain ⟨hlog, hlast⟩ := hrems.mp hok
    rw [hnet, h.returned hno hlog, hundoes.back hlast]
    rfl
  · by_cases hcases : leaks ∨ ¬ RemsOk log
    · obtain ⟨b, hb⟩ := h.leaked hcases
      refine ⟨b, ?_⟩
      have hnonneg := hundoes.nonneg .refs b
      rw [hnet]
      omega
    · have hlast : last.remOk = false := by
        by_contra hok
        refine hcases (hleaks.imp_right fun hno hlog => hno (hrems.mpr ⟨hlog, ?_⟩))
        simpa using hok
      obtain ⟨b, hb⟩ := hundoes.lost hlast
      refine ⟨b, ?_⟩
      have hnonneg := (h.neverBelow .refs b).net_nonneg
      rw [hnet]
      omega

/-- What a lock that succeeds does. -/
def opened (b : Nat) : List MemCall := [.refAdd b true, .lock b .success]

theorem bracket (h : Returns leaks log) (b : Nat) (a : LockAnswers) :
    Returns leaks (opened b ++ log ++ memUnlock (some b) a) := by
  have hwrapped := (h.wrap (Undoes.lock b)).wrap (Undoes.ref b a.rem)
  simpa [opened, memUnlock] using hwrapped

theorem leak (h : Returns leaks log) (b : Nat) : Returns True (opened b ++ log) where
  neverBelow c b' := by
    have hadd : 0 ≤ MemCall.weight c b' (.refAdd b true) := (Undoes.ref b true).first_nonneg c b'
    have hlock : 0 ≤ MemCall.weight c b' (.lock b .success) := (Undoes.lock b).first_nonneg c b'
    have hopened : NeverBelow (MemCall.weight c b') (opened b) :=
      (NeverBelow.nil.snoc (by simpa using hadd)).snoc (by simp only [List.nil_append, net_cons, net_nil]; omega)
    exact hopened.append (h.neverBelow c b')
  returned hno := absurd trivial hno
  leaked _ := by
    refine ⟨b, ?_⟩
    have hnonneg := (h.neverBelow .refs b).net_nonneg
    have hopened : net (MemCall.weight .refs b) (opened b) = 1 := by simp [opened, MemCall.weight]
    rw [net_append, hopened]
    omega

theorem of_idle {x : MemCall} (hweight : ∀ c b, x.weight c b = 0) (hrem : x.remOk = true) : Returns False [x] where
  neverBelow c b := NeverBelow.nil.snoc (by simp [hweight])
  returned _ _ c b := by simp [hweight]
  leaked h := by
    refine absurd (h.resolve_left id) (not_not.mpr fun y hy => ?_)
    rwa [List.mem_singleton.mp hy]

theorem of_notSupported (b : Nat) (rem : Bool) :
    Returns False [.refAdd b true, .lock b .notSupported, .refRem b rem, .unlock b] where
  neverBelow c b' := by
    have hadd : NeverBelow (MemCall.weight c b') [.refAdd b true] :=
      NeverBelow.nil.snoc (by simpa using (Undoes.ref b true).first_nonneg c b')
    have hlock : NeverBelow (MemCall.weight c b') [.refAdd b true, .lock b .notSupported] :=
      hadd.snoc (by cases c <;> by_cases hb : b = b' <;> simp [MemCall.weight, hb])
    have hrem : NeverBelow (MemCall.weight c b') [.refAdd b true, .lock b .notSupported, .refRem b rem] :=
      hlock.snoc (by cases c <;> by_cases hb : b = b' <;> cases rem <;> simp [MemCall.weight, hb])
    exact hrem.snoc (by cases c <;> by_cases hb : b = b' <;> cases rem <;> simp [MemCall.weight, hb])
  returned _ hrems c b' := by
    have hrem : rem = true := hrems (.refRem b rem) (by simp)
    cases c <;> by_cases hb : b = b' <;> simp [MemCall.weight, hrem, hb]
  leaked hleaks := by
    have hrem : rem = false := by
      by_contra hrem
      refine hleaks.resolve_left id fun x hx => ?_
      simp only [List.mem_cons, List.not_mem_nil, or_false] at hx
      rcases hx with rfl | rfl | rfl | rfl
      · rfl
      · rfl
      · simpa [MemCall.remOk] using hrem
      · rfl
    exact ⟨b, by simp [MemCall.weight, hrem]⟩

theorem of_error (b : Nat) (rem : Bool) : Returns False [.refAdd b true, .lock b .error, .refRem b rem] :=
  (of_idle (x := .lock b .error) (fun c b' => by simp [MemCall.weight]) rfl).wrap (Undoes.ref b rem)

theorem of_refAdd_failed (b : Nat) : Returns False [.refAdd b false] :=
  of_idle (fun c b' => by simp [MemCall.weight]) rfl

end Returns

section Locks
variable {block : Option Nat} {a : LockAnswers} {b : Nat} {leaks : Prop} {log : List MemCall}

theorem memLock_failed (h : (memLock block a).addr = false) : Returns False (memLock block a).calls := by
  unfold memLock at h ⊢
  cases block with
  | none => exact Returns.nil
  | some b =>
    dsimp only at h ⊢
    split
    · exact Returns.of_refAdd_failed b
    · next hadd =>
      rw [if_neg hadd] at h
      cases hlock : a.lock with
      | success =>
        rw [hlock] at h
        cases h
      | notSupported => exact Returns.of_notSupported b a.rem
      | error => exact Returns.of_error b a.rem

theorem memLock_opened (h : (memLock block a).addr = true) :
    (memLock block a).rc = true ∧ ∃ b, block = some b ∧ (memLock block a).calls = Returns.opened b := by
  unfold memLock at h ⊢
  cases block with
  | none => cases h
  | some b =>
    dsimp only at h ⊢
    split at h
    · cases h
    · next hadd =>
      rw [if_neg hadd]
      cases hlock : a.lock with
      | success => exact ⟨rfl, b, rfl, rfl⟩
      | notSupported | error =>
        rw [hlock] at h
        cases h

theorem memLock_leaves : (!(memLock block a).rc || !(memLock block a).addr) = !(memLock block a).addr := by
  cases h : (memLock block a).addr with
  | false => simp
  | true => simp [(memLock_opened h).1]

theorem memLock_bracket (h : (memLock block a).addr = true) (hlog : Returns leaks log) :
    Returns leaks ((memLock block a).calls ++ log ++ memUnlock block a) := by
  obtain ⟨-, b, rfl, hcalls⟩ := memLock_opened h
  rw [hcalls]
  exact hlog.bracket b a

theorem useSharedData_returns (l : BufferLayer) (a : LockAnswers) : Returns False (l.useSharedData a) := by
  unfold BufferLayer.useSharedData
  dsimp only
  rw [memLock_leaves]
  cases h : (memLock l.sharedData a).addr with
  | false => exact memLock_failed h
  | true => simpa using memLock_bracket h Returns.nil

theorem isVideoLayerCalls_returns (hw : HwcLayer) (l : BufferLayer) (a : LockAnswers) :
    Returns False (isVideoLayerCalls hw l a) :=
  Returns.ite (fun _ => useSharedData_returns l a) fun _ => Returns.nil

theorem canHandleDownscaleCalls_returns (l : BufferLayer) (a : LockAnswers) : Returns False (canHandleDownscaleCalls l a) :=
  Returns.ite (fun _ => Returns.nil) fun _ => useSharedData_returns l a

theorem prepareGpxLayerCalls_returns (hw : HwcLayer) (l : BufferLayer) (a : LockAnswers) :
    Returns False (prepareGpxLayerCalls hw l a) :=
  Returns.ite (fun _ => Returns.nil) fun _ => useSharedData_returns l a

theorem memLockPhys_unlock (block : Option Nat) (a : LockAnswers) :
    Returns False ((memLockPhys block a).calls ++ if (memLockPhys block a).rc then memUnlockPhys block a else []) := by
  unfold memLockPhys
  cases block with
  | none => exact Returns.nil
  | some b =>
    dsimp only
    split
    · exact Returns.of_refAdd_failed b
    · split
      · simpa [memUnlockPhys] using (Returns.nil.wrap (Undoes.offset b)).wrap (Undoes.ref b a.rem)
      · have hidle : Returns False [.lockOffset b false] := Returns.of_idle (fun c b' => by simp [MemCall.weight]) rfl
        simpa using hidle.wrap (Undoes.ref b a.rem)

end Locks

/-! ### The four functions -/

namespace PrimaryMemAnswers
variable {a : PrimaryMemAnswers}

theorem setupCalls_returns (ctx : ClassifyConfig) (layers : List BufferLayer) : Returns False (a.setupCalls ctx layers) := by
  unfold setupCalls
  refine ((Returns.flatMap fun p _ => ?_).append_false (Returns.flatMap fun p _ => ?_)).append_false ?_
  · exact Returns.ite (fun _ => canHandleDownscaleCalls_returns p.1 _) fun _ => Returns.nil
  · exact isVideoLayerCalls_returns p.1.2 p.1.1 _
  · exact Returns.ite (fun _ => Returns.flatMap fun p _ => isVideoLayerCalls_returns p.1.2 p.1.1 _) fun _ => Returns.nil

theorem prepare_returns (ctx : ClassifyConfig) (layers : List BufferLayer) : Returns False (a.prepare ctx layers) := by
  unfold prepare
  refine Returns.ite (fun _ => Returns.nil) fun _ => (setupCalls_returns ctx layers).append_false (Returns.flatMap fun p _ => ?_)
  refine Returns.ite (fun _ => Returns.append_false ?_ ?_) fun _ => Returns.nil
  · exact Returns.ite (fun _ => Returns.nil) fun _ => memLockPhys_unlock p.1.1.sharedData (a.dump p.2)
  · refine (isVideoLayerCalls_returns p.1.2 p.1.1 _).append_false ?_
    exact Returns.ite (fun _ => Returns.nil) fun _ => prepareGpxLayerCalls_returns p.1.2 p.1.1 _

/-- A layer that comes to the lock of its pixels, which fails or finds no block. -/
def failsPhys (a : PrimaryMemAnswers) (i : Nat) (l : BufferLayer) : Bool :=
  isValid l.toHwcLayer && !(l.compositionType = .cursorOverlay && a.ignoreCursor) && l.compositionType ≠ .sideband &&
    l.handle.isSome && (memLock l.sharedData (a.shared i)).addr && l.fmtSet && !(memLock l.physAddr (a.phys i)).addr

/-- A layer among those that the loop still has to come to. -/
def Leaks (a : PrimaryMemAnswers) (i : Nat) (layers : List BufferLayer) : Prop :=
  ∃ m l, layers[m]? = some l ∧ i + m ≤ nscGpxClientsNumber - 1 ∧ a.failsPhys (i + m) l = true

theorem leaks_cons {i : Nat} {l : BufferLayer} {rest : List BufferLayer} : a.Leaks i (l :: rest) ↔
    (i ≤ nscGpxClientsNumber - 1 ∧ a.failsPhys i l = true) ∨ a.Leaks (i + 1) rest := by
  constructor
  · rintro ⟨m, l', hl', hm, hfails⟩
    cases m with
    | zero =>
      cases hl'
      exact .inl ⟨hm, hfails⟩
    | succ m =>
      refine .inr ⟨m, l', by simpa using hl', by omega, ?_⟩
      rw [← hfails]
      congr 1
      omega
  · rintro (⟨hi, hfails⟩ | ⟨m, l', hl', hm, hfails⟩)
    · exact ⟨0, l, rfl, hi, hfails⟩
    · refine ⟨m + 1, l', by simpa using hl', by omega, ?_⟩
      rw [← hfails]
      congr 1
      omega

theorem composeLayers_returns : ∀ (layers : List BufferLayer) (i : Nat) (lrcp : Bool),
    Returns (a.Leaks i layers) (a.composeLayers i layers lrcp)
  | [], _, _ => Returns.nil.congr ⟨False.elim, fun ⟨m, l, hl, _⟩ => by simp at hl⟩
  | l :: rest, i, lrcp => by
    have hrest (lrcp : Bool) := composeLayers_returns rest (i + 1) lrcp
    -- Where this layer does not fail, what leaks is what leaks after it.
    have hpass {log : List MemCall} (h : Returns (a.Leaks (i + 1) rest) log) (hfails : a.failsPhys i l = false) :
        Returns (a.Leaks i (l :: rest)) log := h.congr (by simp [leaks_cons, hfails])
    unfold composeLayers
    split
    · next hvalid => exact hpass (hrest lrcp) (by simp_all [failsPhys])
    · next hvalid =>
      split
      · refine Returns.nil.congr ⟨False.elim, fun ⟨m, _, _, hm, _⟩ => ?_⟩
        omega
      · next hi =>
        split
        · next hcursor => exact hpass (hrest lrcp) (by simp_all [failsPhys])
        · next hcursor =>
          split
          · next hsideband => exact hpass (by simpa [memUnlock] using hrest lrcp) (by simp [failsPhys, hsideband])
          · next hsideband =>
            split
            · next hhandle => exact hpass (hrest lrcp) (by simp_all [failsPhys])
            · next hhandle =>
              dsimp only
              rw [memLock_leaves, memLock_leaves]
              cases hshared : (memLock l.sharedData (a.shared i)).addr with
              | false =>
                refine hpass ?_ (by simp [failsPhys, hshared])
                exact ((memLock_failed hshared).append (hrest lrcp)).congr (by simp)
              | true =>
                simp only [Bool.not_true, Bool.false_eq_true, if_false]
                split
                · next hfmt =>
                  cases hphys : (memLock l.physAddr (a.phys i)).addr with
                  | false =>
                    obtain ⟨-, b, -, hcalls⟩ := memLock_opened hshared
                    simp only [Bool.not_false, if_true]
                    rw [hcalls, List.append_assoc]
                    refine (((memLock_failed hphys).append (hrest _)).leak b).congr ?_
                    have hvalid' : isValid l.toHwcLayer = true := by simpa using hvalid
                    have hcursor' : (l.compositionType = .cursorOverlay && a.ignoreCursor) = false := by simpa using hcursor
                    have hhandle' : l.handle.isSome = true := by simpa [Option.isSome_iff_ne_none] using hhandle
                    refine ⟨fun _ => leaks_cons.mpr (.inl ⟨by omega, ?_⟩), fun _ => trivial⟩
                    simp [failsPhys, hvalid', hcursor', hsideband, hhandle', hshared, hfmt, hphys]
                  | true =>
                    simp only [Bool.not_true, Bool.false_eq_true, if_false]
                    refine hpass ?_ (by simp [failsPhys, hphys])
                    have hlocked := memLock_bracket hshared (memLock_bracket hphys Returns.nil)
                    simp only [List.append_nil, List.append_assoc] at hlocked ⊢
                    simpa using hlocked.append (hrest _)
                · next hfmt =>
                  refine hpass ?_ (by simp [failsPhys, hfmt])
                  have hlocked := memLock_bracket hshared Returns.nil
                  simp only [List.append_nil] at hlocked
                  exact (hlocked.append (hrest false)).congr (by simp)

theorem compose_returns (layers : List BufferLayer) :
    Returns (a.surface = true ∧ a.Leaks 0 layers) (a.compose layers) := by
  unfold compose
  cases a.surface with
  | true => exact (composeLayers_returns layers 0 true).congr (by simp)
  | false => exact Returns.nil.congr (by simp)

end PrimaryMemAnswers

namespace VirtualMemAnswers
variable {a : VirtualMemAnswers}

theorem prepare_returns (layers : List BufferLayer) : Returns False (a.prepare layers) := by
  unfold prepare
  split
  · exact Returns.nil
  · next block _ =>
    have hlayers : Returns False (layers.zipIdx.flatMap fun p =>
        if p.1.isPlain then prepareGpxLayerCalls p.1.toHwcLayer p.1 (a.gpx p.2) else []) :=
      Returns.flatMap fun p _ => Returns.ite (fun _ => prepareGpxLayerCalls_returns p.1.toHwcLayer p.1 _) fun _ => Returns.nil
    refine Returns.append_false ?_ (Returns.ite (fun _ => Returns.nil) fun _ => hlayers)
    cases h : (memLock block a.prepareOut).addr with
    | true =>
      rw [(memLock_opened h).1]
      simpa using memLock_bracket h Returns.nil
    | false =>
      refine (memLock_failed h).append_false (Returns.ite (fun hrc => ?_) fun _ => Returns.nil)
      -- Without an address a success is one of a `NULL` block.
      cases block with
      | none => exact Returns.nil
      | some b =>
        exfalso
        revert h hrc
        simp only [memLock]
        cases a.prepareOut.add <;> cases a.prepareOut.lock <;> simp

theorem composeLayers_returns : ∀ (layers : List BufferLayer) (i : Nat), Returns False (a.composeLayers i layers)
  | [], _ => Returns.nil
  | l :: rest, i => by
    have hrest := composeLayers_returns rest (i + 1)
    unfold composeLayers
    refine Returns.ite (fun _ => hrest) fun _ => Returns.ite (fun _ => Returns.nil) fun _ => Returns.ite (fun _ => hrest) fun _ => ?_
    dsimp only
    cases h : (memLock l.sharedData (a.shared i)).addr with
    | false => exact (memLock_failed h).append_false hrest
    | true =>
      rw [(memLock_opened h).1]
      simpa using (memLock_bracket h Returns.nil).append_false hrest

theorem compose_returns (block : Option Nat) (layers : List BufferLayer) : Returns False (a.compose block layers) := by
  unfold compose
  dsimp only
  cases h : (memLock block a.composeOut).addr with
  | false => exact memLock_failed h
  | true =>
    rw [(memLock_opened h).1]
    exact memLock_bracket h (Returns.ite (fun _ => composeLayers_returns layers 0) fun _ => Returns.nil)

end VirtualMemAnswers

/-- The locks are balanced exactly if no ioctl fails that gives a reference back and, in `hwc_compose_primary`, no layer that
    comes to the lock of its pixels has no block for them or does not get the lock. -/
theorem buffer_locks_balanced (ctx : ClassifyConfig) (a : PrimaryMemAnswers) (v : VirtualMemAnswers) (block : Option Nat)
    (layers : List BufferLayer) :
    (Balanced (a.prepare ctx layers) ↔ RemsOk (a.prepare ctx layers)) ∧
      (Balanced (v.prepare layers) ↔ RemsOk (v.prepare layers)) ∧
      (Balanced (a.compose layers) ↔ RemsOk (a.compose layers) ∧ (a.surface = true →
        ∀ i l, layers[i]? = some l → i ≤ nscGpxClientsNumber - 1 → a.failsPhys i l = false)) ∧
      (Balanced (v.compose block layers) ↔ RemsOk (v.compose block layers)) := by
  refine ⟨?_, ?_, ?_, ?_⟩
  · simpa using (PrimaryMemAnswers.prepare_returns (a := a) ctx layers).balanced_iff
  · simpa using (VirtualMemAnswers.prepare_returns (a := v) layers).balanced_iff
  · rw [(PrimaryMemAnswers.compose_returns layers).balanced_iff]
    refine and_congr_right fun _ => ⟨fun hno hsurface i l hl hi => ?_, fun hok ⟨hsurface, m, l, hl, hm, hfails⟩ => ?_⟩
    · by_contra hfails
      exact hno ⟨hsurface, i, l, hl, by omega, by rw [Nat.zero_add]; simpa using hfails⟩
    · rw [Nat.zero_add] at hm hfails
      exact absurd hfails (by simp [hok hsurface m l hl hm])
  · simpa using (VirtualMemAnswers.compose_returns (a := v) block layers).balanced_iff

/-- The lock of the pixels of a layer fails: its shared data stays locked. -/
theorem buffer_stays_locked :
    ¬ Balanced (PrimaryMemAnswers.compose { phys := fun _ => { lock := .error } }
      [{ compositionType := .overlay, handle := some {}, sharedData := some 1, physAddr := some 2, fmtSet := true }]) :=
  fun h => absurd (h .locks 1).1 (by decide)

end BcmPlatform.Hwc
