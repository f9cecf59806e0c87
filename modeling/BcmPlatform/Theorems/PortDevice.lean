import BcmPlatform.Bomx.PortDisable
import BcmPlatform.Theorems.DecoderFlags

/-! A command that gives up after a timeout leaves more than the buffers behind: `Enable` sets the one flag of the two that
    `Disable` cleared, a port that was disabled before stays disabled, and what `Set…PortState(OMX_StateLoaded)` released
    stays released. -/

namespace BcmPlatform.Bomx
namespace PortDevice
variable {σ ν α ρ : Type}

/-- In no state that the command went through had the port other buffers. -/
def Keeps (c : PortDevice σ ν α) (s : σ) (seen : List σ) (dir : OmxDir) : Prop :=
  ∀ t ∈ seen, (c.port dir t).bufferList = (c.port dir s).bufferList

/-- The flags of the ports are as before the command, for the buffers that they still hold, and the component can go on in
    its old state. -/
structure Restored (c : PortDevice σ ν α) (resources : σ → ρ) (s : σ) (e : CommandEnd σ) : Prop where
  enabled : ∀ dir, (c.port dir e.state).isEnabled = (c.port dir s).isEnabled
  populated : ∀ dir, c.Keeps s e.seen dir → (c.port dir e.state).isPopulated = (c.port dir s).isPopulated
  currentState : c.currentState e.state = c.currentState s
  resources : resources e.state = resources s

/-- The port that the command disables first. -/
def firstDisabled (c : PortDevice σ ν α) (s : σ) : DisableCommand → OmxDir
  | .portDisable (.port dir) => dir
  | _ => if (c.port .input s).isEnabled then .input else .output

/-- The port that timed out was the first one to be disabled, it was not populated before or its buffers changed
    meanwhile, and there was nothing to release. -/
structure Spared (c : PortDevice σ ν α) (idle : OmxDir → ν → σ → Prop) (run : DisableRun ν α) (command : DisableCommand)
    (s : σ) (e : CommandEnd σ) : Prop where
  first : e.timedOut = some (c.firstDisabled s command)
  buffers : (c.port (c.firstDisabled s command) s).isPopulated = true → ¬ c.Keeps s e.seen (c.firstDisabled s command)
  idle : idle (c.firstDisabled s command) (run.nexus (c.firstDisabled s command)) s

/-- What the operations of a decoder change. `idle` says when the release of a port leaves the resources alone. -/
structure Laws (c : PortDevice σ ν α) (resources : σ → ρ) (idle : OmxDir → ν → σ → Prop) : Prop where
  port_setPort : ∀ dir p s, c.port dir (c.setPort dir p s) = p
  port_setPort_ne : ∀ {dir dir'} p s, dir' ≠ dir → c.port dir' (c.setPort dir p s) = c.port dir' s
  currentState_setPort : ∀ dir p s, c.currentState (c.setPort dir p s) = c.currentState s
  resources_setPort : ∀ dir p s, resources (c.setPort dir p s) = resources s
  outline_release : ∀ dir dir' n s,
    (c.port dir' (c.returnPortBuffers dir (c.setPortLoaded dir n s))).outline = (c.port dir' s).outline
  currentState_release : ∀ dir n s, c.currentState (c.returnPortBuffers dir (c.setPortLoaded dir n s)) = c.currentState s
  resources_release : ∀ dir n p s,
    resources (c.returnPortBuffers dir (c.setPortLoaded dir n (c.setPort dir p s))) = resources s ↔ idle dir n s
  step : ∀ {s t a}, c.step s a = some t → (∀ dir, (c.port dir s).Moved (c.port dir t)) ∧
    c.currentState t = c.currentState s ∧ resources t = resources s

section
variable {c : PortDevice σ ν α} {resources : σ → ρ} {idle : OmxDir → ν → σ → Prop} {s t u : σ} {dir : OmxDir}

/-- From `s` to `t` through `seen` only the buffers of the ports changed. -/
structure Passed (c : PortDevice σ ν α) (resources : σ → ρ) (s : σ) (seen : List σ) (t : σ) : Prop where
  enabled : ∀ dir, (c.port dir t).isEnabled = (c.port dir s).isEnabled
  populated : ∀ dir, c.Keeps s seen dir → (c.port dir t).isPopulated = (c.port dir s).isPopulated
  buffers : ∀ dir, c.Keeps s seen dir → (c.port dir t).bufferList = (c.port dir s).bufferList
  currentState : c.currentState t = c.currentState s
  resources : resources t = resources s

namespace Passed
variable {l l' : List σ}

theorem refl (s : σ) : Passed c resources s [] s := ⟨fun _ => rfl, fun _ _ => rfl, fun _ _ => rfl, rfl, rfl⟩

theorem keeps (h : Passed c resources s l t) (hkeeps : c.Keeps s (l ++ l') dir) :
    c.Keeps s l dir ∧ c.Keeps t l' dir := by
  have hl : c.Keeps s l dir := fun u hu => hkeeps u (List.mem_append_left _ hu)
  refine ⟨hl, fun u hu => ?_⟩
  rw [h.buffers dir hl]
  exact hkeeps u (List.mem_append_right _ hu)

theorem trans (h : Passed c resources s l t) (h' : Passed c resources t l' u) : Passed c resources s (l ++ l') u where
  enabled dir := (h'.enabled dir).trans (h.enabled dir)
  populated dir hkeeps := (h'.populated dir (h.keeps hkeeps).2).trans (h.populated dir (h.keeps hkeeps).1)
  buffers dir hkeeps := (h'.buffers dir (h.keeps hkeeps).2).trans (h.buffers dir (h.keeps hkeeps).1)
  currentState := h'.currentState.trans h.currentState
  resources := h'.resources.trans h.resources

end Passed

namespace Laws
variable (laws : Laws c resources idle)
include laws

theorem meanwhileStep {m : Meanwhile α} (h : c.meanwhileStep s m = some t) : Passed c resources s [t] t := by
  cases m with
  | step a =>
    obtain ⟨hmoved, hstate, hresources⟩ := laws.step h
    have hsame : ∀ dir, c.Keeps s [t] dir → (c.port dir t).bufferList = (c.port dir s).bufferList :=
      fun dir hkeeps => hkeeps t (List.mem_singleton_self t)
    exact ⟨fun dir => (hmoved dir).enabled, fun dir hkeeps => (hmoved dir).populated (hsame dir hkeeps), hsame, hstate,
      hresources⟩
  | setDefinition dir config =>
    cases h
    have hport : ∀ dir', (c.port dir' (c.setPort dir ((c.port dir s).setDefinition config) s)).outline =
        (c.port dir' s).outline := by
      intro dir'
      by_cases heq : dir' = dir
      · rw [heq, laws.port_setPort]
        rfl
      · rw [laws.port_setPort_ne _ _ heq]
    exact ⟨fun dir' => congrArg Prod.fst (hport dir'), fun dir' _ => congrArg (fun v => v.2.1) (hport dir'),
      fun dir' _ => congrArg (fun v => v.2.2) (hport dir'), laws.currentState_setPort _ _ _, laws.resources_setPort _ _ _⟩

theorem meanwhile : ∀ (l : List (Meanwhile α)) {s : σ} {p : σ × List σ}, c.meanwhile l s = some p →
    Passed c resources s p.2 p.1
  | [], s, p, h => by
    cases h
    exact .refl s
  | m :: rest, s, p, h => by
    obtain ⟨t, ht, hrest⟩ := Option.bind_eq_some_iff.mp h
    obtain ⟨q, hq, rfl⟩ := Option.map_eq_some_iff.mp hrest
    exact (laws.meanwhileStep ht).trans (meanwhile rest hq)

theorem waitEmpty (dir : OmxDir) : ∀ (waits : List (WaitCall α)) {s : σ} {e : CommandEnd σ},
    c.waitEmpty dir waits s = some e → ∃ t, Passed c resources s e.seen t ∧
      (e.state = t ∧ e.err = .none ∨
        e.state = c.setPort dir ((c.port dir t).reenabled true) t ∧ e.err = .timeout ∧ e.timedOut = some dir) := by
  intro waits
  induction waits with
  | nil =>
    intro s e h
    simp only [PortDevice.waitEmpty] at h
    split at h
    · cases h
      exact ⟨s, .refl s, .inl ⟨rfl, rfl⟩⟩
    · cases h
  | cons w rest ih =>
    intro s e h
    simp only [PortDevice.waitEmpty] at h
    split at h
    · cases h
      exact ⟨s, .refl s, .inl ⟨rfl, rfl⟩⟩
    · obtain ⟨p, hp, hnext⟩ := Option.bind_eq_some_iff.mp h
      have hpassed := laws.meanwhile _ hp
      split at hnext
      · cases hnext
        exact ⟨p.1, hpassed, .inr ⟨rfl, rfl, rfl⟩⟩
      · obtain ⟨e', he', rfl⟩ := Option.map_eq_some_iff.mp hnext
        obtain ⟨t, ht, hend⟩ := ih he'
        exact ⟨t, hpassed.trans ht, hend⟩

end Laws

/-! ### One port -/

/-- The waits for the port are over, or one of them timed out and the port is enabled again. -/
structure Disabled (c : PortDevice σ ν α) (resources : σ → ρ) (idle : OmxDir → ν → σ → Prop) (dir : OmxDir) (n : ν) (s : σ)
    (e : CommandEnd σ) : Prop where
  timedOut : e.err = .timeout → e.timedOut = some dir
  enabled : ∀ dir', (c.port dir' e.state).isEnabled = if dir' = dir then decide (e.err = .timeout) else (c.port dir' s).isEnabled
  populated : ∀ dir', c.Keeps s e.seen dir' →
    (c.port dir' e.state).isPopulated = if dir' = dir then false else (c.port dir' s).isPopulated
  currentState : c.currentState e.state = c.currentState s
  resources : resources e.state = resources s ↔ idle dir n s

namespace Laws
variable (laws : Laws c resources idle)
include laws

theorem releasePort (hs : (c.port dir s).isEnabled = true) (n : ν) :
    (∀ dir', (c.port dir' (c.releasePort dir n s)).isEnabled = if dir' = dir then false else (c.port dir' s).isEnabled) ∧
    (∀ dir', (c.port dir' (c.releasePort dir n s)).isPopulated =
      if dir' = dir then false else (c.port dir' s).isPopulated) ∧
    (∀ dir', (c.port dir' (c.releasePort dir n s)).bufferList = (c.port dir' s).bufferList) := by
  have houtline : ∀ dir', (c.port dir' (c.releasePort dir n s)).outline =
      if dir' = dir then (false, false, (c.port dir s).bufferList) else (c.port dir' s).outline := by
    intro dir'
    rw [PortDevice.releasePort, laws.outline_release]
    split
    · next heq => rw [heq, laws.port_setPort, Port.outline_disabled hs]
    · next hne => rw [laws.port_setPort_ne _ _ hne]
  refine ⟨fun dir' => ?_, fun dir' => ?_, fun dir' => ?_⟩
  all_goals
    have h := houtline dir'
    split at h
    · next heq =>
      subst heq
      simp only [Port.outline, Prod.mk.injEq] at h
      simp [h]
    · next hne =>
      simp only [Port.outline, Prod.mk.injEq] at h
      simp [h, hne]

theorem disablePort_waited {n : ν} {waits : List (WaitCall α)} {e : CommandEnd σ} (hs : (c.port dir s).isEnabled = true)
    (hstate : c.currentState s ≠ .loaded) (h : c.disablePort dir n waits s = some e) : Disabled c resources idle dir n s e := by
  have hdis : (c.port dir s).isDisabled = false := by
    change (!(c.port dir s).isEnabled) = false
    rw [hs]
    rfl
  simp only [PortDevice.disablePort, hdis, hstate, Bool.false_eq_true, if_false] at h
  obtain ⟨e', he', rfl⟩ := Option.map_eq_some_iff.mp h
  obtain ⟨henabled, hpopulated, hbuffers⟩ := laws.releasePort hs n
  obtain ⟨t, ht, hend⟩ := laws.waitEmpty dir waits he'
  have hstate' : c.currentState t = c.currentState s := by
    rw [ht.currentState, PortDevice.releasePort, laws.currentState_release, laws.currentState_setPort]
  have hresources : resources t = resources s ↔ idle dir n s := by
    rw [ht.resources, PortDevice.releasePort, laws.resources_release]
  -- what the command saw of a port's buffers after the release
  have hkeeps : ∀ {dir'}, c.Keeps s (c.releasePort dir n s :: e'.seen) dir' →
      c.Keeps (c.releasePort dir n s) e'.seen dir' := by
    intro dir' hkeeps u hu
    rw [hbuffers]
    exact hkeeps u (List.mem_cons_of_mem _ hu)
  rcases hend with ⟨hfinal, herr⟩ | ⟨hfinal, herr, hport⟩
  · refine ⟨fun hto => ?_, fun dir' => ?_, fun dir' hk => ?_, ?_, ?_⟩
    · rw [herr] at hto
      cases hto
    · rw [hfinal, ht.enabled, henabled, herr]
      rfl
    · rw [hfinal, ht.populated dir' (hkeeps hk), hpopulated]
    · rw [hfinal, hstate']
    · rw [hfinal, hresources]
  · have hclosed : (c.port dir t).isEnabled = false := by rw [ht.enabled, henabled, if_pos rfl]
    have hreenabled := Port.outline_reenabled hclosed
    simp only [Port.outline, Prod.mk.injEq] at hreenabled
    refine ⟨fun _ => hport, fun dir' => ?_, fun dir' hk => ?_, ?_, ?_⟩
    · rw [hfinal, herr]
      split
      · next heq => rw [heq, laws.port_setPort, hreenabled.1]; rfl
      · next hne => rw [laws.port_setPort_ne _ _ hne, ht.enabled, henabled, if_neg hne]
    · rw [hfinal]
      split
      · next heq =>
        subst heq
        rw [laws.port_setPort, hreenabled.2.1, ht.populated dir' (hkeeps hk), hpopulated, if_pos rfl]
      · next hne =>
        rw [laws.port_setPort_ne _ _ hne, ht.populated dir' (hkeeps hk), hpopulated, if_neg hne]
    · rw [hfinal, laws.currentState_setPort, hstate']
    · rw [hfinal, laws.resources_setPort, hresources]

theorem disablePort_timeout {n : ν} {waits : List (WaitCall α)} {e : CommandEnd σ}
    (h : c.disablePort dir n waits s = some e) (hto : e.err = .timeout) :
    (c.port dir s).isEnabled = true ∧ Disabled c resources idle dir n s e := by
  have hs : (c.port dir s).isEnabled = true := by
    by_contra hdis
    have hdis : (c.port dir s).isDisabled = true := by
      change (!(c.port dir s).isEnabled) = true
      rw [Bool.eq_false_iff.mpr hdis]
      rfl
    simp only [PortDevice.disablePort, if_pos hdis] at h
    cases h
    cases hto
  refine ⟨hs, ?_⟩
  by_cases hstate : c.currentState s = .loaded
  · simp only [PortDevice.disablePort, if_pos hstate] at h
    split at h
    · cases h
      cases hto
    · cases h
      cases hto
  · exact laws.disablePort_waited hs hstate h

theorem disablePort_enabled {n : ν} {waits : List (WaitCall α)} {e : CommandEnd σ}
    (hs : (c.port dir s).isEnabled = true) (h : c.disablePort dir n waits s = some e) (dir' : OmxDir) :
    (c.port dir' e.state).isEnabled = if dir' = dir then decide (e.err = .timeout) else (c.port dir' s).isEnabled := by
  by_cases hstate : c.currentState s = .loaded
  · have hdis : (c.port dir s).isDisabled = false := by
      change (!(c.port dir s).isEnabled) = false
      rw [hs]
      rfl
    simp only [PortDevice.disablePort, hdis, hstate, Bool.false_eq_true, if_false, if_true] at h
    cases h
    split
    · next heq =>
      rw [heq, laws.port_setPort, Port.isEnabled_disabled]
      rfl
    · next hne => rw [laws.port_setPort_ne _ _ hne]
  · exact (laws.disablePort_waited hs hstate h).enabled dir'

end Laws

/-- After a timeout the port is as before if it was not populated, or if its buffers changed; and the component is, if
    nothing was released. -/
theorem Disabled.restored_iff {n : ν} {e : CommandEnd σ} (h : Disabled c resources idle dir n s e) (hto : e.err = .timeout)
    (hs : (c.port dir s).isEnabled = true) :
    Restored c resources s e ↔
      ((c.port dir s).isPopulated = true → ¬ c.Keeps s e.seen dir) ∧ idle dir n s := by
  constructor
  · intro hr
    refine ⟨fun hpop hk => ?_, h.resources.mp hr.resources⟩
    have hlost := h.populated dir hk
    rw [if_pos rfl, hr.populated dir hk, hpop] at hlost
    cases hlost
  · rintro ⟨hbuffers, hidle⟩
    refine ⟨fun dir' => ?_, fun dir' hk => ?_, h.currentState, h.resources.mpr hidle⟩
    · rw [h.enabled]
      split
      · next heq => rw [heq, hto, hs]; rfl
      · rfl
    · rw [h.populated dir' hk]
      split
      · next heq =>
        subst heq
        by_contra hpop
        exact hbuffers (Bool.not_eq_false _ ▸ Ne.symm hpop) hk
      · rfl

/-! ### The commands -/

theorem disableEnabled_first (dir : OmxDir) (n : ν) (waits : List (WaitCall α)) (s : σ) :
    c.disableEnabled dir n waits { state := s } =
      if (c.port dir s).isEnabled then c.disablePort dir n waits s else some { state := s } := by
  simp [disableEnabled]

section
variable {run : DisableRun ν α} {e : CommandEnd σ} (laws : Laws c resources idle)
include laws

/-- The command times out at the first port that is enabled, or it has disabled the input port and times out at the output
    port. -/
theorem disableAll_timeout (h : c.commandPortDisable run.nexus run.waits .all s = some e) (hto : e.err = .timeout) :
    ((c.port (c.firstDisabled s .stateSetLoaded) s).isEnabled = true ∧
      Disabled c resources idle (c.firstDisabled s .stateSetLoaded) (run.nexus (c.firstDisabled s .stateSetLoaded)) s e) ∨
    ((c.port .input s).isEnabled = true ∧ (c.port .input e.state).isEnabled = false ∧ e.timedOut = some .output) := by
  obtain ⟨e₁, h₁, h₂⟩ := Option.bind_eq_some_iff.mp h
  rw [disableEnabled_first] at h₁
  by_cases hin : (c.port .input s).isEnabled = true
  · have hfirst : c.firstDisabled s .stateSetLoaded = .input := if_pos hin
    rw [if_pos hin] at h₁
    simp only [disableEnabled] at h₂
    split at h₂
    · cases h₂
      rw [hfirst]
      exact .inl (laws.disablePort_timeout h₁ hto)
    · next hok =>
      split at h₂
      · obtain ⟨e₂, he₂, rfl⟩ := Option.map_eq_some_iff.mp h₂
        obtain ⟨-, hdisabled⟩ := laws.disablePort_timeout he₂ hto
        refine .inr ⟨hin, ?_, hdisabled.timedOut hto⟩
        have hinput := laws.disablePort_enabled hin h₁ .input
        rw [if_pos rfl, not_not.mp hok] at hinput
        rw [hdisabled.enabled, if_neg OmxDir.noConfusion, hinput]
        rfl
      · cases h₂
        exact absurd (hto ▸ hok) (by simp)
  · have hfirst : c.firstDisabled s .stateSetLoaded = .output := if_neg hin
    rw [if_neg hin] at h₁
    cases h₁
    rw [disableEnabled_first] at h₂
    split at h₂
    · rw [hfirst]
      exact .inl (laws.disablePort_timeout h₂ hto)
    · cases h₂
      cases hto

/-- After a timeout the ports and the component are as before exactly if the command had disabled no other port, the port
    was not populated or its buffers changed, and nothing was released. -/
theorem restored_iff {command : DisableCommand} (h : c.execute run command s = some e) (hto : e.err = .timeout) :
    Restored c resources s e ↔ Spared c idle run command s e := by
  have hone : ∀ command : DisableCommand, (c.port (c.firstDisabled s command) s).isEnabled = true →
      Disabled c resources idle (c.firstDisabled s command) (run.nexus (c.firstDisabled s command)) s e →
      (Restored c resources s e ↔ Spared c idle run command s e) := by
    intro command hs hdisabled
    rw [hdisabled.restored_iff hto hs]
    exact ⟨fun hc => ⟨hdisabled.timedOut hto, hc.1, hc.2⟩, fun hc => ⟨hc.buffers, hc.idle⟩⟩
  have hall : c.commandPortDisable run.nexus run.waits .all s = some e → c.firstDisabled s command =
      c.firstDisabled s .stateSetLoaded → (Restored c resources s e ↔ Spared c idle run command s e) := by
    intro hcommand hfirst
    rcases disableAll_timeout laws hcommand hto with ⟨hs, hdisabled⟩ | ⟨hs, hlost, hport⟩
    · rw [← hfirst] at hs hdisabled
      exact hone _ hs hdisabled
    · refine ⟨fun hr => ?_, fun hc => ?_⟩
      · have henabled := hr.enabled .input
        rw [hlost, hs] at henabled
        cases henabled
      · have hinput : c.firstDisabled s .stateSetLoaded = .input := if_pos hs
        have hnamed := hc.first
        rw [hport, hfirst, hinput] at hnamed
        cases hnamed
  cases command with
  | portDisable portIndex =>
    cases portIndex with
    | port dir =>
      obtain ⟨hs, hdisabled⟩ := laws.disablePort_timeout h hto
      exact hone (.portDisable (.port dir)) hs hdisabled
    | all => exact hall h rfl
    | other =>
      cases h
      cases hto
  | stateSetLoaded =>
    obtain ⟨e', he', heq⟩ := Option.map_eq_some_iff.mp h
    split at heq
    · cases heq
      exact hall he' rfl
    · next hok =>
      subst heq
      exact absurd (hto ▸ hok) (by simp)

end

end
end PortDevice

end BcmPlatform.Bomx
