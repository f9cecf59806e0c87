import Mathlib.Data.List.Chain
import BcmPlatform.Bomx.Command
import BcmPlatform.Bomx.Port

/-! Commands: the states go along the edges of the OMX graph, and what the application is told about the ports. -/

namespace BcmPlatform.Bomx

/-- The state graph of OMX. -/
inductive OmxState.Edge : OmxState → OmxState → Prop where
  | loadedIdle : Edge .loaded .idle
  | idleLoaded : Edge .idle .loaded
  | loadedWait : Edge .loaded .waitForResources
  | waitLoaded : Edge .waitForResources .loaded
  | waitIdle : Edge .waitForResources .idle
  | idleExecuting : Edge .idle .executing
  | executingIdle : Edge .executing .idle
  | idlePause : Edge .idle .pause
  | pauseIdle : Edge .pause .idle
  | executingPause : Edge .executing .pause
  | pauseExecuting : Edge .pause .executing
  | toInvalid {s : OmxState} : s ≠ .invalid → Edge s .invalid

theorem OmxState.not_edge_invalid {t : OmxState} : ¬ OmxState.Edge .invalid t := by
  intro h
  cases h with
  | toInvalid hne => exact hne rfl

section
variable {σ : Type} {c : ComponentClass σ} {s s' : CommandState σ} {msg : CommandMsg}

/-! ### States -/

theorem edge_of_stateChangeTarget {current target : OmxState} {new : Option OmxState} (hne : new ≠ some current)
    (h : stateChangeTarget current new = .ok target) : current.Edge target ∧ new = some target := by
  unfold stateChangeTarget at h
  split at h
  · cases h
    exact ⟨.toInvalid fun heq => hne (heq ▸ rfl), rfl⟩
  all_goals cases h
  all_goals exact ⟨by constructor, rfl⟩

theorem stateChangeStart_cases (new : Option OmxState) (hsettled : s.currentState = s.targetState) :
    (∃ target, s.currentState.Edge target ∧ s.stateChangeStart new = ({ s with targetState := target }, .none)) ∨
    ∃ err, err ≠ .none ∧ s.stateChangeStart new = (s, err) := by
  unfold CommandState.stateChangeStart
  rw [if_neg (not_not.mpr hsettled)]
  split
  · exact .inr ⟨.sameState, OmxError.noConfusion, rfl⟩
  · next hne =>
    split
    · next target htarget => exact .inl ⟨target, (edge_of_stateChangeTarget hne htarget).1, rfl⟩
    · next err herr =>
      refine .inr ⟨err, ?_, rfl⟩
      unfold stateChangeTarget at herr
      split at herr
      all_goals
        cases herr
      all_goals exact OmxError.noConfusion

/-- What a command does to the states. -/
structure StatesOk (s : CommandState σ) (o : CommandOutcome σ) : Prop where
  settled : o.state.currentState = o.state.targetState
  path : o.state.currentState = s.currentState ∨
    (s.currentState.Edge o.state.currentState ∧ o.err = .none ∧ o.error = false)
  hook : ∀ new old, o.hook = some (new, old) → old = s.currentState ∧ old.Edge new

theorem stateSet_statesOk (hsettled : s.currentState = s.targetState) (nParam1 : Nat) :
    StatesOk s (c.stateSet nParam1 s) := by
  unfold ComponentClass.stateSet
  rcases stateChangeStart_cases (OmxState.ofParam nParam1) hsettled with ⟨target, hedge, heq⟩ | ⟨err, herr, heq⟩
  · rw [heq]
    simp only
    split
    · refine ⟨rfl, .inr ⟨hedge, rfl, rfl⟩, fun new old hhook => ?_⟩
      cases hhook
      exact ⟨rfl, hedge⟩
    · refine ⟨rfl, .inl rfl, fun new old hhook => ?_⟩
      cases hhook
      exact ⟨rfl, hedge⟩
  · rw [heq]
    simp only
    exact ⟨rfl, .inl rfl, fun new old hhook => by cases hhook⟩

theorem portRounds_states (command : Command) (enabled : Bool) (op : Nat → CommandState σ → σ × OmxError) :
    ∀ (ports : List (PortFamily × Nat)) (o : CommandOutcome σ),
      (ports.foldl (c.portRound command enabled op) o).state.currentState = o.state.currentState ∧
      (ports.foldl (c.portRound command enabled op) o).state.targetState = o.state.targetState ∧
      (ports.foldl (c.portRound command enabled op) o).hook = o.hook
  | [], _ => ⟨rfl, rfl, rfl⟩
  | port :: rest, o => by
    obtain ⟨hcurrent, htarget, hhook⟩ := portRounds_states command enabled op rest (c.portRound command enabled op o port)
    have hround : (c.portRound command enabled op o port).state.currentState = o.state.currentState ∧
        (c.portRound command enabled op o port).state.targetState = o.state.targetState ∧
        (c.portRound command enabled op o port).hook = o.hook := by
      unfold ComponentClass.portRound
      split <;> exact ⟨rfl, rfl, rfl⟩
    exact ⟨hcurrent.trans hround.1, htarget.trans hround.2.1, hhook.trans hround.2.2⟩

theorem portCommand_statesOk (hsettled : s.currentState = s.targetState) (command : Command) (enabled : Bool)
    (op : Nat → CommandState σ → σ × OmxError) (nParam1 : Nat) :
    StatesOk s (c.portCommand command enabled op nParam1 s) := by
  unfold ComponentClass.portCommand
  split
  · obtain ⟨hcurrent, htarget, hhook⟩ := portRounds_states (c := c) command enabled op c.ports { state := s, reply := false }
    refine ⟨?_, .inl hcurrent, fun new old h => ?_⟩
    · rw [hcurrent, htarget]
      exact hsettled
    · rw [hhook] at h
      cases h
  · exact ⟨hsettled, .inl rfl, fun new old h => by cases h⟩

theorem execute_statesOk (hsettled : s.currentState = s.targetState) (msg : CommandMsg) :
    StatesOk s (c.execute msg s) := by
  unfold ComponentClass.execute
  split
  · exact stateSet_statesOk hsettled _
  · exact portCommand_statesOk hsettled ..
  · exact portCommand_statesOk hsettled ..
  · exact portCommand_statesOk hsettled ..
  · exact ⟨hsettled, .inl rfl, fun new old h => by cases h⟩
  · exact ⟨hsettled, .inl rfl, fun new old h => by cases h⟩

theorem commandEventHandler_statesOk (hsettled : s.currentState = s.targetState) (msg : CommandMsg) :
    StatesOk s (c.commandEventHandler msg s) := by
  obtain ⟨hafter, hpath, hhook⟩ := execute_statesOk (c := c) hsettled msg
  exact ⟨hafter, hpath, hhook⟩

theorem after_settled (hsettled : s.currentState = s.targetState) :
    ∀ msgs, (c.after s msgs).currentState = (c.after s msgs).targetState := by
  intro msgs
  induction msgs generalizing s with
  | nil => exact hsettled
  | cons msg rest ih => exact ih (commandEventHandler_statesOk hsettled msg).settled

theorem visited_ne_nil (msgs : List CommandMsg) : ∃ rest, c.visited s msgs = s.currentState :: rest := by
  cases msgs with
  | nil => exact ⟨[], rfl⟩
  | cons msg rest => exact ⟨_, rfl⟩

theorem visited_path (hsettled : s.currentState = s.targetState) :
    ∀ msgs, (c.visited s msgs).IsChain fun old new => new = old ∨ old.Edge new := by
  intro msgs
  induction msgs generalizing s with
  | nil => exact List.isChain_singleton _
  | cons msg rest ih =>
    have hok := commandEventHandler_statesOk (c := c) hsettled msg
    have htail := ih hok.settled
    obtain ⟨later, hlater⟩ := visited_ne_nil (c := c) (s := (c.commandEventHandler msg s).state) rest
    rw [ComponentClass.visited, hlater]
    rw [hlater] at htail
    exact List.isChain_cons_cons.mpr ⟨hok.path.imp_right (·.1), htail⟩

/-- Over every sequence of commands, for every behaviour of the derived class. -/
theorem command_state_machine (c : ComponentClass σ) (rest : σ) (msgs : List CommandMsg) :
    let start : CommandState σ := { currentState := .loaded, targetState := .loaded, rest }
    let s := c.after start msgs
    s.currentState = s.targetState ∧
    (c.visited start msgs).IsChain (fun old new => new = old ∨ old.Edge new) ∧
    ∀ msg, let o := c.commandEventHandler msg s
      (s.currentState = .invalid → o.state.currentState = .invalid) ∧
      (∀ new old, o.hook = some (new, old) → old = s.currentState ∧ old.Edge new) ∧
      ((o.err ≠ .none ∨ ∃ err command, ComponentEvent.error err command ∈ c.report msg o) →
        o.state.currentState = s.currentState) := by
  intro start s
  have hsettled : s.currentState = s.targetState := after_settled rfl msgs
  refine ⟨hsettled, visited_path rfl msgs, fun msg => ?_⟩
  have hok := commandEventHandler_statesOk (c := c) hsettled msg
  refine ⟨fun hinvalid => ?_, hok.hook, fun herr => ?_⟩
  · rcases hok.path with hsame | ⟨hedge, -, -⟩
    · exact hsame.trans hinvalid
    · rw [hinvalid] at hedge
      exact absurd hedge OmxState.not_edge_invalid
  · rcases hok.path with hsame | ⟨-, hnone, hclear⟩
    · exact hsame
    · -- a successful change reports no error
      rcases herr with herr | ⟨err, command, hevent⟩
      · exact absurd hnone herr
      · unfold ComponentClass.report at hevent
        split at hevent
        · cases hevent
        · split at hevent
          · simp at hevent
          · split at hevent
            · next hreport =>
              rcases hreport with herr | herror
              · exact absurd hnone herr
              · rw [hclear] at herror
                cases herror
            · cases hevent

/-! ### Reports -/

/-- The ports for which the command was reported complete. -/
def completedPorts (command : Command) (events : List ComponentEvent) : List Nat :=
  events.filterMap fun
    | .cmdComplete command' port => if command' = command then some port else none
    | .error .. => none

/-- A faithful report: complete for the ports whose operation succeeded, and an error, with a code that an operation
    returned, exactly if one failed. -/
structure CommandOutcome.Faithful (command : Command) (o : CommandOutcome σ) : Prop where
  complete : completedPorts command o.events = (o.results.filter (·.2 = .none)).map (·.1)
  error_iff : (∃ err command, ComponentEvent.error err command ∈ o.events) ↔ ∃ r ∈ o.results, r.2 ≠ .none
  code : ∀ err command, ComponentEvent.error err command ∈ o.events → err ≠ .none ∧ ∃ r ∈ o.results, r.2 = err

/-- What a loop over the ports accumulates. -/
structure LoopOutcome (c : ComponentClass σ) (command : Command) (o : CommandOutcome σ) : Prop where
  events : o.events = if c.eventHandler then o.results.map fun r => .cmdComplete command r.1 else []
  error : o.error = true ↔ ∃ r ∈ o.results, r.2 ≠ .none
  err : o.err = (o.results.getLast?.map (·.2)).getD .none
  reply : o.reply = false

theorem LoopOutcome.portRound {command : Command} {o : CommandOutcome σ} (h : LoopOutcome c command o) (enabled : Bool)
    (op : Nat → CommandState σ → σ × OmxError) (port : PortFamily × Nat) :
    LoopOutcome c command (c.portRound command enabled op o port) := by
  simp only [ComponentClass.portRound]
  split
  · generalize op (c.portBase port.1 + port.2) o.state = r
    refine ⟨?_, ?_, ?_, h.reply⟩
    · simp only [h.events]
      cases c.eventHandler <;> simp
    · simp only [Bool.or_eq_true, decide_eq_true_eq, h.error, List.mem_append, List.mem_singleton]
      constructor
      · rintro (⟨r', hr', hne⟩ | hne)
        · exact ⟨r', .inl hr', hne⟩
        · exact ⟨_, .inr rfl, hne⟩
      · rintro ⟨r', hr' | rfl, hne⟩
        · exact .inl ⟨r', hr', hne⟩
        · exact .inr hne
    · simp
  · exact h

theorem LoopOutcome.portRounds {command : Command} (enabled : Bool) (op : Nat → CommandState σ → σ × OmxError) :
    ∀ (ports : List (PortFamily × Nat)) {o : CommandOutcome σ}, LoopOutcome c command o →
      LoopOutcome c command (ports.foldl (c.portRound command enabled op) o)
  | [], _, h => h
  | port :: rest, _, h => LoopOutcome.portRounds enabled op rest (h.portRound enabled op port)

theorem completedPorts_map (command : Command) (results : List (Nat × OmxError)) :
    completedPorts command (results.map fun r => .cmdComplete command r.1) = results.map (·.1) := by
  simp [completedPorts, List.filterMap_map]

theorem faithful_single_iff {command : Command} {o : CommandOutcome σ} {port : Nat} (hevents : o.events = [])
    (hreply : o.reply = true) (herror : o.error = false) (hresults : o.results = [(port, o.err)]) :
    CommandOutcome.Faithful command { o with events := o.events ++ c.report ⟨command, port⟩ o } ↔
      c.eventHandler = true := by
  simp only [ComponentClass.report, hevents, hreply, herror]
  cases hhandler : c.eventHandler
  · refine iff_of_false (fun h => ?_) Bool.false_ne_true
    by_cases hnone : o.err = .none
    · have hcomplete := h.complete
      simp [completedPorts, hresults, hnone] at hcomplete
    · have herr := h.error_iff
      simp [hresults, hnone] at herr
  · refine iff_of_true ?_ rfl
    by_cases hnone : o.err = .none
    · refine ⟨?_, ?_, ?_⟩ <;> simp [completedPorts, hresults, hnone]
    · refine ⟨?_, ?_, ?_⟩ <;> simp [completedPorts, hresults, hnone]

theorem faithful_all_iff {command : Command} {o : CommandOutcome σ} {port : Nat} (h : LoopOutcome c command o) :
    CommandOutcome.Faithful command { o with events := o.events ++ c.report ⟨command, port⟩ o } ↔
      (c.eventHandler = true ∨ o.results = []) ∧ ∀ r ∈ o.results, r.2 = .none := by
  constructor
  · intro hfaithful
    cases hhandler : c.eventHandler
    · -- without a callback nothing is told
      have hreport : c.report ⟨command, port⟩ o = [] := by simp [ComponentClass.report, hhandler]
      have hevents : o.events = [] := by simpa [hhandler] using h.events
      have hok : ∀ r ∈ o.results, r.2 = .none := by
        intro r hr
        by_contra hne
        obtain ⟨err, command', hmem⟩ := hfaithful.error_iff.mpr ⟨r, hr, hne⟩
        rw [hevents, hreport] at hmem
        cases hmem
      refine ⟨.inr ?_, hok⟩
      have hcomplete := hfaithful.complete
      rw [List.filter_eq_self.mpr fun r hr => by simpa using hok r hr] at hcomplete
      simp only [hevents, hreport, List.append_nil] at hcomplete
      exact List.map_eq_nil_iff.mp hcomplete.symm
    · refine ⟨.inl rfl, ?_⟩
      have hreport : completedPorts command (c.report ⟨command, port⟩ o) = [] := by
        simp only [ComponentClass.report, hhandler, h.reply]
        by_cases herr : o.err ≠ .none ∨ o.error = true <;> simp [completedPorts, herr]
      have hcomplete := hfaithful.complete
      rw [completedPorts, List.filterMap_append, ← completedPorts, ← completedPorts, hreport, List.append_nil, h.events,
        hhandler, if_pos rfl, completedPorts_map] at hcomplete
      have hlength := congrArg List.length hcomplete
      rw [List.length_map, List.length_map] at hlength
      intro r hr
      have hall := List.length_filter_eq_length_iff.mp hlength.symm r hr
      simpa using hall
  · rintro ⟨hhandler, hok⟩
    have hclear : o.error = false := by
      rw [Bool.eq_false_iff, Ne, h.error]
      rintro ⟨r, hr, hne⟩
      exact hne (hok r hr)
    have hnone : o.err = .none := by
      rw [h.err]
      cases hlast : o.results.getLast? with
      | none => rfl
      | some r => exact hok r (List.mem_of_getLast? hlast)
    have hreport : c.report ⟨command, port⟩ o = [] := by
      simp [ComponentClass.report, h.reply, hclear, hnone]
    have hall : o.results.filter (·.2 = .none) = o.results :=
      List.filter_eq_self.mpr fun r hr => by simpa using hok r hr
    have hevents : o.events = o.results.map fun r => .cmdComplete command r.1 := by
      rw [h.events]
      rcases hhandler with hhandler | hempty
      · rw [if_pos hhandler]
      · rw [hempty]
        split <;> rfl
    rw [hreport, List.append_nil]
    refine ⟨?_, ?_, ?_⟩
    · rw [hall, hevents]
      exact completedPorts_map command o.results
    · refine iff_of_false ?_ ?_
      · rintro ⟨err, command', hmem⟩
        rw [hevents] at hmem
        simp at hmem
      · rintro ⟨r, hr, hne⟩
        exact hne (hok r hr)
    · intro err command' hmem
      rw [hevents] at hmem
      simp at hmem

/-- For a command about ports, the report is faithful exactly if the application has a callback and, for `OMX_ALL`, no
    operation failed, or if there was no operation. -/
theorem command_reports_iff (c : ComponentClass σ) (msg : CommandMsg)
    (hcommand : msg.command = .flush ∨ msg.command = .portEnable ∨ msg.command = .portDisable) (s : CommandState σ) :
    (c.commandEventHandler msg s).Faithful msg.command ↔
      (c.eventHandler = true ∨ (c.execute msg s).results = []) ∧
      (msg.nParam1 ≠ omxAll ∨ ∀ r ∈ (c.execute msg s).results, r.2 = .none) := by
  obtain ⟨enabled, op, hexecute⟩ :
      ∃ enabled op, c.execute msg s = c.portCommand msg.command enabled op msg.nParam1 s := by
    rcases hcommand with hcommand | hcommand | hcommand <;> rw [hcommand]
    · exact ⟨true, c.commandFlush, by rw [ComponentClass.execute, hcommand]; rfl⟩
    · exact ⟨false, c.commandPortEnable, by rw [ComponentClass.execute, hcommand]; rfl⟩
    · exact ⟨true, c.commandPortDisable, by rw [ComponentClass.execute, hcommand]; rfl⟩
  unfold ComponentClass.commandEventHandler
  rw [hexecute]
  unfold ComponentClass.portCommand
  split
  · next hall =>
    rw [faithful_all_iff (.portRounds enabled op c.ports ⟨?_, ?_, rfl, rfl⟩)]
    · simp [hall]
    · cases c.eventHandler <;> rfl
    · simp
  · next hsingle =>
    rw [faithful_single_iff rfl rfl rfl rfl]
    simp [hsingle]

/-! ### A component with two ports -/

/-- Two video ports, whose operations return what is listed. -/
def twoPorts : ComponentClass (List OmxError) where
  eventHandler := true
  portBase _ := 0
  numPorts family := if family = .video then 2 else 0
  isEnabled _ _ _ := true
  commandStateSet _ _ s := (s.rest, .none)
  commandFlush _ s := (s.rest.tail, s.rest.headD .none)
  commandPortEnable _ s := (s.rest.tail, s.rest.headD .none)
  commandPortDisable _ s := (s.rest.tail, s.rest.headD .none)
  commandMarkBuffer _ s := (s.rest, .none)

/-- The flush of all ports succeeds on both. -/
theorem command_reports_iff_flushAll :
    (twoPorts.commandEventHandler ⟨.flush, omxAll⟩ ⟨.idle, .idle, []⟩).Faithful .flush :=
  (command_reports_iff twoPorts ⟨.flush, omxAll⟩ (.inl rfl) ⟨.idle, .idle, []⟩).mpr
    ⟨.inl rfl, .inr (by decide)⟩

/-- The flush fails on the first port and succeeds on the second one: both are reported complete, and the error has the
    code of success. -/
theorem flush_all_reports_no_error :
    (twoPorts.commandEventHandler ⟨.flush, omxAll⟩ ⟨.idle, .idle, [.timeout]⟩).events =
      [.cmdComplete .flush 0, .cmdComplete .flush 1, .error .none .flush] ∧
    ¬ (twoPorts.commandEventHandler ⟨.flush, omxAll⟩ ⟨.idle, .idle, [.timeout]⟩).Faithful .flush := by
  have hevents : (twoPorts.commandEventHandler ⟨.flush, omxAll⟩ ⟨.idle, .idle, [.timeout]⟩).events =
      [.cmdComplete .flush 0, .cmdComplete .flush 1, .error .none .flush] := by decide
  refine ⟨hevents, fun h => ?_⟩
  have hcode := h.code .none .flush (by rw [hevents]; simp)
  exact hcode.1 rfl

end
end BcmPlatform.Bomx
