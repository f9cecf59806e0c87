import Mathlib.Data.List.Basic
import Mathlib.Data.List.ReduceOption
import Mathlib.Data.Nat.ModEq
import Mathlib.Logic.Function.Basic

/-! Units that are sent in numbered fragments, of which some are lost. The receiver has a counter of a few bits to tell: it puts
    a unit together while the counter goes on, and hands it over when the next unit begins. -/

namespace BcmPlatform.Lib

/-! ### Machines with outputs -/

/-- The state after inputs, and what came out at each of them. -/
def outputs {σ ι ο : Type} (step : σ → ι → σ × Option ο) : σ → List ι → σ × List (Option ο)
  | s, [] => (s, [])
  | s, i :: rest =>
    let r := step s i
    let rest := outputs step r.1 rest
    (rest.1, r.2 :: rest.2)

/-- Machines side by side, one for each key: an input goes to the machine with its key. -/
def sideBySide {κ σ ι ο : Type} [DecidableEq κ] (step : κ → σ → ι → σ × Option ο) (s : κ → σ) (i : κ × ι) :
    (κ → σ) × Option (κ × ο) :=
  let r := step i.1 (s i.1) i.2
  (Function.update s i.1 r.1, r.2.map (i.1, ·))

/-- What has a key. -/
def ofKey {κ α : Type} [DecidableEq κ] (k : κ) (l : List (κ × α)) : List α := (l.filter (·.1 = k)).map (·.2)

section Keys
variable {κ σ ι ο α : Type} [DecidableEq κ] {k : κ}

theorem ofKey_cons_self (a : α) (l : List (κ × α)) : ofKey k ((k, a) :: l) = a :: ofKey k l := by
  rw [ofKey, List.filter_cons_of_pos (by simp), List.map_cons, ofKey]

theorem ofKey_cons_of_ne {p : κ × α} (h : p.1 ≠ k) (l : List (κ × α)) : ofKey k (p :: l) = ofKey k l := by
  rw [ofKey, List.filter_cons_of_neg (by simpa using h), ofKey]

/-- What comes out of one of them is what comes out of it alone, in whatever order the inputs of the others are among its own. -/
theorem ofKey_outputs (step : κ → σ → ι → σ × Option ο) (k : κ) (s : κ → σ) (l : List (κ × ι)) :
    ofKey k (outputs (sideBySide step) s l).2.reduceOption = (outputs (step k) (s k) (ofKey k l)).2.reduceOption := by
  induction l generalizing s with
  | nil => rfl
  | cons p l ih =>
    obtain ⟨k', i⟩ := p
    by_cases h : k' = k
    · subst h
      have ih' := ih (Function.update s k' (step k' (s k') i).1)
      rw [Function.update_self] at ih'
      rw [ofKey_cons_self, outputs, outputs, sideBySide]
      cases hout : (step k' (s k') i).2 with
      | none => simpa only [Option.map_none, List.reduceOption_cons_of_none] using ih'
      | some o =>
        simp only [Option.map_some, List.reduceOption_cons_of_some, ofKey_cons_self]
        exact congrArg _ ih'
    · have ih' := ih (Function.update s k' (step k' (s k') i).1)
      rw [Function.update_of_ne (Ne.symm h)] at ih'
      rw [ofKey_cons_of_ne h, outputs, sideBySide]
      cases hout : (step k' (s k') i).2 with
      | none => simpa only [Option.map_none, List.reduceOption_cons_of_none] using ih'
      | some o =>
        simp only [Option.map_some, List.reduceOption_cons_of_some]
        rw [ofKey_cons_of_ne h]
        exact ih'

theorem reduceOption_outputs_idle (s : σ) (l : List ι) :
    (outputs (fun s _ => (s, (none : Option ο))) s l).2.reduceOption = [] := by
  induction l with
  | nil => rfl
  | cons i l ih => exact ih

end Keys

variable {α τ : Type}

/-! ### Sender and receiver -/

structure Fragment (α τ : Type) where
  counter : Nat
  start : Bool
  data : List α
  mark : τ
  deriving DecidableEq, Repr

/-- A receiver: the counter that it expects, whether it saw the start of a unit, and what it has of it. -/
structure Assembler (α τ : Type) where
  expected : Option Nat
  started : Bool
  held : List α
  mark : τ
  deriving DecidableEq, Repr

namespace Assembler

/-- What the receiver has is given up. -/
def reset (a : Assembler α τ) : Assembler α τ := { a with expected := none, started := false, held := [] }

/-- The counter is the one that is expected. -/
def goesOn (m : Nat) (a : Assembler α τ) (f : Fragment α τ) : Assembler α τ × Option (List α × τ) :=
  let a := { a with expected := some ((f.counter + 1) % m) }
  if f.start then
    ({ a with started := true, held := f.data, mark := f.mark }, if a.started ∧ a.held ≠ [] then some (a.held, a.mark) else none)
  else (if a.started then { a with held := a.held ++ f.data } else a, none)

def step (m : Nat) (a : Assembler α τ) (f : Fragment α τ) : Assembler α τ × Option (List α × τ) :=
  if a.expected.any (· ≠ f.counter) then if f.start then goesOn m a.reset f else (a.reset, none)
  else goesOn m a f

/-- There is nothing of a unit whose start was not seen. -/
def Settled (a : Assembler α τ) : Prop := a.started = false → a.held = []

theorem Settled.step {a : Assembler α τ} (h : a.Settled) (m : Nat) (f : Fragment α τ) : (a.step m f).1.Settled := by
  have hgoesOn : ∀ {a : Assembler α τ}, a.Settled → (a.goesOn m f).1.Settled := by
    intro a h
    unfold goesOn
    by_cases hstart : f.start = true
    · rw [if_pos hstart]
      exact fun hnot => absurd hnot (by simp)
    · rw [if_neg hstart]
      split
      · next hstarted => exact fun hnot => absurd (hstarted.symm.trans hnot) (by simp)
      · exact h
  unfold Assembler.step
  split
  · split
    · exact hgoesOn fun _ => rfl
    · exact fun _ => rfl
  · exact hgoesOn h

end Assembler

/-- A fragment as it is sent, and whether it arrives. -/
structure SentFragment (α τ : Type) extends Fragment α τ where
  arrives : Bool
  deriving DecidableEq, Repr

/-- The fragments are numbered from a counter on. -/
def Numbered (m : Nat) : Nat → List (SentFragment α τ) → Prop
  | _, [] => True
  | c, f :: rest => f.counter = c ∧ Numbered m ((c + 1) % m) rest

instance decidableNumbered (m : Nat) : ∀ (c : Nat) (sent : List (SentFragment α τ)), Decidable (Numbered m c sent)
  | _, [] => inferInstanceAs (Decidable True)
  | c, _ :: rest => @instDecidableAnd _ _ (Nat.decEq _ _) (decidableNumbered m ((c + 1) % m) rest)

/-- The fragments that arrive. -/
def received (sent : List (SentFragment α τ)) : List (Fragment α τ) := (sent.filter (·.arrives)).map (·.toFragment)

/-- What can be known of the units when all is known of the losses: a unit is there as long as its fragments arrive, and it is
    handed over by a start that arrives. -/
def intactStep (unit : Option (List α × τ)) (f : SentFragment α τ) : Option (List α × τ) × Option (List α × τ) :=
  if f.arrives then if f.start then (some (f.data, f.mark), unit) else (unit.map fun u => (u.1 ++ f.data, u.2), none)
  else (none, none)

/-- No gap between two fragments that arrive is a number of fragments that the counter does not show. There are `lost` of them since
    the last one that arrived, if there was one. -/
def GapsShow (m : Nat) : Option Nat → List (SentFragment α τ) → Prop
  | _, [] => True
  | lost, f :: rest =>
    if f.arrives then (∀ g ∈ lost, g = 0 ∨ ¬ m ∣ g) ∧ GapsShow m (some 0) rest else GapsShow m (lost.map (· + 1)) rest

instance decidableGapsShow (m : Nat) :
    ∀ (lost : Option Nat) (sent : List (SentFragment α τ)), Decidable (GapsShow m lost sent)
  | _, [] => inferInstanceAs (Decidable True)
  | _, f :: rest =>
    have : ∀ lost, Decidable (GapsShow m lost rest) := fun lost => decidableGapsShow m lost rest
    inferInstanceAs (Decidable (if f.arrives then _ else _))

/-! ### What is handed over -/

/-- The receiver knows no more than what is there: with nothing lost since the last fragment it knows the unit, else there is none. -/
inductive Knows (m : Nat) : Assembler α τ → Option (List α × τ) → Option Nat → Nat → Prop where
  | nothing {mark : τ} {lost : Option Nat} {c : Nat} : Knows m ⟨none, false, [], mark⟩ none lost c
  | unit {held : List α} {mark : τ} {c : Nat} : held ≠ [] → Knows m ⟨some c, true, held, mark⟩ (some (held, mark)) (some 0) c
  | noUnit {mark : τ} {c : Nat} : Knows m ⟨some c, false, [], mark⟩ none (some 0) c
  | behind {a : Assembler α τ} {e lost c : Nat} : a.expected = some e → 0 < lost → (e + lost) % m = c →
      Knows m a none (some lost) c

section Steps
variable {m c : Nat} {a : Assembler α τ} {unit : Option (List α × τ)} {lost : Option Nat} {f : SentFragment α τ}

theorem Knows.lose (h : Knows m a unit lost c) : Knows m a none (lost.map (· + 1)) ((c + 1) % m) := by
  cases h with
  | nothing => exact .nothing
  | unit hne => exact .behind rfl (Nat.succ_pos 0) rfl
  | noUnit => exact .behind rfl (Nat.succ_pos 0) rfl
  | behind hexpected hpos hcount =>
    refine .behind hexpected (Nat.succ_pos _) ?_
    rw [← hcount, Nat.mod_add_mod, Nat.add_assoc]

theorem Knows.seen {e lost : Nat} (hpos : 0 < lost) (hcount : (e + lost) % m = c) (hc : c < m) (hgap : lost = 0 ∨ ¬ m ∣ lost) :
    e ≠ c := by
  intro heq
  obtain h | h := hgap
  · exact absurd h (Nat.pos_iff_ne_zero.mp hpos)
  · refine h ((Nat.modEq_zero_iff_dvd).mp ?_)
    have : e + lost ≡ e + 0 [MOD m] := by rw [Nat.ModEq, hcount, Nat.add_zero, heq, Nat.mod_eq_of_lt hc]
    exact Nat.ModEq.add_left_cancel' e this

variable {g : Fragment α τ}

theorem Assembler.goesOn_first (h : a.started = false) (hstart : g.start = true) :
    a.goesOn m g = (⟨some ((g.counter + 1) % m), true, g.data, g.mark⟩, none) := by
  unfold Assembler.goesOn
  rw [if_pos hstart, if_neg fun hstarted => Bool.false_ne_true (h.symm.trans hstarted.1)]

theorem Assembler.goesOn_unknown (h : a.started = false) (hstart : g.start = false) :
    a.goesOn m g = ({ a with expected := some ((g.counter + 1) % m) }, none) := by
  unfold Assembler.goesOn
  rw [if_neg (Bool.eq_false_iff.mp hstart), if_neg (Bool.eq_false_iff.mp h)]

theorem Knows.arrive (h : Knows m a unit lost c) (hc : c < m) (hgap : ∀ n ∈ lost, n = 0 ∨ ¬ m ∣ n) (harrives : f.arrives = true)
    (hcounter : f.counter = c) (hdata : f.start = true → f.data ≠ []) :
    Knows m (a.step m f.toFragment).1 (intactStep unit f).1 (some 0) ((c + 1) % m) ∧
      (a.step m f.toFragment).2 = (intactStep unit f).2 := by
  subst hcounter
  unfold intactStep Assembler.step
  rw [if_pos harrives]
  cases h with
  | nothing =>
    cases hstart : f.start with
    | true =>
      rw [if_neg (by simp), Assembler.goesOn_first rfl hstart]
      exact ⟨.unit (hdata hstart), rfl⟩
    | false =>
      rw [if_neg (by simp), Assembler.goesOn_unknown rfl hstart]
      exact ⟨.noUnit, rfl⟩
  | noUnit =>
    cases hstart : f.start with
    | true =>
      rw [if_neg (by simp), Assembler.goesOn_first rfl hstart]
      exact ⟨.unit (hdata hstart), rfl⟩
    | false =>
      rw [if_neg (by simp), Assembler.goesOn_unknown rfl hstart]
      exact ⟨.noUnit, rfl⟩
  | unit hne =>
    rw [if_neg (by simp)]
    unfold Assembler.goesOn
    cases hstart : f.start with
    | true =>
      rw [if_pos rfl, if_pos ⟨rfl, hne⟩]
      exact ⟨.unit (hdata hstart), rfl⟩
    | false => exact ⟨.unit (List.append_ne_nil_of_left_ne_nil hne _), rfl⟩
  | behind hexpected hpos hcount =>
    have hseen := Knows.seen hpos hcount hc (hgap _ rfl)
    have hany : a.expected.any (· ≠ f.counter) = true := by rw [hexpected]; exact decide_eq_true hseen
    rw [if_pos hany]
    cases hstart : f.start with
    | true =>
      rw [if_pos rfl, Assembler.goesOn_first rfl hstart]
      exact ⟨.unit (hdata hstart), rfl⟩
    | false => exact ⟨.nothing, rfl⟩

end Steps

theorem assembled (m : Nat) (sent : List (SentFragment α τ)) :
    ∀ (a : Assembler α τ) (unit : Option (List α × τ)) (lost : Option Nat) (c : Nat), Knows m a unit lost c → c < m →
      (∀ f ∈ sent, f.start = true → f.data ≠ []) → Numbered m c sent → GapsShow m lost sent →
      (outputs (Assembler.step m) a (received sent)).2.reduceOption = (outputs intactStep unit sent).2.reduceOption := by
  induction sent with
  | nil => exact fun _ _ _ _ _ _ _ _ _ => rfl
  | cons f rest ih =>
    intro a unit lost c h hc hdata hcounters hgaps
    have hc' : (c + 1) % m < m := Nat.mod_lt _ (Nat.zero_lt_of_lt hc)
    have hrest := fun f hf => hdata f (List.mem_cons_of_mem _ hf)
    obtain ⟨hcounter, hcounters⟩ := hcounters
    unfold GapsShow at hgaps
    cases harrives : f.arrives with
    | true =>
      rw [if_pos harrives] at hgaps
      obtain ⟨hknows, hout⟩ := h.arrive hc hgaps.1 harrives hcounter (hdata f List.mem_cons_self)
      have ih' := ih _ _ _ _ hknows hc' hrest hcounters hgaps.2
      have hreceived : received (f :: rest) = f.toFragment :: received rest := by
        rw [received, List.filter_cons_of_pos harrives, List.map_cons, received]
      rw [hreceived, outputs, outputs, hout]
      cases (intactStep unit f).2 with
      | none => exact ih'
      | some whole => exact congrArg (whole :: ·) ih'
    | false =>
      rw [if_neg (Bool.eq_false_iff.mp harrives)] at hgaps
      have hnone : intactStep unit f = (none, none) := if_neg (Bool.eq_false_iff.mp harrives)
      have hreceived : received (f :: rest) = received rest := by
        rw [received, List.filter_cons_of_neg (Bool.eq_false_iff.mp harrives), received]
      rw [hreceived, outputs, hnone, List.reduceOption_cons_of_none]
      exact ih _ _ _ _ h.lose hc' hrest hcounters hgaps

end BcmPlatform.Lib
