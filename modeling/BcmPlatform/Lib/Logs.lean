import Mathlib.Data.List.Basic

/-! Logs of events: each event that needs another one has it before it, and the events that raise and lower a count never
    bring it below its start. -/

namespace BcmPlatform.Lib
variable {ε : Type} {needs : ε → Option ε} {log : List ε}

/-- What an event of the log needs comes before it. -/
def Preceded (needs : ε → Option ε) (log : List ε) : Prop :=
  ∀ before x after y, log = before ++ x :: after → needs x = some y → y ∈ before

namespace Preceded

theorem nil : Preceded needs [] := by
  intro before x after y h
  simp at h

theorem snoc (h : Preceded needs log) {x : ε} (hx : ∀ y, needs x = some y → y ∈ log) : Preceded needs (log ++ [x]) := by
  intro before z after y hlog hneeds
  rcases List.eq_nil_or_concat after with rfl | ⟨after', w, rfl⟩
  · obtain ⟨rfl, hz⟩ := List.append_inj' hlog rfl
    cases hz
    exact hx y hneeds
  · have hsplit : log ++ [x] = (before ++ z :: after') ++ [w] := by simpa using hlog
    exact h before z after' y (List.append_inj' hsplit rfl).1 hneeds

theorem append (h : Preceded needs log) {new : List ε} (hnew : ∀ x ∈ new, needs x = none) : Preceded needs (log ++ new) := by
  induction new generalizing log with
  | nil => rwa [List.append_nil]
  | cons x new ih =>
    rw [← List.singleton_append, ← List.append_assoc]
    refine ih (h.snoc fun y hy => ?_) fun z hz => hnew z (List.mem_cons_of_mem _ hz)
    rw [hnew x List.mem_cons_self] at hy
    cases hy

end Preceded
end BcmPlatform.Lib

/-! ### Counts -/

namespace BcmPlatform.Lib
variable {ε : Type} {w : ε → Int} {log log' : List ε}

/-- What a log changes the count by. -/
def net (w : ε → Int) : List ε → Int
  | [] => 0
  | e :: log => w e + net w log

@[simp] theorem net_nil : net w [] = 0 := rfl

@[simp] theorem net_cons (e : ε) (log : List ε) : net w (e :: log) = w e + net w log := rfl

@[simp] theorem net_append (log log' : List ε) : net w (log ++ log') = net w log + net w log' := by
  induction log with
  | nil => simp
  | cons e log ih => rw [List.cons_append, net_cons, net_cons, ih, Int.add_assoc]

/-- The count never falls below its start. -/
def NeverBelow (w : ε → Int) (log : List ε) : Prop := ∀ before, before <+: log → 0 ≤ net w before

namespace NeverBelow

theorem nil : NeverBelow w [] := by
  intro before h
  rw [List.prefix_nil.mp h]
  exact Int.le_refl 0

theorem net_nonneg (h : NeverBelow w log) : 0 ≤ net w log := h log List.prefix_rfl

theorem snoc (h : NeverBelow w log) {e : ε} (he : 0 ≤ net w log + w e) : NeverBelow w (log ++ [e]) := by
  intro before hbefore
  rcases List.prefix_concat_iff.mp hbefore with rfl | hbefore
  · simpa using he
  · exact h before hbefore

theorem append (h : NeverBelow w log) (h' : NeverBelow w log') : NeverBelow w (log ++ log') := by
  intro before hbefore
  rcases List.prefix_or_prefix_of_prefix hbefore (List.prefix_append log log') with hlog | ⟨after, rfl⟩
  · exact h before hlog
  · rw [net_append]
    exact Int.add_nonneg h.net_nonneg (h' after ((List.prefix_append_right_inj log).mp hbefore))

theorem wrap (h : NeverBelow w log) {first last : ε} (hfirst : 0 ≤ w first) (hlast : 0 ≤ w first + w last) :
    NeverBelow w (first :: log ++ [last]) := by
  have hopened : NeverBelow w (first :: log) := (nil.snoc (by simpa using hfirst)).append h
  refine hopened.snoc ?_
  have hnonneg := h.net_nonneg
  rw [net_cons]
  omega

end NeverBelow
end BcmPlatform.Lib
