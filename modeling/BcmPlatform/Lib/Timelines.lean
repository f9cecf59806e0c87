import Mathlib.Data.List.Basic

/-! Streams of key events in which at most one key is down, and timelines that hand out numbered tickets and serve them in
    order: the tickets that were served are the first ones, and those that wait follow in the order of their numbers. -/

namespace BcmPlatform.Lib
variable {κ : Type}

inductive KeyEvent (κ : Type) where
  | press (key : κ)
  | release (key : κ)
  deriving DecidableEq, Repr

/-- A key goes down and up. -/
def tap (key : κ) : List (KeyEvent κ) := [.press key, .release key]

/-- The keys of `keys` go down and up one after the other, and `held` is down at the end. -/
def taps (keys : List κ) (held : Option κ) : List (KeyEvent κ) := keys.flatMap tap ++ held.toList.map .press

/-- The stream of events is of this form, and no key is one of those that `p` excludes. -/
def Tapped (p : κ → Prop) (events : List (KeyEvent κ)) (held : Option κ) : Prop :=
  ∃ keys, events = taps keys held ∧ (∀ key ∈ keys, p key) ∧ ∀ key ∈ held, p key

namespace Tapped
variable {p : κ → Prop} {events : List (KeyEvent κ)} {held : Option κ} {key : κ}

theorem nil : Tapped p [] none := ⟨[], rfl, nofun, nofun⟩

theorem press (h : Tapped p events none) (hkey : p key) : Tapped p (events ++ [.press key]) (some key) := by
  obtain ⟨keys, rfl, hkeys, -⟩ := h
  refine ⟨keys, ?_, hkeys, ?_⟩
  · simp [taps]
  · rintro _ ⟨⟩
    exact hkey

theorem release (h : Tapped p events (some key)) : Tapped p (events ++ [.release key]) none := by
  obtain ⟨keys, rfl, hkeys, hheld⟩ := h
  refine ⟨keys ++ [key], ?_, ?_, nofun⟩
  · simp [taps, tap]
  · intro other hother
    rcases List.mem_append.mp hother with hother | hother
    · exact hkeys other hother
    · rw [List.mem_singleton.mp hother]
      exact hheld key rfl

theorem tap (h : Tapped p events none) (hkey : p key) : Tapped p (events ++ tap key) none := by
  rw [Lib.tap, ← List.singleton_append, ← List.append_assoc]
  exact (h.press hkey).release

theorem releaseHeld (h : Tapped p events held) : Tapped p (events ++ held.toList.map .release) none := by
  cases held with
  | none => simpa using h
  | some key => exact h.release

theorem pressNext (h : Tapped p events none) (hheld : ∀ key ∈ held, p key) :
    Tapped p (events ++ held.toList.map .press) held := by
  cases held with
  | none => simpa using h
  | some key => exact h.press (hheld key rfl)

end Tapped
end BcmPlatform.Lib

/-! ### Tickets -/

namespace BcmPlatform.Lib
variable {τ : Type} {number : τ → Nat} {issued served : Nat} {created signalled waiting : List τ}

/-- The tickets `1, …, issued` were created, the first `served` of them were signalled, and the others wait. -/
structure TicketLine (number : τ → Nat) (issued served : Nat) (created signalled waiting : List τ) : Prop where
  split : created = signalled ++ waiting
  numbers : created.map number = List.range' 1 issued
  reached : signalled.map number = List.range' 1 served

namespace TicketLine

theorem empty : TicketLine number 0 0 [] [] [] := ⟨rfl, rfl, rfl⟩

theorem count (h : TicketLine number issued served created signalled waiting) : served + waiting.length = issued := by
  have hlength := congrArg List.length h.numbers
  have hreached := congrArg List.length h.reached
  rw [h.split, List.length_map, List.length_append, List.length_range'] at hlength
  rw [List.length_map, List.length_range'] at hreached
  rw [← hreached, hlength]

theorem issue (h : TicketLine number issued served created signalled waiting) {t : τ} (ht : number t = issued + 1) :
    TicketLine number (issued + 1) served (created ++ [t]) signalled (waiting ++ [t]) where
  split := by rw [h.split, List.append_assoc]
  numbers := by rw [List.map_append, h.numbers, List.range'_1_concat, List.map_singleton, ht, Nat.add_comm]
  reached := h.reached

theorem next (h : TicketLine number issued served created signalled waiting) {t : τ} {rest : List τ}
    (hw : waiting = t :: rest) : number t = served + 1 := by
  have hcount := h.count
  have hnumbers := h.numbers
  rw [hw, List.length_cons] at hcount
  have hissued : issued = served + (rest.length + 1) := hcount.symm
  rw [h.split, hw, List.map_append, h.reached, hissued, ← List.range'_append_1] at hnumbers
  have hwaiting := List.append_cancel_left hnumbers
  rw [List.map_cons, List.range'_succ] at hwaiting
  rw [(List.cons.inj hwaiting).1, Nat.add_comm]

theorem waiting_numbers (h : TicketLine number issued served created signalled waiting) :
    waiting.map number = List.range' (served + 1) waiting.length := by
  have hnumbers := h.numbers
  rw [h.split, List.map_append, h.reached, ← h.count, ← List.range'_append_1, Nat.add_comm 1 served] at hnumbers
  exact List.append_cancel_left hnumbers

theorem serve (h : TicketLine number issued served created signalled waiting) {t : τ} {rest : List τ}
    (hw : waiting = t :: rest) : TicketLine number issued (served + 1) created (signalled ++ [t]) rest where
  split := by rw [h.split, hw, List.append_assoc, List.singleton_append]
  numbers := h.numbers
  reached := by rw [List.map_append, h.reached, List.range'_1_concat, List.map_singleton, h.next hw, Nat.add_comm]

theorem serveMany : ∀ (k : Nat) {served : Nat} {signalled waiting : List τ},
    TicketLine number issued served created signalled waiting → k ≤ waiting.length →
    TicketLine number issued (served + k) created (signalled ++ waiting.take k) (waiting.drop k)
  | 0, _, _, _, h, _ => by simpa using h
  | k + 1, served, signalled, waiting, h, hk => by
    obtain ⟨t, rest, rfl⟩ := List.exists_cons_of_length_pos (Nat.lt_of_lt_of_le (Nat.succ_pos k) hk)
    have hrest := serveMany k (h.serve rfl) (Nat.le_of_succ_le_succ hk)
    rwa [List.append_assoc, List.singleton_append, Nat.add_assoc, Nat.add_comm 1 k] at hrest

end TicketLine
end BcmPlatform.Lib
