import Mathlib.Algebra.Ring.Int.Defs
import Mathlib.Data.Int.ModEq

/-! Computations on an `int` of 32 bits. Behind an overflow they go on modulo `2 ^ 32`; that there was one is remembered. -/

namespace BcmPlatform.Lib

/-- An `int` has room for the number. -/
def IntFits (x : Int) : Prop := -2147483648 ≤ x ∧ x < 2147483648

instance : DecidablePred IntFits := fun x => inferInstanceAs (Decidable (-2147483648 ≤ x ∧ x < 2147483648))

/-- A value, and whether all operations that it comes from had room. -/
structure IntCalc where
  value : Int
  exact : Bool := true
  deriving DecidableEq, Repr

namespace IntCalc

/-- The result of an operation, cut to 32 bits. -/
def cut (x : Int) (exact : Bool) : IntCalc := { value := x.bmod 4294967296, exact := exact && decide (IntFits x) }

instance : Coe Int IntCalc := ⟨fun x => { value := x }⟩

instance : Add IntCalc := ⟨fun a b => cut (a.value + b.value) (a.exact && b.exact)⟩

instance : Mul IntCalc := ⟨fun a b => cut (a.value * b.value) (a.exact && b.exact)⟩

instance : Div IntCalc := ⟨fun a b => cut (a.value.tdiv b.value) (a.exact && b.exact)⟩

theorem cut_emod (x : Int) (exact : Bool) : (cut x exact).value % 4294967296 = x % 4294967296 := Int.bmod_emod ..

theorem cut_fits (x : Int) (exact : Bool) : IntFits (cut x exact).value := by
  have hlow := Int.le_bmod (x := x) (show 0 < 4294967296 by decide)
  have hhigh := Int.bmod_lt (x := x) (show 0 < 4294967296 by decide)
  simp only [IntFits, cut]
  omega

theorem cut_of_fits {x : Int} (h : IntFits x) (exact : Bool) : (cut x exact).value = x := by
  have hlow := h.1
  have hhigh := h.2
  exact Int.bmod_eq_of_le (by omega) (by omega)

/-- `a & ~(alignment - 1)`, for a power of two. -/
def alignDown (a : IntCalc) (alignment : Int) : IntCalc := { value := a.value - a.value % alignment, exact := a.exact }

theorem add_modEq (a b : IntCalc) : (a + b).value ≡ a.value + b.value [ZMOD 4294967296] := cut_emod ..

theorem mul_modEq (a b : IntCalc) : (a * b).value ≡ a.value * b.value [ZMOD 4294967296] := cut_emod ..

/-- The value that the computation has without a bound, and when all of its operations have room. -/
structure Tracks (c : IntCalc) (x : Int) (room : Prop) : Prop where
  exact : c.exact = true ↔ room
  value : room → c.value = x

namespace Tracks
variable {a b : IntCalc} {x y : Int} {room room' : Prop}

theorem coe (x : Int) : Tracks (x : IntCalc) x True := ⟨⟨fun _ => trivial, fun _ => rfl⟩, fun _ => rfl⟩

theorem cut {exact : Bool} (hexact : exact = true ↔ room) {z : Int} (hz : room → z = x) :
    Tracks (IntCalc.cut z exact) x (room ∧ IntFits x) where
  exact := by
    rw [IntCalc.cut, Bool.and_eq_true, hexact, decide_eq_true_iff]
    exact and_congr_right fun h => by rw [hz h]
  value h := by
    rw [hz h.1]
    exact cut_of_fits h.2 _

theorem both (ha : Tracks a x room) (hb : Tracks b y room') : (a.exact && b.exact) = true ↔ room ∧ room' := by
  rw [Bool.and_eq_true, ha.exact, hb.exact]

theorem add (ha : Tracks a x room) (hb : Tracks b y room') : Tracks (a + b) (x + y) ((room ∧ room') ∧ IntFits (x + y)) :=
  cut (ha.both hb) fun h => by rw [ha.value h.1, hb.value h.2]

theorem mul (ha : Tracks a x room) (hb : Tracks b y room') : Tracks (a * b) (x * y) ((room ∧ room') ∧ IntFits (x * y)) :=
  cut (ha.both hb) fun h => by rw [ha.value h.1, hb.value h.2]

theorem div (ha : Tracks a x room) (hb : Tracks b y room') :
    Tracks (a / b) (x.tdiv y) ((room ∧ room') ∧ IntFits (x.tdiv y)) :=
  cut (ha.both hb) fun h => by rw [ha.value h.1, hb.value h.2]

theorem alignDown (ha : Tracks a x room) (alignment : Int) :
    Tracks (a.alignDown alignment) (x - x % alignment) room :=
  ⟨ha.exact, fun h => by rw [IntCalc.alignDown, ha.value h]⟩

theorem congr (h : Tracks a x room) (hroom : room ↔ room') : Tracks a x room' :=
  ⟨h.exact.trans hroom, fun h' => h.value (hroom.mpr h')⟩

end Tracks
end IntCalc
end BcmPlatform.Lib
