import Mathlib.Algebra.GroupWithZero.Nat
import Mathlib.Data.List.Infix
import Mathlib.Data.Nat.Bitwise

/-! Numbers in big-endian and little-endian bytes, the search for the first place at which a list has another one as a part,
    and bit fields: a field cut out of a number, fields put next to each other, and the bits of bytes, most significant first. -/

namespace BcmPlatform.Lib

/-! ### Big-endian numbers -/

/-- The value of big-endian bytes. -/
def beValue (l : List UInt8) : Nat := l.foldl (fun v b => v * 256 + b.toNat) 0

/-- The last `k` bytes of a number. -/
def beBytes : Nat → Nat → List UInt8
  | 0, _ => []
  | k + 1, v => beBytes k (v / 256) ++ [UInt8.ofNat v]

@[simp] theorem length_beBytes (k v : Nat) : (beBytes k v).length = k := by
  induction k generalizing v with
  | zero => rfl
  | succ k ih => rw [beBytes, List.length_append, ih, List.length_singleton]

/-- The low `k` bytes of a number, the lowest first. -/
def leBytes : Nat → Nat → List UInt8
  | 0, _ => []
  | k + 1, v => UInt8.ofNat v :: leBytes k (v / 256)

@[simp] theorem length_leBytes (k v : Nat) : (leBytes k v).length = k := by
  induction k generalizing v with
  | zero => rfl
  | succ k ih => rw [leBytes, List.length_cons, ih]

theorem beValue_concat (l : List UInt8) (b : UInt8) : beValue (l ++ [b]) = beValue l * 256 + b.toNat := by
  rw [beValue, List.foldl_append]
  rfl

theorem beValue_append (l l' : List UInt8) : beValue (l ++ l') = beValue l * 256 ^ l'.length + beValue l' := by
  induction l' using List.reverseRecOn with
  | nil => simp [beValue]
  | append_singleton l' b ih =>
    rw [← List.append_assoc, beValue_concat, ih, beValue_concat, List.length_append, List.length_singleton, Nat.pow_succ,
      Nat.add_mul, Nat.add_assoc, Nat.mul_assoc]

theorem beValue_lt (l : List UInt8) : beValue l < 256 ^ l.length := by
  induction l using List.reverseRecOn with
  | nil => exact Nat.one_pos
  | append_singleton l b ih =>
    have hb : b.toNat < 256 := b.toNat_lt
    rw [beValue_concat, List.length_append, List.length_singleton, Nat.pow_succ]
    omega

theorem beValue_beBytes {k v : Nat} (h : v < 256 ^ k) : beValue (beBytes k v) = v := by
  induction k generalizing v with
  | zero => exact (Nat.lt_one_iff.mp h).symm
  | succ k ih =>
    have hrest : v / 256 < 256 ^ k := Nat.div_lt_of_lt_mul (by rwa [Nat.pow_succ, Nat.mul_comm] at h)
    rw [beBytes, beValue_concat, ih hrest, UInt8.toNat_ofNat']
    exact Nat.div_add_mod' v 256

theorem beBytes_beValue (l : List UInt8) : beBytes l.length (beValue l) = l := by
  induction l using List.reverseRecOn with
  | nil => rfl
  | append_singleton l b ih =>
    have hb : b.toNat < 256 := b.toNat_lt
    have hrest : (beValue l * 256 + b.toNat) / 256 = beValue l := by omega
    have hlast : UInt8.ofNat (beValue l * 256 + b.toNat) = b :=
      UInt8.toNat_inj.mp (by rw [UInt8.toNat_ofNat']; omega)
    rw [beValue_concat, List.length_append, List.length_singleton, beBytes, hrest, ih, hlast]

/-! ### `memmem` -/

variable {α : Type} [DecidableEq α] {needle l : List α} {n : Nat}

/-- The first place at which a list goes on with another one. -/
def memmem (needle : List α) : List α → Option Nat
  | [] => none
  | a :: l => if needle <+: a :: l then some 0 else (memmem needle l).map (· + 1)

theorem memmem_eq_none (h : ∀ n, ¬ needle <+: l.drop n) : memmem needle l = none := by
  induction l with
  | nil => rfl
  | cons a l ih =>
    have hhere : ¬ needle <+: a :: l := h 0
    rw [memmem, if_neg hhere, ih fun n => h (n + 1), Option.map_none]

theorem memmem_eq_some (hneedle : needle ≠ []) (h : needle <+: l.drop n) (hfirst : ∀ m < n, ¬ needle <+: l.drop m) :
    memmem needle l = some n := by
  induction l generalizing n with
  | nil =>
    rw [List.drop_nil] at h
    exact absurd (List.prefix_nil.mp h) hneedle
  | cons a l ih =>
    rw [memmem]
    cases n with
    | zero =>
      rw [List.drop_zero] at h
      rw [if_pos h]
    | succ n =>
      have hhere : ¬ needle <+: a :: l := hfirst 0 (Nat.succ_pos n)
      rw [if_neg hhere, ih h fun m hm => hfirst (m + 1) (Nat.succ_lt_succ hm), Option.map_some]

theorem memmem_lt (h : memmem needle l = some n) : n < l.length := by
  induction l generalizing n with
  | nil => cases h
  | cons a l ih =>
    rw [memmem] at h
    split at h
    · cases h
      exact Nat.succ_pos _
    · obtain ⟨k, hk, rfl⟩ := Option.map_eq_some_iff.mp h
      exact Nat.succ_lt_succ (ih hk)

end BcmPlatform.Lib

/-! ### Bit fields -/

namespace BcmPlatform.Lib

/-- Bits `hi` down to `lo` of a number. -/
def bitField (hi lo v : Nat) : Nat := v / 2 ^ lo % 2 ^ (hi + 1 - lo)

theorem shiftLeft_or_eq_add {a b k : Nat} (hb : b < 2 ^ k) : a <<< k ||| b = a * 2 ^ k + b := by
  rw [← Nat.shiftLeft_add_eq_or_of_lt hb, Nat.shiftLeft_eq]

/-! ### Bits -/

/-- The last `n` bits of a number. -/
def toBits : Nat → Nat → List Bool
  | 0, _ => []
  | n + 1, v => v.testBit n :: toBits n v

/-- The value of bits. -/
def bitsValue (l : List Bool) : Nat := l.foldl (fun v b => v * 2 + b.toNat) 0

/-- The bits of bytes. -/
def bitsOf (bytes : List UInt8) : List Bool := bytes.flatMap fun b => toBits 8 b.toNat

@[simp] theorem length_toBits (n v : Nat) : (toBits n v).length = n := by
  induction n with
  | zero => rfl
  | succ n ih => rw [toBits, List.length_cons, ih]

theorem foldl_toBits (n v acc : Nat) :
    (toBits n v).foldl (fun v b => v * 2 + b.toNat) acc = acc * 2 ^ n + v % 2 ^ n := by
  induction n generalizing acc with
  | zero => simp [toBits, Nat.mod_one]
  | succ n ih =>
    rw [toBits, List.foldl_cons, ih, Nat.mod_pow_succ, Nat.toNat_testBit, Nat.add_mul, Nat.mul_assoc, ← Nat.pow_succ',
      Nat.add_assoc, Nat.add_comm (v % 2 ^ n), Nat.mul_comm (2 ^ n)]

theorem bitsValue_toBits {n v : Nat} (h : v < 2 ^ n) : bitsValue (toBits n v) = v := by
  rw [bitsValue, foldl_toBits, Nat.zero_mul, Nat.zero_add, Nat.mod_eq_of_lt h]

@[simp] theorem bitsValue_singleton (b : Bool) : bitsValue [b] = b.toNat := by simp [bitsValue]

@[simp] theorem length_bitsOf (bytes : List UInt8) : (bitsOf bytes).length = 8 * bytes.length := by
  induction bytes with
  | nil => rfl
  | cons b bytes ih =>
    have hcons : bitsOf (b :: bytes) = toBits 8 b.toNat ++ bitsOf bytes := rfl
    rw [hcons, List.length_append, ih, length_toBits, List.length_cons]
    omega

theorem bitsOf_append (bytes bytes' : List UInt8) : bitsOf (bytes ++ bytes') = bitsOf bytes ++ bitsOf bytes' :=
  List.flatMap_append

theorem toBits_add (k m v : Nat) : toBits (k + m) v = toBits k (v / 2 ^ m) ++ toBits m v := by
  induction k with
  | zero => rw [Nat.zero_add, toBits, List.nil_append]
  | succ k ih => rw [Nat.succ_add, toBits, ih, toBits, Nat.testBit_div_two_pow, List.cons_append]

theorem toBits_mod (n v : Nat) : toBits n (v % 2 ^ n) = toBits n v := by
  have hmod : ∀ m ≤ n, toBits m (v % 2 ^ n) = toBits m v := by
    intro m
    induction m with
    | zero => exact fun _ => rfl
    | succ m ih =>
      intro hm
      rw [toBits, toBits, ih (Nat.le_of_succ_le hm), Nat.testBit_mod_two_pow, decide_eq_true (Nat.lt_of_succ_le hm), Bool.true_and]
  exact hmod n (Nat.le_refl n)

theorem bitsOf_beBytes (k v : Nat) : bitsOf (beBytes k v) = toBits (8 * k) v := by
  induction k generalizing v with
  | zero => rfl
  | succ k ih =>
    have hlast : bitsOf [UInt8.ofNat v] = toBits 8 v := by
      change toBits 8 (UInt8.ofNat v).toNat ++ [] = _
      rw [List.append_nil, UInt8.toNat_ofNat']
      exact toBits_mod 8 v
    rw [beBytes, bitsOf_append, ih, hlast, Nat.mul_succ, toBits_add]
    rfl

end BcmPlatform.Lib
