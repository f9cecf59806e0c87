import Mathlib.Algebra.GroupWithZero.Nat
import Mathlib.Algebra.Ring.Int.Defs
import Mathlib.Data.List.TakeWhile

/-! `strtoul` of the C library with base 0, for an `unsigned long` of `w` bits, and the integer literals that it reads. A string
    is the list of its characters up to the null. -/

namespace BcmPlatform.Lib

/-- The characters of a string in memory that `strtoul` and `strcmp` see. -/
def cString (s : List Char) : List Char := s.takeWhile (· ≠ '\x00')

/-- `isspace` in the C locale. -/
def isSpaceChar (c : Char) : Bool := c ∈ [' ', '\t', '\n', '\x0b', '\x0c', '\r']

/-- The value of a digit or letter in a base up to 36. -/
def digitValue (c : Char) : Option Nat :=
  if '0' ≤ c ∧ c ≤ '9' then some (c.toNat - '0'.toNat)
  else if 'a' ≤ c ∧ c ≤ 'z' then some (c.toNat - 'a'.toNat + 10)
  else if 'A' ≤ c ∧ c ≤ 'Z' then some (c.toNat - 'A'.toNat + 10)
  else none

def isDigitOf (base : Nat) (c : Char) : Bool := (digitValue c).any (· < base)

/-- The base that a prefix asks for, and what follows the prefix; `0x` is one only with a digit behind it. -/
def detectBase : List Char → Nat × List Char
  | '0' :: x :: d :: rest => if (x = 'x' ∨ x = 'X') ∧ isDigitOf 16 d = true then (16, d :: rest) else (8, '0' :: x :: d :: rest)
  | '0' :: rest => (8, '0' :: rest)
  | s => (10, s)

/-- Whether there is a minus sign, and what follows the sign. -/
def splitSign : List Char → Bool × List Char
  | '-' :: rest => (true, rest)
  | '+' :: rest => (false, rest)
  | s => (false, s)

/-- A literal at the start of a string: its sign, its magnitude and what follows it. -/
def scanLiteral (s : List Char) : Option (Bool × Nat × List Char) :=
  let signed := splitSign (s.dropWhile isSpaceChar)
  let based := detectBase signed.2
  let digits := based.2.takeWhile (isDigitOf based.1)
  if digits = [] then none
  else
    some (signed.1, digits.foldl (fun v c => v * based.1 + (digitValue c).getD 0) 0, based.2.dropWhile (isDigitOf based.1))

/-- The number that a string is a literal of. -/
def literalValue (s : List Char) : Option Int :=
  match scanLiteral s with
  | some (negative, magnitude, []) => some (if negative then -magnitude else magnitude)
  | _ => none

/-- The result, and where `end` points: to the start if there is no literal. A magnitude that has no room gives the greatest
    number (`errno` is set), and a minus sign negates modulo `2 ^ w`. -/
def strtoul (w : Nat) (s : List Char) : Nat × List Char :=
  match scanLiteral s with
  | none => (0, s)
  | some (negative, magnitude, rest) =>
    (if 2 ^ w ≤ magnitude then 2 ^ w - 1 else if negative then (2 ^ w - magnitude) % 2 ^ w else magnitude, rest)

variable {w : Nat} {s : List Char}

theorem strtoul_end_iff : (strtoul w s).2 = [] ↔ s = [] ∨ ∃ v, literalValue s = some v := by
  unfold strtoul literalValue
  cases hscan : scanLiteral s with
  | none => simp
  | some r =>
    obtain ⟨negative, magnitude, rest⟩ := r
    have hs : s ≠ [] := by
      rintro rfl
      simp [scanLiteral, splitSign, detectBase] at hscan
    cases rest with
    | nil => simp
    | cons c rest => simp [hs]

theorem strtoul_literal {v : Int} (hv : literalValue s = some v) (h0 : 0 ≤ v) (hw : v < 2 ^ w) : ((strtoul w s).1 : Int) = v := by
  unfold literalValue at hv
  unfold strtoul
  split at hv
  · rename_i negative magnitude hscan
    rw [hscan]
    cases negative with
    | false =>
      obtain rfl : (magnitude : Int) = v := by simpa using hv
      have hlt : magnitude < 2 ^ w := by exact_mod_cast hw
      simp [Nat.not_le.mpr hlt]
    | true =>
      -- a minus sign leaves only the number 0
      have hneg : -(magnitude : Int) = v := by simpa using hv
      obtain rfl : magnitude = 0 := by omega
      have hpos : ¬ 2 ^ w ≤ 0 := Nat.not_le.mpr (Nat.two_pow_pos w)
      simp only [hpos, if_false, if_true, Nat.sub_zero, Nat.mod_self]
      exact hneg
  · cases hv

end BcmPlatform.Lib
