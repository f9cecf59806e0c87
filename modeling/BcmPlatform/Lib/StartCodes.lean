import Mathlib.Data.List.Infix

/-! The byte stream of a video codec: NAL units, each behind a start code, and in a unit a 03 after two zeros, where what
    follows could be taken for a start code. -/

namespace BcmPlatform.Lib

/-- A start code 00 00 01 ends at an index. -/
def CodeEnds (data : List UInt8) (k : Nat) : Prop :=
  2 ≤ k ∧ data[k - 2]? = some 0 ∧ data[k - 1]? = some 0 ∧ data[k]? = some 1

instance (data : List UInt8) (k : Nat) : Decidable (CodeEnds data k) := inferInstanceAs (Decidable (_ ∧ _ ∧ _ ∧ _))

theorem CodeEnds.lt {data : List UInt8} {k : Nat} (h : CodeEnds data k) : k < data.length :=
  (List.getElem?_eq_some_iff.mp h.2.2.2).1

/-- A start code begins each unit: 00 00 01, or the same after one more 00. -/
inductive StartCode where
  | short
  | long
  deriving DecidableEq, Repr

def StartCode.bytes : StartCode → List UInt8
  | .short => [0, 0, 1]
  | .long => [0, 0, 0, 1]

/-- The zero before the 00 00 01. -/
def StartCode.leading : StartCode → List UInt8
  | .short => []
  | .long => [0]

theorem StartCode.bytes_eq (c : StartCode) : c.bytes = c.leading ++ [0, 0, 1] := by cases c <;> rfl

theorem StartCode.length_bytes (c : StartCode) : c.bytes.length = c.leading.length + 3 := by cases c <;> rfl

theorem StartCode.getLast?_bytes (c : StartCode) : c.bytes.getLast? = some 1 := by cases c <;> rfl

theorem StartCode.getElem?_bytes (c : StartCode) {k : Nat} (hk : k < c.leading.length + 2) (l : List UInt8) :
    (c.bytes ++ l)[k]? = some 0 := by
  cases c with
  | short => match k, hk with
    | 0, _ => rfl
    | 1, _ => rfl
  | long => match k, hk with
    | 0, _ => rfl
    | 1, _ => rfl
    | 2, _ => rfl

theorem codeEnds_append (l l' : List UInt8) : CodeEnds (l ++ ([0, 0, 1] ++ l')) (l.length + 2) := by
  refine ⟨Nat.le_add_left 2 _, ?_, ?_, ?_⟩ <;>
    rw [List.getElem?_append_right (by omega)]
  · rw [show l.length + 2 - 2 - l.length = 0 by omega]
    rfl
  · rw [show l.length + 2 - 1 - l.length = 1 by omega]
    rfl
  · rw [show l.length + 2 - l.length = 2 by omega]
    rfl

/-- A NAL unit: it is not empty, has no part that could be taken for a start code, and does not end in 00. -/
structure NalUnit where
  bytes : List UInt8
  nonempty : bytes ≠ []
  noZeros : ¬ [0, 0, 0] <:+: bytes
  noCode : ¬ [0, 0, 1] <:+: bytes
  last : bytes.getLast? ≠ some 0

theorem NalUnit.length_pos (u : NalUnit) : 0 < u.bytes.length := List.length_pos_iff.mpr u.nonempty

/-- The byte stream of the units. -/
def byteStream (units : List (StartCode × NalUnit)) : List UInt8 := units.flatMap fun p => p.1.bytes ++ p.2.bytes

theorem byteStream_cons (p : StartCode × NalUnit) (units : List (StartCode × NalUnit)) :
    byteStream (p :: units) = p.1.bytes ++ (p.2.bytes ++ byteStream units) := by
  rw [byteStream, List.flatMap_cons, List.append_assoc]
  rfl

theorem NalUnit.not_codeEnds (u : NalUnit) (k : Nat) : ¬ CodeEnds u.bytes k := by
  rintro ⟨hk, hzero, hzero', hone⟩
  apply u.noCode
  refine ⟨u.bytes.take (k - 2), u.bytes.drop (k + 1), ?_⟩
  obtain ⟨h₀, hzero⟩ := List.getElem?_eq_some_iff.mp hzero
  obtain ⟨h₁, hzero'⟩ := List.getElem?_eq_some_iff.mp hzero'
  obtain ⟨h₂, hone⟩ := List.getElem?_eq_some_iff.mp hone
  have hdrop : u.bytes.drop (k - 2) = [0, 0, 1] ++ u.bytes.drop (k + 1) := by
    rw [List.drop_eq_getElem_cons h₀, hzero, show k - 2 + 1 = k - 1 by omega, List.drop_eq_getElem_cons h₁, hzero',
      show k - 1 + 1 = k by omega, List.drop_eq_getElem_cons h₂, hone]
    rfl
  rw [List.append_assoc, ← hdrop, List.take_append_drop]

/-- Behind a start code, and with whatever begins with another one behind it, no start code ends in a unit, and none before
    the end of that one. -/
theorem NalUnit.not_codeEnds_before (u : NalUnit) (pre : List UInt8) (hpre : pre.getLast? = some 1) {next : List UInt8}
    {m k : Nat} (hnext : ∀ i < m, next[i]? ≠ some 1) (hpk : pre.length ≤ k) (hk : k < pre.length + u.bytes.length + m) :
    ¬ CodeEnds (pre ++ (u.bytes ++ next)) k := by
  rintro ⟨hk₂, hzero, hzero', hone⟩
  have hlast : (pre ++ (u.bytes ++ next))[pre.length - 1]? = some 1 := by
    have hne : pre ≠ [] := by
      rintro rfl
      cases hpre
    have hpos := List.length_pos_iff.mpr hne
    rw [List.getElem?_append_left (by omega), ← hpre, List.getLast?_eq_getElem?]
  rw [List.getElem?_append_right hpk] at hone
  by_cases hu : k - pre.length < u.bytes.length
  · rw [List.getElem?_append_left hu] at hone
    by_cases hin : pre.length + 2 ≤ k
    · -- the three bytes lie in the unit
      rw [List.getElem?_append_right (by omega), List.getElem?_append_left (by omega)] at hzero hzero'
      apply u.not_codeEnds (k - pre.length)
      refine ⟨by omega, ?_, ?_, hone⟩
      · rwa [show k - pre.length - 2 = k - 2 - pre.length by omega]
      · rwa [show k - pre.length - 1 = k - 1 - pre.length by omega]
    · -- one of the zeros would be the 01 before the unit
      rcases (by omega : k - 2 = pre.length - 1 ∨ k - 1 = pre.length - 1) with h | h
      · rw [h, hlast] at hzero
        cases hzero
      · rw [h, hlast] at hzero'
        cases hzero'
  · rw [List.getElem?_append_right (by omega)] at hone
    exact hnext _ (by omega) hone

end BcmPlatform.Lib

/-! ### Emulation prevention -/

namespace BcmPlatform.Lib

/-- What follows two zeros needs a 03 before it: one of the bytes 00 to 03, or the end. -/
def needsEmulation : List UInt8 → Bool
  | [] => true
  | b :: _ => decide (b ≤ 3)

/-- The string with a 03 after every two zeros that need one; the count of zeros starts again after it. -/
def insertEmulation : List UInt8 → List UInt8
  | 0 :: 0 :: rest => 0 :: 0 :: (if needsEmulation rest then 3 :: insertEmulation rest else insertEmulation rest)
  | b :: rest => b :: insertEmulation rest
  | [] => []

/-- The string without the 03 after two zeros. -/
def removeEmulation : List UInt8 → List UInt8
  | 0 :: 0 :: 3 :: rest => 0 :: 0 :: removeEmulation rest
  | b :: rest => b :: removeEmulation rest
  | [] => []

theorem removeEmulation_cons {b : UInt8} {rest : List UInt8} (h : b = 0 → ¬ [0, 3] <+: rest) :
    removeEmulation (b :: rest) = b :: removeEmulation rest := by
  rw [removeEmulation]
  rintro rest' rfl rfl
  exact h rfl ⟨rest', rfl⟩

theorem insertEmulation_cons {b : UInt8} {rest : List UInt8} (h : b = 0 → rest.head? ≠ some 0) :
    insertEmulation (b :: rest) = b :: insertEmulation rest := by
  rw [insertEmulation]
  rintro rest' rfl rfl
  exact h rfl rfl

theorem head?_insertEmulation (l : List UInt8) : (insertEmulation l).head? = l.head? := by
  fun_cases insertEmulation l <;> rfl

theorem removeEmulation_insertEmulation (l : List UInt8) : removeEmulation (insertEmulation l) = l := by
  induction l using insertEmulation.induct with
  | case1 rest ih =>
    rw [insertEmulation]
    cases hneeds : needsEmulation rest with
    | true => rw [if_pos rfl, removeEmulation, ih]
    | false =>
      -- what follows the zeros starts above 03, so neither zero begins a pattern
      obtain ⟨b, rest', rfl⟩ : ∃ b rest', rest = b :: rest' := by
        cases rest with
        | nil => cases hneeds
        | cons b rest' => exact ⟨b, rest', rfl⟩
      have hb : ¬ b ≤ 3 := of_decide_eq_false hneeds
      have hhead := head?_insertEmulation (b :: rest')
      have hzero : ¬ [(0 : UInt8), 3] <+: insertEmulation (b :: rest') := by
        rintro ⟨t, ht⟩
        rw [← ht] at hhead
        obtain rfl : (0 : UInt8) = b := by simpa using hhead
        exact hb (by decide)
      have hthree : ¬ [(0 : UInt8), 3] <+: 0 :: insertEmulation (b :: rest') := by
        rintro ⟨t, ht⟩
        have htail := (List.cons.inj ht).2
        rw [← htail] at hhead
        obtain rfl : (3 : UInt8) = b := by simpa using hhead
        exact hb (by decide)
      rw [if_neg Bool.false_ne_true, removeEmulation_cons fun _ => hthree, removeEmulation_cons fun _ => hzero, ih]
  | case2 b rest hnot ih =>
    have hhead : b = 0 → rest.head? ≠ some 0 := by
      rintro rfl h
      obtain ⟨t, rfl⟩ := List.head?_eq_some_iff.mp h
      exact hnot t rfl rfl
    rw [insertEmulation_cons hhead, removeEmulation_cons, ih]
    rintro rfl ⟨t, ht⟩
    have hrest := head?_insertEmulation rest
    rw [← ht] at hrest
    exact hhead rfl hrest.symm
  | case3 => rfl

theorem length_le_length_insertEmulation (l : List UInt8) : l.length ≤ (insertEmulation l).length := by
  induction l using insertEmulation.induct with
  | case1 rest ih =>
    rw [insertEmulation]
    split <;> simp only [List.length_cons] <;> omega
  | case2 b rest hnot ih =>
    rw [insertEmulation]
    · exact Nat.succ_le_succ ih
    · exact hnot
  | case3 => exact Nat.le_refl 0

end BcmPlatform.Lib
