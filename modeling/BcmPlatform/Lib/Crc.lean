import BcmPlatform.Lib.Bytes
import Mathlib.Algebra.GroupWithZero.Nat
import Mathlib.Data.List.GetD
import Mathlib.Data.List.Nodup
import Mathlib.Data.List.Perm.Subperm
import Mathlib.Data.Nat.Bitwise
import Mathlib.Tactic.IntervalCases

/-! A CRC of 32 bits that is computed a byte at a time from a table of 256 words. Where the high bytes of the words tell them
    apart, a step loses nothing: texts that differ in one byte have different CRCs. Where the most significant bit goes first, texts
    that differ in four bytes that follow each other have different CRCs, and a CRC behind its text takes itself out. -/

namespace BcmPlatform.Lib

/-- The step for a byte. -/
def crcStep (tab : List (BitVec 32)) (crc : BitVec 32) (b : UInt8) : BitVec 32 :=
  tab.getD ((crc ^^^ b.toBitVec.setWidth 32) &&& 0xff#32).toNat 0#32 ^^^ (crc >>> 8)

def crcUpdate (tab : List (BitVec 32)) (crc : BitVec 32) (bytes : List UInt8) : BitVec 32 := bytes.foldl (crcStep tab) crc

/-- The step for a byte of the CRC that takes the most significant bit first. -/
def crcStepMsb (tab : List (BitVec 32)) (crc : BitVec 32) (b : UInt8) : BitVec 32 :=
  tab.getD ((crc >>> 24 ^^^ b.toBitVec.setWidth 32) &&& 0xff#32).toNat 0#32 ^^^ (crc <<< 8)

def crcUpdateMsb (tab : List (BitVec 32)) (crc : BitVec 32) (bytes : List UInt8) : BitVec 32 :=
  bytes.foldl (crcStepMsb tab) crc

/-- A word of the table for each byte, with high bytes that tell them apart. -/
structure CrcTable (tab : List (BitVec 32)) : Prop where
  length : tab.length = 256
  high : (tab.map fun word : BitVec 32 => word >>> (24 : Nat)).Nodup

/-! ### Lists without duplicates -/

/-- The numbers of a list as the bits of one. -/
def bitSet : List Nat → Nat
  | [] => 0
  | k :: l => 2 ^ k ||| bitSet l

theorem testBit_bitSet (l : List Nat) (i : Nat) : (bitSet l).testBit i = decide (i ∈ l) := by
  induction l with
  | nil => simp [bitSet]
  | cons k l ih => simp [bitSet, Nat.testBit_or, Nat.testBit_two_pow, ih, eq_comm]

theorem nodup_of_bitSet {l : List Nat} (h : bitSet l = 2 ^ l.length - 1) : l.Nodup := by
  have hsub : List.range l.length ⊆ l := by
    intro i hi
    have hbit := testBit_bitSet l i
    rw [h, Nat.testBit_two_pow_sub_one, decide_eq_true (List.mem_range.mp hi)] at hbit
    exact of_decide_eq_true hbit.symm
  have hperm := (List.subperm_of_subset List.nodup_range hsub).perm_of_length_le (by rw [List.length_range])
  exact hperm.nodup_iff.mp List.nodup_range

/-! ### Steps -/

section Bits
variable {x y : BitVec 32} {b : UInt8}

theorem and_255_toNat_lt (x : BitVec 32) : (x &&& 0xff#32).toNat < 256 := by
  rw [BitVec.toNat_and]
  exact Nat.and_lt_two_pow _ (by decide : (0xff#32).toNat < 2 ^ 8)

theorem getLsbD_255 (i : Nat) : (0xff#32).getLsbD i = decide (i < 8) := by
  rw [BitVec.getLsbD_ofNat, show (0xff : Nat) = 2 ^ 8 - 1 from rfl, Nat.testBit_two_pow_sub_one]
  by_cases hi : i < 8
  · simp [hi, Nat.lt_trans hi (by decide : 8 < 32)]
  · simp [hi]

theorem eq_of_low_of_shift (hlow : ∀ i < 8, x.getLsbD i = y.getLsbD i) (hshift : x >>> 8 = y >>> 8) : x = y := by
  apply BitVec.eq_of_getLsbD_eq
  intro i hi
  by_cases h8 : i < 8
  · exact hlow i h8
  · have hbit := congrArg (BitVec.getLsbD · (i - 8)) hshift
    simpa [Nat.add_sub_of_le (Nat.le_of_not_lt h8)] using hbit

theorem shift_8_shift_24 (x : BitVec 32) : x >>> 8 >>> 24 = 0#32 := by
  rw [← BitVec.shiftRight_add]
  exact BitVec.ushiftRight_eq_zero (by decide)

end Bits

section Table
variable {tab : List (BitVec 32)} {c d : BitVec 32} {x y : UInt8} {pre post : List UInt8}

theorem CrcTable.index_inj (htab : CrcTable tab) {i j : Nat} (hi : i < tab.length) (hj : j < tab.length)
    (h : tab[i] >>> (24 : Nat) = tab[j] >>> (24 : Nat)) : i = j := by
  have hi' : i < (tab.map fun word : BitVec 32 => word >>> (24 : Nat)).length := by rwa [List.length_map]
  have hj' : j < (tab.map fun word : BitVec 32 => word >>> (24 : Nat)).length := by rwa [List.length_map]
  have hword : (tab.map fun word : BitVec 32 => word >>> (24 : Nat))[i] =
      (tab.map fun word : BitVec 32 => word >>> (24 : Nat))[j] := by
    rw [List.getElem_map, List.getElem_map]
    exact h
  exact htab.high.getElem_inj_iff.mp hword

theorem crcStep_eq (htab : CrcTable tab) (h : crcStep tab c x = crcStep tab d y) :
    (∀ i < 8, (c.getLsbD i ^^ x.toBitVec.getLsbD i) = (d.getLsbD i ^^ y.toBitVec.getLsbD i)) ∧ c >>> 8 = d >>> 8 := by
  have hi := and_255_toNat_lt (c ^^^ x.toBitVec.setWidth 32)
  have hj := and_255_toNat_lt (d ^^^ y.toBitVec.setWidth 32)
  rw [← htab.length] at hi hj
  unfold crcStep at h
  rw [List.getD_eq_getElem _ _ hi, List.getD_eq_getElem _ _ hj] at h
  have hhigh := congrArg (fun word : BitVec 32 => word >>> (24 : Nat)) h
  simp only [BitVec.ushiftRight_xor_distrib, shift_8_shift_24, BitVec.xor_zero] at hhigh
  have hindex := htab.index_inj hi hj hhigh
  simp only [hindex] at h
  refine ⟨fun i hlt => ?_, (BitVec.xor_right_inj _).mp h⟩
  have hbit := congrArg (BitVec.getLsbD · i) (BitVec.eq_of_toNat_eq hindex)
  simpa only [BitVec.getLsbD_and, BitVec.getLsbD_xor, BitVec.getLsbD_setWidth, getLsbD_255, hlt, decide_true, Bool.and_true,
    Nat.lt_trans hlt (by decide : 8 < 32), Bool.true_and] using hbit

theorem crcStep_inj (htab : CrcTable tab) (h : crcStep tab c x = crcStep tab d x) : c = d := by
  obtain ⟨hlow, hshift⟩ := crcStep_eq htab h
  exact eq_of_low_of_shift (fun i hi => Bool.xor_left_inj.mp (hlow i hi)) hshift

theorem crcStep_byte_inj (htab : CrcTable tab) (h : crcStep tab c x = crcStep tab c y) : x = y := by
  obtain ⟨hlow, -⟩ := crcStep_eq htab h
  apply UInt8.toBitVec_inj.mp
  exact BitVec.eq_of_getLsbD_eq fun i hi => Bool.xor_right_inj.mp (hlow i hi)

theorem crcUpdate_inj (htab : CrcTable tab) : ∀ {bytes : List UInt8} {c d : BitVec 32},
    crcUpdate tab c bytes = crcUpdate tab d bytes → c = d
  | [], _, _, h => h
  | _ :: _, _, _, h => crcStep_inj htab (crcUpdate_inj htab h)

theorem crcUpdate_ne (htab : CrcTable tab) (hxy : x ≠ y) :
    crcUpdate tab c (pre ++ x :: post) ≠ crcUpdate tab c (pre ++ y :: post) := by
  intro h
  simp only [crcUpdate, List.foldl_append, List.foldl_cons] at h
  exact hxy (crcStep_byte_inj htab (crcUpdate_inj htab h))

end Table

/-! ### The most significant bit first -/

/-- The place of the word that a byte takes. -/
def crcIndexMsb (crc : BitVec 32) (b : UInt8) : BitVec 32 := (crc >>> 24 ^^^ b.toBitVec.setWidth 32) &&& 0xff#32

/-- A word of the table for each byte, with low bytes that tell them apart, and nothing for the first. -/
structure CrcTableMsb (tab : List (BitVec 32)) : Prop where
  length : tab.length = 256
  low : (tab.map fun word : BitVec 32 => word &&& 0xff#32).Nodup
  zero : tab.getD 0 0#32 = 0#32

/-- The places of the words that bytes take. -/
def crcIndices (tab : List (BitVec 32)) : BitVec 32 → List UInt8 → List (BitVec 32)
  | _, [] => []
  | c, b :: bytes => crcIndexMsb c b :: crcIndices tab (crcStepMsb tab c b) bytes

/-- The low bits of two words are the same. -/
def LowEq (n : Nat) (c d : BitVec 32) : Prop := ∀ i < n, c.getLsbD i = d.getLsbD i

section Msb
variable {tab : List (BitVec 32)} {c d : BitVec 32} {x y : UInt8} {xs ys pre post : List UInt8} {n : Nat}

theorem crcIndexMsb_inj (h : crcIndexMsb c x = crcIndexMsb c y) : x = y := by
  apply UInt8.toBitVec_inj.mp
  refine BitVec.eq_of_getLsbD_eq fun i hi => ?_
  have hbit := congrArg (BitVec.getLsbD · i) h
  simpa only [crcIndexMsb, BitVec.getLsbD_and, BitVec.getLsbD_xor, BitVec.getLsbD_setWidth, getLsbD_255, hi, decide_true,
    Bool.and_true, Nat.lt_trans hi (by decide : 8 < 32), Bool.true_and, Bool.xor_right_inj] using hbit

theorem crcIndices_inj (hlength : xs.length = ys.length) (h : crcIndices tab c xs = crcIndices tab c ys) : xs = ys := by
  induction xs generalizing c ys with
  | nil => exact (List.length_eq_zero_iff.mp hlength.symm).symm
  | cons x xs ih =>
    obtain ⟨y, ys, rfl⟩ := List.exists_cons_of_length_eq_add_one hlength.symm
    obtain ⟨hhead, htail⟩ := List.cons.inj h
    obtain rfl := crcIndexMsb_inj hhead
    rw [ih (Nat.succ.inj hlength) htail]

theorem CrcTableMsb.index_inj (htab : CrcTableMsb tab) {i j : Nat} (hi : i < tab.length) (hj : j < tab.length)
    (h : tab[i] &&& 0xff#32 = tab[j] &&& 0xff#32) : i = j := by
  have hi' : i < (tab.map fun word : BitVec 32 => word &&& 0xff#32).length := by rwa [List.length_map]
  have hj' : j < (tab.map fun word : BitVec 32 => word &&& 0xff#32).length := by rwa [List.length_map]
  have hword : (tab.map fun word : BitVec 32 => word &&& 0xff#32)[i] =
      (tab.map fun word : BitVec 32 => word &&& 0xff#32)[j] := by
    rw [List.getElem_map, List.getElem_map]
    exact h
  exact htab.low.getElem_inj_iff.mp hword

theorem and_255_eq {v w : BitVec 32} (h : LowEq 8 v w) : v &&& 0xff#32 = w &&& 0xff#32 := by
  refine BitVec.eq_of_getLsbD_eq fun i _ => ?_
  rw [BitVec.getLsbD_and, BitVec.getLsbD_and, getLsbD_255]
  by_cases hi : i < 8
  · rw [h i hi]
  · rw [decide_eq_false hi, Bool.and_false, Bool.and_false]

theorem crcStepMsb_low (htab : CrcTableMsb tab) (hn : 8 ≤ n) (hn' : n ≤ 32)
    (h : LowEq n (crcStepMsb tab c x) (crcStepMsb tab d y)) : crcIndexMsb c x = crcIndexMsb d y ∧ LowEq (n - 8) c d := by
  have hi := and_255_toNat_lt (c >>> 24 ^^^ x.toBitVec.setWidth 32)
  have hj := and_255_toNat_lt (d >>> 24 ^^^ y.toBitVec.setWidth 32)
  rw [← htab.length] at hi hj
  unfold crcStepMsb at h
  rw [List.getD_eq_getElem _ _ hi, List.getD_eq_getElem _ _ hj] at h
  have hword : LowEq 8 tab[((c >>> 24 ^^^ x.toBitVec.setWidth 32) &&& 0xff#32).toNat]
      tab[((d >>> 24 ^^^ y.toBitVec.setWidth 32) &&& 0xff#32).toNat] := by
    intro i hlt
    have hbit := h i (Nat.lt_of_lt_of_le hlt hn)
    simpa [hlt, Nat.lt_trans hlt (by decide : 8 < 32)] using hbit
  have hindex := htab.index_inj hi hj (and_255_eq hword)
  refine ⟨BitVec.eq_of_toNat_eq hindex, fun i hlt => ?_⟩
  simp only [hindex] at h
  have hbit := h (i + 8) (by omega)
  rwa [BitVec.getLsbD_xor, BitVec.getLsbD_xor, Bool.xor_right_inj, BitVec.getLsbD_shiftLeft, BitVec.getLsbD_shiftLeft,
    decide_eq_true (show i + 8 < 32 by omega), decide_eq_false (show ¬ i + 8 < 8 by omega), Nat.add_sub_cancel] at hbit

theorem crcUpdateMsb_low (htab : CrcTableMsb tab) (hlength : xs.length = ys.length) (hn : 8 * xs.length ≤ n) (hn' : n ≤ 32)
    (h : LowEq n (crcUpdateMsb tab c xs) (crcUpdateMsb tab d ys)) :
    crcIndices tab c xs = crcIndices tab d ys ∧ LowEq (n - 8 * xs.length) c d := by
  induction xs generalizing c d ys with
  | nil =>
    obtain rfl := (List.length_eq_zero_iff.mp hlength.symm)
    exact ⟨rfl, h⟩
  | cons x xs ih =>
    obtain ⟨y, ys, rfl⟩ := List.exists_cons_of_length_eq_add_one hlength.symm
    rw [List.length_cons] at hn
    obtain ⟨hindices, hlow⟩ := ih (Nat.succ.inj hlength) (by omega) h
    obtain ⟨hindex, hlow'⟩ := crcStepMsb_low htab (by omega) (by omega) hlow
    refine ⟨by rw [crcIndices, crcIndices, hindex, hindices], ?_⟩
    rwa [List.length_cons, Nat.mul_succ, ← Nat.sub_sub]

theorem crcStepMsb_inj (htab : CrcTableMsb tab) (h : crcStepMsb tab c x = crcStepMsb tab d x) : c = d := by
  obtain ⟨hindex, hlow⟩ := crcStepMsb_low htab (show 8 ≤ 32 by decide) (Nat.le_refl 32) fun i _ => congrArg (BitVec.getLsbD · i) h
  refine BitVec.eq_of_getLsbD_eq fun i hi => ?_
  by_cases hlt : i < 24
  · exact hlow i hlt
  · have hbit := congrArg (BitVec.getLsbD · (i - 24)) hindex
    simpa [crcIndexMsb, getLsbD_255, show i - 24 < 8 by omega, show 24 + (i - 24) = i by omega] using hbit

theorem crcUpdateMsb_inj (htab : CrcTableMsb tab) : ∀ {bytes : List UInt8} {c d : BitVec 32},
    crcUpdateMsb tab c bytes = crcUpdateMsb tab d bytes → c = d
  | [], _, _, h => h
  | _ :: _, _, _, h => crcStepMsb_inj htab (crcUpdateMsb_inj htab h)

theorem crcUpdateMsb_ne (htab : CrcTableMsb tab) (hlength : xs.length = ys.length) (hfour : xs.length ≤ 4) (hne : xs ≠ ys) :
    crcUpdateMsb tab c (pre ++ (xs ++ post)) ≠ crcUpdateMsb tab c (pre ++ (ys ++ post)) := by
  intro h
  simp only [crcUpdateMsb, List.foldl_append] at h
  have hwindow : crcUpdateMsb tab (crcUpdateMsb tab c pre) xs = crcUpdateMsb tab (crcUpdateMsb tab c pre) ys :=
    crcUpdateMsb_inj htab h
  obtain ⟨hindices, -⟩ := crcUpdateMsb_low htab hlength (show 8 * xs.length ≤ 32 by omega) (Nat.le_refl 32)
    fun i _ => congrArg (BitVec.getLsbD · i) hwindow
  exact hne (crcIndices_inj hlength hindices)

theorem crcStepMsb_high (htab : CrcTableMsb tab) {k : Nat} (hk : k % 256 = c.toNat / 2 ^ 24) :
    crcStepMsb tab c (UInt8.ofNat k) = c <<< 8 := by
  have hbyte : (UInt8.ofNat k).toBitVec.setWidth 32 = c >>> 24 := by
    apply BitVec.eq_of_toNat_eq
    have hlt := c.isLt
    rw [BitVec.toNat_setWidth, UInt8.toNat_toBitVec, UInt8.toNat_ofNat', hk, BitVec.toNat_ushiftRight, Nat.shiftRight_eq_div_pow]
    exact Nat.mod_eq_of_lt (by omega)
  rw [crcStepMsb, hbyte, BitVec.xor_self, BitVec.zero_and, BitVec.toNat_zero, htab.zero, BitVec.zero_xor]

theorem take_beBytes_four {j : Nat} (hj : j < 4) (v : Nat) :
    (beBytes 4 v).take (j + 1) = (beBytes 4 v).take j ++ [UInt8.ofNat (v / 256 ^ (3 - j))] := by
  have hbytes : beBytes 4 v =
    [UInt8.ofNat (v / 256 / 256 / 256), UInt8.ofNat (v / 256 / 256), UInt8.ofNat (v / 256), UInt8.ofNat v] := rfl
  rw [hbytes]
  interval_cases j <;> simp [Nat.div_div_eq_div_mul]

theorem crcUpdateMsb_take (htab : CrcTableMsb tab) (c : BitVec 32) {j : Nat} (hj : j ≤ 4) :
    crcUpdateMsb tab c ((beBytes 4 c.toNat).take j) = c <<< (8 * j) := by
  induction j with
  | zero => exact (BitVec.shiftLeft_zero c).symm
  | succ j ih =>
    have hlt := c.isLt
    have hlast : j < 4 := Nat.lt_of_succ_le hj
    have hhigh : c.toNat / 256 ^ (3 - j) % 256 = (c <<< (8 * j)).toNat / 2 ^ 24 := by
      rw [BitVec.toNat_shiftLeft, Nat.shiftLeft_eq]
      interval_cases j <;> omega
    rw [take_beBytes_four hlast, crcUpdateMsb, List.foldl_append]
    change crcStepMsb tab (crcUpdateMsb tab c ((beBytes 4 c.toNat).take j)) _ = _
    rw [ih (Nat.le_of_succ_le hj), crcStepMsb_high htab hhigh, Nat.mul_succ, BitVec.shiftLeft_add]

end Msb
end BcmPlatform.Lib
