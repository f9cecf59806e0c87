import BcmPlatform.Theorems.Pes

/-! Time stamps: what the PTS field of a PES header says, and ticks against the 45 kHz clock. -/

namespace BcmPlatform.Bomx
open Lib

/-! ### The PTS field -/

theorem getBits_lt (w e b : Nat) : getBits w e b < 2 ^ (e + 1 - b) := Nat.mod_lt _ (Nat.two_pow_pos _)

theorem getBits_eq (w e b : Nat) : getBits w e b = w / 2 ^ b % 2 ^ (e + 1 - b) := by
  rw [getBits, Nat.shiftRight_eq_div_pow]

theorem ptsField_toNat (pts : Nat) : (ptsField pts).map UInt8.toNat =
    [32 + getBits pts 31 29 * 2 + 1, getBits pts 28 21, getBits pts 20 14 * 2 + 1, getBits pts 13 6,
      getBits pts 5 0 * 4 + 1] := by
  have h₁ : getBits pts 31 29 < 2 ^ 3 := getBits_lt pts 31 29
  have h₂ : getBits pts 28 21 < 2 ^ 8 := getBits_lt pts 28 21
  have h₃ : getBits pts 20 14 < 2 ^ 7 := getBits_lt pts 20 14
  have h₄ : getBits pts 13 6 < 2 ^ 8 := getBits_lt pts 13 6
  have h₅ : getBits pts 5 0 < 2 ^ 6 := getBits_lt pts 5 0
  have hfirst : (0x02 <<< 4) ||| (getBits pts 31 29 <<< 1) ||| 1 = 32 + getBits pts 31 29 * 2 + 1 := by
    rw [Nat.or_assoc, shiftLeft_or_eq_add (a := getBits pts 31 29) (by decide), shiftLeft_or_eq_add (by omega)]
    omega
  have hthird : (getBits pts 20 14 <<< 1) ||| 1 = getBits pts 20 14 * 2 + 1 := shiftLeft_or_eq_add (by decide)
  have hlast : (getBits pts 5 0 <<< 2) ||| (0 <<< 1) ||| 1 = getBits pts 5 0 * 4 + 1 := by
    rw [Nat.or_assoc]
    exact shiftLeft_or_eq_add (by decide)
  simp only [ptsField, List.map_cons, List.map_nil, UInt8.toNat_ofNat', hfirst, hthird, hlast]
  rw [Nat.mod_eq_of_lt (by omega), Nat.mod_eq_of_lt h₂, Nat.mod_eq_of_lt (by omega), Nat.mod_eq_of_lt h₄,
    Nat.mod_eq_of_lt (by omega)]

theorem ptsParts_value {a b c d e v : Nat} (ha : a < 8) (hb : b < 256) (hc : c < 128) (hd : d < 256) (he : e < 64)
    (hv : v = ((((32 + a * 2 + 1) * 256 + b) * 256 + (c * 2 + 1)) * 256 + d) * 256 + (e * 4 + 1)) :
    v / 2 ^ 36 % 2 ^ 4 = 2 ∧
    v / 2 ^ 33 % 2 ^ 3 * 2 ^ 30 + v / 2 ^ 17 % 2 ^ 15 * 2 ^ 15 + v / 2 ^ 1 % 2 ^ 15 =
      2 * (a * 2 ^ 29 + b * 2 ^ 21 + c * 2 ^ 14 + d * 2 ^ 6 + e) ∧
    v / 2 ^ 32 % 2 ^ 1 = 1 ∧ v / 2 ^ 16 % 2 ^ 1 = 1 ∧ v / 2 ^ 0 % 2 ^ 1 = 1 := by
  refine ⟨by omega, ?_, by omega, by omega, by omega⟩
  have hhigh : v / 2 ^ 33 % 2 ^ 3 = a := by omega
  have hmiddle : v / 2 ^ 17 % 2 ^ 15 = b * 2 ^ 7 + c := by omega
  have hlow : v / 2 ^ 1 % 2 ^ 15 = d * 2 ^ 7 + 2 * e := by omega
  omega

theorem getBits_parts {pts : Nat} (h : pts < 2 ^ 32) :
    getBits pts 31 29 * 2 ^ 29 + getBits pts 28 21 * 2 ^ 21 + getBits pts 20 14 * 2 ^ 14 + getBits pts 13 6 * 2 ^ 6 +
      getBits pts 5 0 = pts := by
  have ha : getBits pts 31 29 = pts / 536870912 % 8 := getBits_eq pts 31 29
  have hb : getBits pts 28 21 = pts / 2097152 % 256 := getBits_eq pts 28 21
  have hc : getBits pts 20 14 = pts / 16384 % 128 := getBits_eq pts 20 14
  have hd : getBits pts 13 6 = pts / 64 % 256 := getBits_eq pts 13 6
  have he : getBits pts 5 0 = pts / 1 % 64 := getBits_eq pts 5 0
  rw [ha, hb, hc, hd, he]
  omega

theorem readPtsField_ptsField {pts : Nat} (h : pts < 2 ^ 32) :
    readPtsField (ptsField pts) = { start := 2, pts := 2 * pts, markers := [1, 1, 1] } := by
  have hvalue : beValue (ptsField pts) = ((ptsField pts).map UInt8.toNat).foldl (fun v b => v * 256 + b) 0 := by
    rw [List.foldl_map]
    rfl
  rw [ptsField_toNat] at hvalue
  simp only [List.foldl_cons, List.foldl_nil, Nat.zero_mul, Nat.zero_add] at hvalue
  obtain ⟨hstart, hpts, hm₁, hm₂, hm₃⟩ := ptsParts_value (getBits_lt pts 31 29) (getBits_lt pts 28 21) (getBits_lt pts 20 14)
    (getBits_lt pts 13 6) (getBits_lt pts 5 0) hvalue
  rw [getBits_parts h] at hpts
  simp only [readPtsField, PtsField.mk.injEq, List.cons.injEq, and_true]
  exact ⟨hstart, hpts, hm₁, hm₂, hm₃⟩

/-! ### Ticks -/

section Ticks
variable {t t' : Int}

theorem tickToPts_natCast {n : Nat} (hwrap : n / 1000 * 45 < u32) : tickToPts (n : Int) = n / 1000 * 45 := by
  unfold tickToPts
  split
  · next h =>
    have hn : n = 0 := Int.natCast_nonpos_iff.mp h
    rw [hn]
  · rw [Int.toNat_natCast, Nat.mod_eq_of_lt hwrap]

theorem tickToPts_eq (h : 0 ≤ t) (hwrap : t / 1000 * 45 < u32) : (tickToPts t : Int) = t / 1000 * 45 := by
  obtain ⟨n, rfl⟩ := Int.eq_ofNat_of_zero_le h
  rw [tickToPts_natCast (by omega)]
  omega

theorem tickToPts_lt (t : Int) : tickToPts t < u32 := by
  unfold tickToPts
  split
  · decide
  · exact Nat.mod_lt _ (by decide)

theorem tickToPts_mono (h : t ≤ t') (hwrap : t' / 1000 * 45 < u32) : tickToPts t ≤ tickToPts t' := by
  rcases Int.le_total t 0 with ht | ht
  · have hzero : tickToPts t = 0 := if_pos ht
    rw [hzero]
    exact Nat.zero_le _
  · have h₁ := tickToPts_eq ht (by omega)
    have h₂ := tickToPts_eq (Int.le_trans ht h) hwrap
    omega

theorem ptsToTick_tickToPts (h : 0 ≤ t) (hwrap : t / 1000 * 45 < u32) : ptsToTick (tickToPts t) = t / 1000 * 1000 := by
  have heq := tickToPts_eq h hwrap
  change ((tickToPts t * 1000 / 45 : Nat) : Int) = t / 1000 * 1000
  omega

theorem wrap_of_lt (hwrap : 45 * t < 2 ^ 32 * 1000) : t / 1000 * 45 < u32 := by
  have hu32 : (u32 : Int) = 4294967296 := rfl
  rw [hu32]
  omega

end Ticks

/-- The header that `InitHeader` writes for a PTS has the field that stands for `2 * pts` on the 90 kHz clock; up to the wrap
    `BOMX_TickToPts` is monotone, `BOMX_PtsToTick` gives the ticks back in milliseconds, a second conversion changes nothing,
    and ticks with the same PTS are in the same millisecond. -/
theorem timestamp_roundTrip :
    (∀ (streamId : UInt8) (m : Memory UInt8) (pHeaderBuf maxHeaderBytes pts : Nat), pts < 2 ^ 32 →
      pesHeaderLengthWithPts ≤ maxHeaderBytes →
      (initHeader streamId m pHeaderBuf maxHeaderBytes (some pts)).1 = pesHeaderLengthWithPts ∧
      readPtsField ((initHeader streamId m pHeaderBuf maxHeaderBytes (some pts)).2.read (pHeaderBuf + 9) 5) =
        { start := 2, pts := 2 * pts, markers := [1, 1, 1] }) ∧
    (∀ t t' : Int, 0 ≤ t → t ≤ t' → 45 * t' < 2 ^ 32 * 1000 → tickToPts t ≤ tickToPts t') ∧
    (∀ t : Int, 0 ≤ t → 45 * t < 2 ^ 32 * 1000 → ptsToTick (tickToPts t) = t / 1000 * 1000 ∧
      tickToPts (ptsToTick (tickToPts t)) = tickToPts t ∧
      ptsToTick (tickToPts (ptsToTick (tickToPts t))) = ptsToTick (tickToPts t)) ∧
    ∀ t t' : Int, 0 ≤ t → 0 ≤ t' → 45 * t < 2 ^ 32 * 1000 → 45 * t' < 2 ^ 32 * 1000 → tickToPts t = tickToPts t' →
      t / 1000 = t' / 1000 := by
  refine ⟨fun streamId m pHeaderBuf maxHeaderBytes pts hpts hroom => ?_,
    fun t t' _ h hwrap => tickToPts_mono h (wrap_of_lt hwrap),
    fun t h hwrap => ?_, fun t t' h h' hwrap hwrap' heq => ?_⟩
  · have hsize : pesHeaderLength (some pts) = pesHeaderLengthWithPts := rfl
    have hheader := Memory.read_write_same m pHeaderBuf (pesHeader streamId (some pts) 0)
    rw [length_pesHeader, show pesHeaderLength (some pts) = 9 + 5 from rfl, Memory.read_add] at hheader
    have hfield : (m.write pHeaderBuf (pesHeader streamId (some pts) 0)).read (pHeaderBuf + 9) 5 = ptsField pts := by
      have hdrop := congrArg (List.drop 9) hheader
      rwa [List.drop_left' (Memory.length_read ..)] at hdrop
    rw [initHeader, hsize, if_neg (Nat.not_lt.mpr hroom)]
    exact ⟨rfl, by rw [hfield, readPtsField_ptsField hpts]⟩
  · have hback := ptsToTick_tickToPts h (wrap_of_lt hwrap)
    have htwice : tickToPts (ptsToTick (tickToPts t)) = tickToPts t := by
      have hsame : t / 1000 * 1000 / 1000 = t / 1000 := by omega
      have h₁ := tickToPts_eq h (wrap_of_lt hwrap)
      have h₂ := tickToPts_eq (t := t / 1000 * 1000) (by omega) (by rw [hsame]; exact wrap_of_lt hwrap)
      rw [hsame] at h₂
      rw [hback]
      omega
    exact ⟨hback, htwice, congrArg ptsToTick htwice⟩
  · have h₁ := tickToPts_eq h (wrap_of_lt hwrap)
    have h₂ := tickToPts_eq h' (wrap_of_lt hwrap')
    omega

theorem timestamp_roundTrip_second :
    readPtsField ((initHeader 0xE0 (fun _ => 0) 0 64 (some 45000)).2.read 9 5) =
      { start := 2, pts := 90000, markers := [1, 1, 1] } ∧
    tickToPts 1000000 ≤ tickToPts 1000999 ∧ ptsToTick (tickToPts 1000999) = 1000000 ∧ (1000000 : Int) / 1000 = 1000999 / 1000 :=
  ⟨by simpa using (timestamp_roundTrip.1 0xE0 (fun _ => 0) 0 64 45000 (by decide) (by decide)).2,
    timestamp_roundTrip.2.1 1000000 1000999 (by decide) (by decide) (by decide),
    (timestamp_roundTrip.2.2.1 1000999 (by decide) (by decide)).1,
    timestamp_roundTrip.2.2.2 1000000 1000999 (by decide) (by decide) (by decide) (by decide) (by decide)⟩

end BcmPlatform.Bomx
