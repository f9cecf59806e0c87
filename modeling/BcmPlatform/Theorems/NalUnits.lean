import BcmPlatform.Hevc.NalUnits
import Mathlib.Data.Nat.Find

/-! When the search for NAL units stays in its data, and when it finds every unit of a byte stream. -/

namespace BcmPlatform.Hevc
open Lib
variable {data : List UInt8} {startCodeFollows : Bool} {offset o : Nat}

/-! ### The loop over the start codes -/

/-- The two bytes that the loop looks back at lie in the data. -/
def LooksInside (data : List UInt8) (k : Nat) : Prop := data[k]? = some 1 → 1 ≤ k ∧ (data[k - 1]? = some 0 → 2 ≤ k)

theorem looksInside_of_le {k : Nat} (h : 2 ≤ k) : LooksInside data k := fun _ => ⟨by omega, fun _ => h⟩

theorem looksInside_of_start (hone : data[0]? ≠ some 1) (hzeroOne : ¬ (data[0]? = some 0 ∧ data[1]? = some 1)) (k : Nat) :
    LooksInside data k := by
  intro hk
  match k with
  | 0 => exact absurd hk hone
  | 1 => exact ⟨Nat.le_refl 1, fun hzero => absurd ⟨hzero, hk⟩ hzeroOne⟩
  | k + 2 => exact ⟨by omega, fun _ => by omega⟩

theorem byteAt_of_getElem? {k : Nat} {b : UInt8} (h : data[k]? = some b) : byteAt data k = .ok b := by
  rw [byteAt, if_neg (by omega), Int.toNat_natCast, h]

theorem byteAt_sub {k : Nat} {c : Nat} {b : UInt8} (hc : c ≤ k) (h : data[k - c]? = some b) :
    byteAt data ((k : Int) - c) = .ok b := by
  rw [← byteAt_of_getElem? h]
  congr 1
  omega

theorem byteAt_of_length_le {k : Nat} (h : data.length ≤ k) : byteAt data k = .error (.outside k) := by
  rw [byteAt, if_neg (by omega), Int.toNat_natCast, List.getElem?_eq_none h]

theorem findStartCode_of_ne (hlt : offset < data.length) (h : data[offset]? ≠ some 1) :
    findStartCode data startCodeFollows offset = findStartCode data startCodeFollows (offset + 1) := by
  rw [findStartCode, if_pos ⟨hlt, h⟩]

theorem findStartCode_codeEnds (h : CodeEnds data offset) : findStartCode data startCodeFollows offset = .ok offset := by
  have hlt := h.lt
  obtain ⟨htwo, hzero, hzero', hone⟩ := h
  have hprev := byteAt_sub (c := 1) (by omega) hzero'
  have hprev' := byteAt_sub (c := 2) htwo hzero
  rw [findStartCode, if_neg (fun hskip => hskip.2 hone), if_neg (by omega)]
  split
  · next e he => rw [show ((offset : Int) - 1) = offset - (1 : Nat) from rfl, hprev] at he; cases he
  · next b hb =>
    rw [show ((offset : Int) - 1) = offset - (1 : Nat) from rfl, hprev] at hb
    obtain rfl := Except.ok.inj hb
    rw [if_neg (not_not.mpr rfl), show ((offset : Int) - 2) = offset - (2 : Nat) from rfl, hprev']
    exact if_neg (not_not.mpr rfl)

theorem findStartCode_advance (hlt : offset < data.length) (hinside : LooksInside data offset)
    (hnot : ¬ CodeEnds data offset) :
    findStartCode data startCodeFollows offset = findStartCode data startCodeFollows (offset + 1) := by
  by_cases hone : data[offset]? = some 1
  · obtain ⟨hpos, htwo⟩ := hinside hone
    obtain ⟨b, hb⟩ : ∃ b, data[offset - 1]? = some b := ⟨_, List.getElem?_eq_getElem (by omega)⟩
    have hprev := byteAt_sub (c := 1) hpos hb
    rw [findStartCode, if_neg (fun hskip => hskip.2 hone), if_neg (by omega)]
    split
    · next e he => rw [show ((offset : Int) - 1) = offset - (1 : Nat) from rfl, hprev] at he; cases he
    · next b₁ hb₁ =>
      rw [show ((offset : Int) - 1) = offset - (1 : Nat) from rfl, hprev] at hb₁
      obtain rfl := Except.ok.inj hb₁
      by_cases hzero : b = 0
      · subst hzero
        obtain ⟨b', hb'⟩ : ∃ b', data[offset - 2]? = some b' := ⟨_, List.getElem?_eq_getElem (by omega)⟩
        have hne : b' ≠ 0 := by
          rintro rfl
          exact hnot ⟨htwo hb, hb', hb, hone⟩
        rw [if_neg (not_not.mpr rfl), show ((offset : Int) - 2) = offset - (2 : Nat) from rfl,
          byteAt_sub (htwo hb) hb']
        exact if_pos hne
      · rw [if_pos hzero]
  · exact findStartCode_of_ne hlt hone

theorem findStartCode_length : findStartCode data startCodeFollows data.length =
    if startCodeFollows then .ok (data.length + 2) else .error .eagain := by
  rw [findStartCode, if_neg (fun h => Nat.lt_irrefl _ h.1), if_pos rfl]

theorem findStartCode_first (hle : offset ≤ o) (hends : CodeEnds data o)
    (hbefore : ∀ k, offset ≤ k → k < o → LooksInside data k ∧ ¬ CodeEnds data k) :
    findStartCode data startCodeFollows offset = .ok o := by
  induction hle using Nat.decreasingInduction with
  | self => exact findStartCode_codeEnds hends
  | of_succ k hk ih =>
    obtain ⟨hinside, hnot⟩ := hbefore k (Nat.le_refl k) hk
    rw [findStartCode_advance (Nat.lt_trans hk hends.lt) hinside hnot]
    exact ih fun j hj => hbefore j (by omega)

theorem findStartCode_none (hle : offset ≤ data.length)
    (hnone : ∀ k, offset ≤ k → k < data.length → LooksInside data k ∧ ¬ CodeEnds data k) :
    findStartCode data startCodeFollows offset = if startCodeFollows then .ok (data.length + 2) else .error .eagain := by
  induction hle using Nat.decreasingInduction with
  | self => exact findStartCode_length
  | of_succ k hk ih =>
    obtain ⟨hinside, hnot⟩ := hnone k (Nat.le_refl k) hk
    rw [findStartCode_advance hk hinside hnot]
    exact ih fun j hj => hnone j (by omega)

theorem findStartCode_mark :
    findStartCode data startCodeFollows (data.length + 3) = .error (.outside (data.length + 2 : Nat)) := by
  have hread : byteAt data ((data.length + 3 : Nat) - 1) = .error (.outside (data.length + 2 : Nat)) := by
    rw [show ((data.length + 3 : Nat) : Int) - 1 = (data.length + 2 : Nat) by omega]
    exact byteAt_of_length_le (Nat.le_add_right _ 2)
  rw [findStartCode, if_neg (fun h => by omega), if_neg (by omega)]
  split
  · next e he =>
    rw [hread] at he
    cases he
    rfl
  · next b hb =>
    rw [hread] at hb
    cases hb

theorem findStartCode_true_ok (htwo : 2 ≤ offset) (hle : offset ≤ data.length) :
    ∃ o, findStartCode data true offset = .ok o ∧ (offset ≤ o ∧ CodeEnds data o ∨ o = data.length + 2) := by
  have hsome : ∃ o, findStartCode data true offset = .ok o := by
    by_cases hnone : ∀ k, offset ≤ k → k < data.length → LooksInside data k ∧ ¬ CodeEnds data k
    · exact ⟨_, findStartCode_none hle hnone⟩
    · have hex : ∃ k, offset ≤ k ∧ CodeEnds data k := by
        by_contra hno
        exact hnone fun k hk _ => ⟨looksInside_of_le (by omega), fun hends => hno ⟨k, hk, hends⟩⟩
      obtain ⟨hk, hends⟩ := Nat.find_spec hex
      refine ⟨_, findStartCode_first hk hends fun k hk hlt => ⟨looksInside_of_le (by omega), fun hends => ?_⟩⟩
      exact Nat.find_min hex hlt ⟨hk, hends⟩
  obtain ⟨o, ho⟩ := hsome
  exact ⟨o, ho, findStartCode_ok ho⟩

/-! ### The zeros at the end of a unit -/

theorem trimZeros_ok {startOffset endOffset : Nat} (hstart : startOffset ≤ endOffset) (hend : endOffset ≤ data.length) :
    ∃ e, trimZeros data startOffset endOffset = .ok e ∧ startOffset ≤ e ∧ e ≤ endOffset := by
  induction endOffset with
  | zero => exact ⟨0, rfl, hstart, Nat.le_refl 0⟩
  | succ n ih =>
    rw [trimZeros]
    split_ifs with hlt
    · rw [byteAt_of_getElem? (List.getElem?_eq_getElem (by omega : n < data.length))]
      simp only []
      split_ifs
      · obtain ⟨e, he, hle, hle'⟩ := ih (by omega) (by omega)
        exact ⟨e, he, hle, by omega⟩
      · exact ⟨n + 1, rfl, by omega, Nat.le_refl _⟩
    · exact ⟨n + 1, rfl, hstart, Nat.le_refl _⟩

theorem trimZeros_last {startOffset n : Nat} {b : UInt8} (hb : data[n]? = some b) (hne : b ≠ 0) :
    trimZeros data startOffset (n + 1) = .ok (n + 1) := by
  rw [trimZeros, byteAt_of_getElem? hb]
  simp only [if_neg hne, ite_self]

theorem trimZeros_zero {startOffset n : Nat} (hb : data[n]? = some 0) (hlt : startOffset < n) :
    trimZeros data startOffset (n + 1) = trimZeros data startOffset n := by
  rw [trimZeros, if_pos hlt, byteAt_of_getElem? hb]
  exact if_pos rfl

/-! ### One call -/

/-- A call reads only in the data, and what it returns lies in them. -/
def SafeCall (data : List UInt8) : Prop :=
  (∀ index, getNextNalUnitHevc data true ≠ .error (.outside index)) ∧
  ∀ n, getNextNalUnitHevc data true = .ok n → 0 ≤ n.nalSize ∧ n.nalStart + n.nalSize ≤ data.length

/-- The data have a start code, and no 01 in the first two bytes at which the loop would look back too far. -/
def StartsSafely (data : List UInt8) : Prop :=
  (∃ k, CodeEnds data k) ∧ data[0]? ≠ some 1 ∧ ¬ (data[0]? = some 0 ∧ data[1]? = some 1)

theorem getNext_of_first {e : NalStop} (hne : data ≠ []) (h : findStartCode data startCodeFollows 0 = .error e) :
    getNextNalUnitHevc data startCodeFollows = .error e := by
  rw [getNextNalUnitHevc, if_neg fun hzero => hne (List.length_eq_zero_iff.mp hzero), h]
  rfl

theorem getNext_of_steps {first offset endOffset : Nat} (hne : data ≠ [])
    (hfirst : findStartCode data startCodeFollows 0 = .ok first)
    (hoffset : findStartCode data startCodeFollows (first + 1) = .ok offset)
    (hend : trimZeros data (first + 1) (offset - 2) = .ok endOffset) :
    getNextNalUnitHevc data startCodeFollows = .ok
      { nalStart := first + 1, nalSize := (endOffset : Int) - (first + 1 : Nat),
        rest := if offset + 2 < data.length then data.drop (offset - 2) else [] } := by
  rw [getNextNalUnitHevc, if_neg fun hzero => hne (List.length_eq_zero_iff.mp hzero), hfirst]
  simp only [bind, Except.bind, hoffset, hend]
  rfl

theorem getNext_of_startsSafely (h : StartsSafely data) : ∃ n, getNextNalUnitHevc data true = .ok n ∧
    0 ≤ n.nalSize ∧ n.nalStart + n.nalSize ≤ data.length := by
  obtain ⟨hex, hone, hzeroOne⟩ := h
  have hfirst := Nat.find_spec hex
  have hinside := looksInside_of_start hone hzeroOne
  have hfind : findStartCode data true 0 = .ok (Nat.find hex) :=
    findStartCode_first (Nat.zero_le _) hfirst fun k _ hk => ⟨hinside k, Nat.find_min hex hk⟩
  have hlt := hfirst.lt
  have htwo := hfirst.1
  obtain ⟨offset, hoffset, hcases⟩ := findStartCode_true_ok (Nat.le_succ_of_le htwo) hlt
  -- the next start code has its two zeros behind the 01 of the first one
  have hbounds : Nat.find hex + 1 ≤ offset - 2 ∧ offset - 2 ≤ data.length := by
    rcases hcases with ⟨hle, hends⟩ | rfl
    · have hlast := hfirst.2.2.2
      have hend := hends.lt
      refine ⟨?_, by omega⟩
      by_contra hgt
      rcases (by omega : offset - 2 = Nat.find hex ∨ offset - 1 = Nat.find hex) with heq | heq
      · rw [← heq, hends.2.1] at hlast
        cases hlast
      · rw [← heq, hends.2.2.1] at hlast
        cases hlast
    · omega
  obtain ⟨endOffset, hend, hle, hle'⟩ := trimZeros_ok hbounds.1 hbounds.2
  have hne : data ≠ [] := by
    rintro rfl
    exact absurd hlt (Nat.not_lt_zero _)
  refine ⟨_, getNext_of_steps hne hfind hoffset hend, ?_, ?_⟩
  · simp only []
    omega
  · simp only []
    omega

theorem getNext_outside (hne : data ≠ []) (h : ¬ StartsSafely data) :
    ∃ index, getNextNalUnitHevc data true = .error (.outside index) := by
  have hpos := List.length_pos_iff.mpr hne
  have hcode : ∀ k, k < 2 → ¬ CodeEnds data k := fun k hk hends => absurd hends.1 (by omega)
  by_cases hone : data[0]? = some 1
  · refine ⟨-1, getNext_of_first hne ?_⟩
    rw [findStartCode, if_neg (fun hskip => hskip.2 hone), if_neg (by omega)]
    rfl
  · by_cases hzeroOne : data[0]? = some 0 ∧ data[1]? = some 1
    · obtain ⟨hzero, hone'⟩ := hzeroOne
      have hlt := (List.getElem?_eq_some_iff.mp hone').1
      refine ⟨-1, getNext_of_first hne ?_⟩
      have hread : byteAt data (((0 + 1 : Nat) : Int) - 1) = .ok 0 := byteAt_of_getElem? (k := 0) hzero
      rw [findStartCode_of_ne hpos hone, findStartCode, if_neg (fun hskip => hskip.2 hone'), if_neg (by omega)]
      split
      · next e he =>
        rw [hread] at he
        cases he
      · next b hb =>
        rw [hread] at hb
        obtain rfl := Except.ok.inj hb
        rfl
    · -- no start code: the mark for the end is taken for the end of one
      have hnone : ∀ k, ¬ CodeEnds data k := fun k hends => h ⟨⟨k, hends⟩, hone, hzeroOne⟩
      have hinside := looksInside_of_start hone hzeroOne
      have hfind : findStartCode data true 0 = .ok (data.length + 2) :=
        findStartCode_none (Nat.zero_le _) fun k _ _ => ⟨hinside k, hnone k⟩
      refine ⟨(data.length + 2 : Nat), ?_⟩
      rw [getNextNalUnitHevc, if_neg (by omega), hfind]
      simp only [bind, Except.bind, findStartCode_mark]

theorem safeCall_iff (data : List UInt8) : SafeCall data ↔ data = [] ∨ StartsSafely data := by
  constructor
  · intro hsafe
    by_cases hne : data = []
    · exact .inl hne
    · by_contra hnot
      obtain ⟨index, hindex⟩ := getNext_outside hne fun hstarts => hnot (.inr hstarts)
      exact hsafe.1 index hindex
  · rintro (rfl | hstarts)
    · constructor
      · intro index h
        cases h
      · intro n h
        cases h
    · obtain ⟨n, hn, hbounds⟩ := getNext_of_startsSafely hstarts
      constructor
      · intro index h
        rw [hn] at h
        cases h
      · intro n' h
        rw [hn] at h
        obtain rfl := Except.ok.inj h
        exact hbounds

end BcmPlatform.Hevc
