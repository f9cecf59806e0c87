import BcmPlatform.Theorems.NalUnits

/-! Repeated calls on a byte stream return its units, but for a last one of a single byte. -/

namespace BcmPlatform.Hevc
open Lib

/-- The data that a call leaves of a byte stream: all behind the zero of a long start code, unless fewer than two bytes
    follow the start code. -/
def leftOver : List (StartCode × NalUnit) → List UInt8
  | [] => []
  | p :: rest =>
    if (p.2.bytes ++ byteStream rest).length < 2 then [] else StartCode.short.bytes ++ (p.2.bytes ++ byteStream rest)

section
variable (c : StartCode) (u : NalUnit) (rest : List (StartCode × NalUnit))

theorem findStartCode_start (l : List UInt8) :
    findStartCode (c.bytes ++ l) true 0 = .ok (c.leading.length + 2) := by
  have hends : CodeEnds (c.bytes ++ l) (c.leading.length + 2) := by
    rw [StartCode.bytes_eq, List.append_assoc]
    exact codeEnds_append _ _
  refine findStartCode_first (Nat.zero_le _) hends fun k _ hk => ?_
  have hzero := c.getElem?_bytes hk l
  refine ⟨fun hone => ?_, fun hends => ?_⟩
  · rw [hzero] at hone
    cases hone
  · rw [hends.2.2.2] at hzero
    cases hzero

theorem findStartCode_lastUnit : findStartCode (c.bytes ++ (u.bytes ++ [])) true c.bytes.length =
    .ok ((c.bytes ++ (u.bytes ++ [])).length + 2) := by
  refine findStartCode_none (by rw [List.length_append]; exact Nat.le_add_right _ _) fun k hle hlt => ?_
  have hlen := c.length_bytes
  refine ⟨looksInside_of_le (by omega), ?_⟩
  refine u.not_codeEnds_before c.bytes c.getLast?_bytes (m := 0) (fun i hi => absurd hi (Nat.not_lt_zero i)) hle ?_
  simpa [Nat.add_assoc] using hlt

theorem findStartCode_nextUnit (c' : StartCode) (l : List UInt8) :
    findStartCode (c.bytes ++ (u.bytes ++ (c'.bytes ++ l))) true c.bytes.length =
      .ok (c.bytes.length + u.bytes.length + c'.leading.length + 2) := by
  have hends : CodeEnds (c.bytes ++ (u.bytes ++ (c'.bytes ++ l)))
      (c.bytes.length + u.bytes.length + c'.leading.length + 2) := by
    have h := codeEnds_append (c.bytes ++ u.bytes ++ c'.leading) l
    rwa [List.append_assoc, List.append_assoc, ← List.append_assoc c'.leading, ← c'.bytes_eq, List.length_append,
      List.length_append] at h
  refine findStartCode_first (by omega) hends fun k hle hlt => ?_
  have hlen := c.length_bytes
  refine ⟨looksInside_of_le (by omega), ?_⟩
  refine u.not_codeEnds_before c.bytes c.getLast?_bytes (m := c'.leading.length + 2) (fun i hi hone => ?_) hle (by omega)
  rw [c'.getElem?_bytes hi l] at hone
  cases hone

theorem trimZeros_unit (l : List UInt8) :
    trimZeros (c.bytes ++ (u.bytes ++ l)) c.bytes.length (c.bytes.length + u.bytes.length) =
      .ok (c.bytes.length + u.bytes.length) := by
  have hpos := u.length_pos
  obtain ⟨b, hb⟩ : ∃ b, u.bytes.getLast? = some b := ⟨_, List.getLast?_eq_some_getLast u.nonempty⟩
  have hne : b ≠ 0 := by
    rintro rfl
    exact u.last hb
  rw [List.getLast?_eq_getElem?] at hb
  have hget : (c.bytes ++ (u.bytes ++ l))[c.bytes.length + (u.bytes.length - 1)]? = some b := by
    rw [List.getElem?_append_right (Nat.le_add_right _ _), Nat.add_sub_cancel_left,
      List.getElem?_append_left (by omega), hb]
  rw [show c.bytes.length + u.bytes.length = c.bytes.length + (u.bytes.length - 1) + 1 by omega]
  exact trimZeros_last hget hne

theorem trimZeros_nextUnit (c' : StartCode) (l : List UInt8) :
    trimZeros (c.bytes ++ (u.bytes ++ (c'.bytes ++ l))) c.bytes.length
      (c.bytes.length + u.bytes.length + c'.leading.length) = .ok (c.bytes.length + u.bytes.length) := by
  have hpos := u.length_pos
  rw [← trimZeros_unit c u (c'.bytes ++ l)]
  cases c' with
  | short => rfl
  | long =>
    refine trimZeros_zero ?_ (by omega)
    rw [List.getElem?_append_right (by omega), List.getElem?_append_right (by omega),
      show c.bytes.length + u.bytes.length - c.bytes.length - u.bytes.length = 0 by omega]
    rfl

theorem getNext_unit : getNextNalUnitHevc (c.bytes ++ (u.bytes ++ byteStream rest)) true =
    .ok { nalStart := c.bytes.length, nalSize := u.bytes.length, rest := leftOver rest } := by
  have hlen := c.length_bytes
  have hne : c.bytes ++ (u.bytes ++ byteStream rest) ≠ [] := by
    intro hnil
    have := congrArg List.length hnil
    rw [List.length_append, List.length_nil] at this
    omega
  have hfirst := findStartCode_start c (u.bytes ++ byteStream rest)
  cases rest with
  | nil =>
    rw [show byteStream [] = [] from rfl] at *
    have hoffset := findStartCode_lastUnit c u
    have hend := trimZeros_unit c u []
    rw [hlen] at hoffset hend
    rw [getNext_of_steps hne hfirst hoffset
      (by rw [Nat.add_sub_cancel, List.length_append, List.length_append, List.length_nil, hlen]; exact hend)]
    simp only [leftOver, Except.ok.injEq, NextNal.mk.injEq]
    refine ⟨hlen.symm, by omega, if_neg (by omega)⟩
  | cons p rest =>
    rw [byteStream_cons] at *
    have hoffset := findStartCode_nextUnit c u p.1 (p.2.bytes ++ byteStream rest)
    have hend := trimZeros_nextUnit c u p.1 (p.2.bytes ++ byteStream rest)
    have hlen' := p.1.length_bytes
    rw [hlen] at hoffset hend
    rw [getNext_of_steps hne hfirst hoffset hend]
    simp only [Except.ok.injEq, NextNal.mk.injEq]
    refine ⟨hlen.symm, by omega, ?_⟩
    have hdrop : (c.bytes ++ (u.bytes ++ (p.1.bytes ++ (p.2.bytes ++ byteStream rest)))).drop
        (c.leading.length + 3 + u.bytes.length + p.1.leading.length + 2 - 2) =
        StartCode.short.bytes ++ (p.2.bytes ++ byteStream rest) := by
      rw [p.1.bytes_eq, ← List.append_assoc c.bytes, List.append_assoc p.1.leading, ← List.append_assoc (c.bytes ++ u.bytes)]
      refine List.drop_left' ?_
      simp only [List.length_append]
      omega
    rw [leftOver, hdrop]
    simp only [List.length_append]
    split_ifs <;> first | rfl | omega

end

/-! ### All calls -/

/-- The units that the calls return. -/
def keptUnits : List (StartCode × NalUnit) → List (List UInt8)
  | [] => []
  | p :: rest => p.2.bytes :: if leftOver rest = [] then [] else keptUnits rest

/-- The calls return the units of a byte stream, and then stop; and the unit found for a type is the first one of it. -/
def CompleteSplit (units : List (StartCode × NalUnit)) : Prop :=
  nalUnits (byteStream units) = .ok (units.map (·.2.bytes)) ∧
  ∀ nalType, findNalHevc nalType (byteStream units) =
    .ok ((units.map (·.2.bytes)).find? fun u => u.head?.map nalUnitType = some nalType)

/-- The last of several units has a single byte. -/
def EndsInOneByte (units : List (StartCode × NalUnit)) : Prop :=
  2 ≤ units.length ∧ ∃ p, units.getLast? = some p ∧ p.2.bytes.length = 1

theorem nalUnits_nil : nalUnits [] = .ok [] := by
  rw [nalUnits]
  split
  · rfl
  · next e hne he =>
    cases he
    exact absurd rfl hne
  · next n hn => cases hn

theorem findNalHevc_nil (nalType : Nat) : findNalHevc nalType [] = .ok none := by
  rw [findNalHevc]
  split
  · rfl
  · next e hne he =>
    cases he
    exact absurd rfl hne
  · next n hn => cases hn

theorem nalUnits_of_getNext {data : List UInt8} {n : NextNal} (h : getNextNalUnitHevc data true = .ok n) :
    nalUnits data = (n.bytes data :: ·) <$> nalUnits n.rest := by
  rw [nalUnits]
  split
  · next he => rw [h] at he; cases he
  · next e hne he => rw [h] at he; cases he
  · next n' hn =>
    rw [h] at hn
    obtain rfl := Except.ok.inj hn
    rfl

theorem findNalHevc_of_getNext {data : List UInt8} {n : NextNal} {b : UInt8} (nalType : Nat)
    (h : getNextNalUnitHevc data true = .ok n) (hb : byteAt data n.nalStart = .ok b) :
    findNalHevc nalType data =
      if nalUnitType b = nalType then .ok (some (n.bytes data)) else findNalHevc nalType n.rest := by
  rw [findNalHevc]
  split
  · next he => rw [h] at he; cases he
  · next e hne he => rw [h] at he; cases he
  · next n' hn =>
    rw [h] at hn
    obtain rfl := Except.ok.inj hn
    split
    · next e he => rw [hb] at he; cases he
    · next b' hb' =>
      rw [hb] at hb'
      obtain rfl := Except.ok.inj hb'
      rfl

theorem bytes_unit (c : StartCode) (u : NalUnit) (l rest : List UInt8) :
    NextNal.bytes { nalStart := c.bytes.length, nalSize := u.bytes.length, rest } (c.bytes ++ (u.bytes ++ l)) = u.bytes := by
  rw [NextNal.bytes, List.drop_left, Int.toNat_natCast, List.take_left]

theorem leftOver_cons (p : StartCode × NalUnit) (rest : List (StartCode × NalUnit)) :
    leftOver (p :: rest) = [] ∨ leftOver (p :: rest) = StartCode.short.bytes ++ (p.2.bytes ++ byteStream rest) := by
  rw [leftOver]
  split_ifs
  · exact .inl rfl
  · exact .inr rfl

theorem nalUnits_byteStream (c : StartCode) (u : NalUnit) (rest : List (StartCode × NalUnit)) :
    nalUnits (c.bytes ++ (u.bytes ++ byteStream rest)) = .ok (keptUnits ((c, u) :: rest)) := by
  induction rest generalizing c u with
  | nil =>
    rw [nalUnits_of_getNext (getNext_unit c u []), bytes_unit]
    simp only [leftOver, nalUnits_nil, keptUnits]
    rfl
  | cons p rest ih =>
    rw [nalUnits_of_getNext (getNext_unit c u (p :: rest)), bytes_unit]
    simp only []
    rw [keptUnits]
    rcases leftOver_cons p rest with hnil | hleft
    · rw [if_pos hnil, hnil, nalUnits_nil]
      rfl
    · rw [if_neg (by rw [hleft]; exact List.cons_ne_nil _ _), hleft, ih .short p.2]
      rfl

theorem byteAt_unit (c : StartCode) (u : NalUnit) (l : List UInt8) :
    ∃ b, u.bytes.head? = some b ∧ byteAt (c.bytes ++ (u.bytes ++ l)) c.bytes.length = .ok b := by
  obtain ⟨b, t, hu⟩ := List.exists_cons_of_ne_nil u.nonempty
  refine ⟨b, by rw [hu]; rfl, byteAt_of_getElem? ?_⟩
  rw [List.getElem?_append_right (Nat.le_refl _), Nat.sub_self, hu]
  rfl

theorem findNalHevc_byteStream (nalType : Nat) (c : StartCode) (u : NalUnit) (rest : List (StartCode × NalUnit)) :
    findNalHevc nalType (c.bytes ++ (u.bytes ++ byteStream rest)) =
      .ok ((keptUnits ((c, u) :: rest)).find? fun v => v.head?.map nalUnitType = some nalType) := by
  induction rest generalizing c u with
  | nil =>
    obtain ⟨b, hhead, hb⟩ := byteAt_unit c u (byteStream [])
    rw [findNalHevc_of_getNext nalType (getNext_unit c u []) hb, bytes_unit]
    by_cases htype : nalUnitType b = nalType
    · rw [if_pos htype, keptUnits, List.find?_cons_of_pos (by simp [hhead, htype])]
    · rw [if_neg htype, keptUnits, List.find?_cons_of_neg (by simp [hhead, htype])]
      exact findNalHevc_nil nalType
  | cons p rest ih =>
    obtain ⟨b, hhead, hb⟩ := byteAt_unit c u (byteStream (p :: rest))
    rw [findNalHevc_of_getNext nalType (getNext_unit c u (p :: rest)) hb, bytes_unit]
    by_cases htype : nalUnitType b = nalType
    · rw [if_pos htype, keptUnits, List.find?_cons_of_pos (by simp [hhead, htype])]
    · rw [if_neg htype, keptUnits, List.find?_cons_of_neg (by simp [hhead, htype])]
      simp only []
      rcases leftOver_cons p rest with hnil | hleft
      · rw [if_pos hnil, hnil]
        exact findNalHevc_nil nalType
      · rw [if_neg (by rw [hleft]; exact List.cons_ne_nil _ _), hleft]
        exact ih .short p.2

theorem byteStream_ne_nil {units : List (StartCode × NalUnit)} (h : units ≠ []) : 3 ≤ (byteStream units).length := by
  obtain ⟨p, rest, rfl⟩ := List.exists_cons_of_ne_nil h
  rw [byteStream_cons, List.length_append, p.1.length_bytes]
  omega

theorem leftOver_eq_nil (p : StartCode × NalUnit) (rest : List (StartCode × NalUnit)) :
    leftOver (p :: rest) = [] ↔ p.2.bytes.length = 1 ∧ rest = [] := by
  have hpos := p.2.length_pos
  rw [leftOver, List.length_append]
  constructor
  · intro h
    split_ifs at h with hlt
    · refine ⟨by omega, ?_⟩
      by_contra hne
      have := byteStream_ne_nil hne
      omega
    · cases h
  · rintro ⟨hone, rfl⟩
    rw [if_pos (by rw [hone]; exact Nat.lt_succ_self 1)]

theorem keptUnits_eq_iff (units : List (StartCode × NalUnit)) :
    keptUnits units = units.map (·.2.bytes) ↔ ¬ EndsInOneByte units := by
  induction units with
  | nil => exact ⟨fun _ h => absurd h.1 (by decide), fun _ => rfl⟩
  | cons p rest ih =>
    rw [keptUnits, List.map_cons, List.cons.injEq, and_iff_right rfl]
    cases rest with
    | nil => exact ⟨fun _ h => absurd h.1 (Nat.not_succ_le_self 1), fun _ => if_pos rfl⟩
    | cons q rest =>
      have hends : EndsInOneByte (p :: q :: rest) ↔ leftOver (q :: rest) = [] ∨ EndsInOneByte (q :: rest) := by
        rw [leftOver_eq_nil, EndsInOneByte, EndsInOneByte, List.getLast?_cons_cons]
        cases rest with
        | nil =>
          constructor
          · rintro ⟨-, r, hr, hone⟩
            obtain rfl : q = r := by simpa using hr
            exact .inl ⟨hone, rfl⟩
          · rintro (⟨hone, -⟩ | ⟨hle, -⟩)
            · exact ⟨Nat.le_refl 2, q, rfl, hone⟩
            · exact absurd hle (Nat.not_succ_le_self 1)
        | cons r rest =>
          simp only [List.length_cons, reduceCtorEq, and_false, false_or]
          constructor <;> rintro ⟨-, h⟩ <;> exact ⟨by omega, h⟩
      rw [hends, not_or, ← ih]
      by_cases hnil : leftOver (q :: rest) = []
      · rw [if_pos hnil]
        constructor
        · intro h
          cases h
        · exact fun h => absurd hnil h.1
      · rw [if_neg hnil, and_iff_right hnil]

theorem completeSplit_iff (units : List (StartCode × NalUnit)) : CompleteSplit units ↔ ¬ EndsInOneByte units := by
  rw [← keptUnits_eq_iff, CompleteSplit]
  cases units with
  | nil => exact ⟨fun _ => rfl, fun _ => ⟨nalUnits_nil, findNalHevc_nil⟩⟩
  | cons p rest =>
    rw [byteStream_cons, nalUnits_byteStream, Except.ok.injEq]
    refine ⟨fun h => h.1, fun h => ⟨h, fun nalType => ?_⟩⟩
    rw [findNalHevc_byteStream, h]

/-- A call is safe exactly on data that are empty or start safely; and the calls split a byte stream completely exactly
    where its last unit, of several, has more than one byte. -/
theorem nalSplitting_iff (data : List UInt8) (units : List (StartCode × NalUnit)) :
    (SafeCall data ↔ data = [] ∨ StartsSafely data) ∧ (CompleteSplit units ↔ ¬ EndsInOneByte units) :=
  ⟨safeCall_iff data, completeSplit_iff units⟩

/-- Data that begin with 01, and data without a start code, are read outside; and the second of two units is lost. -/
theorem getNextNalUnitHevc_lookback : ¬ SafeCall [1] ∧ ¬ SafeCall [5, 6, 7] ∧
    ∃ units : List (StartCode × NalUnit), ¬ CompleteSplit units := by
  have hone : ¬ (([1] : List UInt8) = [] ∨ StartsSafely [1]) := by
    rintro (h | ⟨-, h, -⟩)
    · cases h
    · exact h rfl
  have hnone : ¬ (([5, 6, 7] : List UInt8) = [] ∨ StartsSafely [5, 6, 7]) := by
    rintro (h | ⟨⟨k, hk⟩, -⟩)
    · cases h
    · obtain rfl : k = 2 := by have := hk.lt; have := hk.1; simp only [List.length_cons, List.length_nil] at *; omega
      exact absurd hk (by decide)
  let unit : NalUnit := ⟨[7], by decide, by decide, by decide, by decide⟩
  refine ⟨mt (safeCall_iff _).mp hone, mt (safeCall_iff _).mp hnone, [(.short, unit), (.short, unit)], ?_⟩
  exact fun h => (completeSplit_iff _).mp h ⟨Nat.le_refl 2, (.short, unit), rfl, rfl⟩

end BcmPlatform.Hevc
