import BcmPlatform.Lib.StartCodes

/-! The search for NAL units in an access unit: `getNextNALUnitHEVC` and `FindNALHEVC`. A read outside of the data is
    undefined, and nothing is said about what comes after it. -/

namespace BcmPlatform.Hevc
open Lib

/-- How a call ends that does not return `OK`: in a read outside of the data, or with `-EAGAIN`. -/
inductive NalStop where
  | outside (index : Int)
  | eagain
  deriving DecidableEq, Repr

/-- `data[index]` -/
def byteAt (data : List UInt8) (index : Int) : Except NalStop UInt8 :=
  if index < 0 then .error (.outside index)
  else match data[index.toNat]? with
    | some b => .ok b
    | none => .error (.outside index)

theorem byteAt_ok {data : List UInt8} {index : Int} {b : UInt8} (h : byteAt data index = .ok b) :
    index < data.length ∧ data[index.toNat]? = some b := by
  unfold byteAt at h
  split_ifs at h with hneg
  cases hget : data[index.toNat]? with
  | none => rw [hget] at h; cases h
  | some b' =>
    rw [hget] at h
    have hlt := (List.getElem?_eq_some_iff.mp hget).1
    exact ⟨by omega, by cases h; rfl⟩

/-- One of the two loops over the start codes, from an offset on: the offset of the 01 of the first start code, or the mark
    `size + 2` for the end of the data. -/
def findStartCode (data : List UInt8) (startCodeFollows : Bool) (offset : Nat) : Except NalStop Nat :=
  if offset < data.length ∧ data[offset]? ≠ some 1 then findStartCode data startCodeFollows (offset + 1)
  else if offset = data.length then
    if startCodeFollows then .ok (data.length + 2) else .error .eagain
  else match h : byteAt data (offset - 1) with
    | .error e => .error e
    | .ok b =>
      have := byteAt_ok h
      if b ≠ 0 then findStartCode data startCodeFollows (offset + 1)
      else match byteAt data (offset - 2) with
        | .error e => .error e
        | .ok b => if b ≠ 0 then findStartCode data startCodeFollows (offset + 1) else .ok offset
termination_by data.length - offset
decreasing_by all_goals omega

theorem findStartCode_ok {data : List UInt8} {startCodeFollows : Bool} {offset o : Nat}
    (h : findStartCode data startCodeFollows offset = .ok o) : offset ≤ o ∧ CodeEnds data o ∨ o = data.length + 2 := by
  fun_induction findStartCode data startCodeFollows offset with
  | case1 offset hskip ih => exact (ih h).imp_left fun ⟨hle, hends⟩ => ⟨by omega, hends⟩
  | case2 => exact .inr (Except.ok.inj h).symm
  | case3 => cases h
  | case4 => cases h
  | case5 offset hskip hend b hprev _ hb ih => exact (ih h).imp_left fun ⟨hle, hends⟩ => ⟨by omega, hends⟩
  | case6 => cases h
  | case7 offset hskip hend b hprev _ hb b' hprev' hb' ih =>
    exact (ih h).imp_left fun ⟨hle, hends⟩ => ⟨by omega, hends⟩
  | case8 offset hskip hend b hprev _ hb b' hprev' hb' =>
    obtain rfl := Except.ok.inj h
    have hlt := (byteAt_ok hprev).1
    have hpos : ¬ ((offset : Int) - 2 < 0) := by
      intro hneg
      rw [byteAt, if_pos hneg] at hprev'
      cases hprev'
    refine .inl ⟨Nat.le_refl _, by omega, ?_, ?_, ?_⟩
    · rw [show offset - 2 = ((offset : Int) - 2).toNat by omega, (byteAt_ok hprev').2, not_not.mp hb']
    · rw [show offset - 1 = ((offset : Int) - 1).toNat by omega, (byteAt_ok hprev).2, not_not.mp hb]
    · by_contra hne
      exact hskip ⟨by omega, hne⟩

/-- The loop over the zeros at the end of a unit. -/
def trimZeros (data : List UInt8) (startOffset : Nat) : Nat → Except NalStop Nat
  | 0 => .ok 0
  | endOffset + 1 =>
    if startOffset < endOffset then
      match byteAt data endOffset with
      | .error e => .error e
      | .ok b => if b = 0 then trimZeros data startOffset endOffset else .ok (endOffset + 1)
    else .ok (endOffset + 1)

/-- What a call returns: the unit by its place in the data, and the data that are left. -/
structure NextNal where
  nalStart : Nat
  nalSize : Int
  rest : List UInt8
  deriving DecidableEq, Repr

def getNextNalUnitHevc (data : List UInt8) (startCodeFollows : Bool) : Except NalStop NextNal := do
  if data.length = 0 then throw .eagain
  let offset ← findStartCode data startCodeFollows 0
  let startOffset := offset + 1
  let offset ← findStartCode data startCodeFollows startOffset
  let endOffset ← trimZeros data startOffset (offset - 2)
  return {
    nalStart := startOffset
    nalSize := (endOffset : Int) - startOffset
    rest := if offset + 2 < data.length then data.drop (offset - 2) else [] }

theorem getNextNalUnitHevc_ok {data : List UInt8} {startCodeFollows : Bool} {n : NextNal}
    (h : getNextNalUnitHevc data startCodeFollows = .ok n) : data ≠ [] ∧ ∃ first offset endOffset,
      findStartCode data startCodeFollows 0 = .ok first ∧ findStartCode data startCodeFollows (first + 1) = .ok offset ∧
      trimZeros data (first + 1) (offset - 2) = .ok endOffset ∧
      n = { nalStart := first + 1, nalSize := (endOffset : Int) - (first + 1 : Nat),
            rest := if offset + 2 < data.length then data.drop (offset - 2) else [] } := by
  unfold getNextNalUnitHevc at h
  split_ifs at h with hempty
  · cases h
  · cases hfirst : findStartCode data startCodeFollows 0 with
    | error e => simp [hfirst, bind, Except.bind] at h
    | ok first =>
      cases hoffset : findStartCode data startCodeFollows (first + 1) with
      | error e => simp [hfirst, hoffset, bind, Except.bind] at h
      | ok offset =>
        cases hend : trimZeros data (first + 1) (offset - 2) with
        | error e => simp [hfirst, hoffset, hend, bind, Except.bind] at h
        | ok endOffset =>
          simp only [hfirst, hoffset, hend, bind, Except.bind, pure, Except.pure, Except.ok.injEq] at h
          exact ⟨fun hnil => hempty (by rw [hnil]; rfl), first, offset, endOffset, rfl, hoffset, hend, h.symm⟩

theorem length_rest_lt {data : List UInt8} {startCodeFollows : Bool} {n : NextNal}
    (h : getNextNalUnitHevc data startCodeFollows = .ok n) : n.rest.length < data.length := by
  obtain ⟨hne, first, offset, endOffset, hfirst, hoffset, -, rfl⟩ := getNextNalUnitHevc_ok h
  have hpos := List.length_pos_iff.mpr hne
  simp only []
  split_ifs with hlt
  · rw [List.length_drop]
    have hfirst₂ : 2 ≤ first := by
      rcases findStartCode_ok hfirst with ⟨-, hends⟩ | rfl
      · exact hends.1
      · omega
    have hle : first + 1 ≤ offset := by
      rcases findStartCode_ok hoffset with ⟨hle, -⟩ | rfl
      · exact hle
      · omega
    omega
  · exact hpos

/-- The bytes of the unit. -/
def NextNal.bytes (n : NextNal) (data : List UInt8) : List UInt8 := (data.drop n.nalStart).take n.nalSize.toNat

/-- The units of repeated calls, up to the first one that does not return `OK`. -/
def nalUnits (data : List UInt8) : Except NalStop (List (List UInt8)) :=
  match h : getNextNalUnitHevc data true with
  | .error .eagain => .ok []
  | .error e => .error e
  | .ok n =>
    have := length_rest_lt h
    (n.bytes data :: ·) <$> nalUnits n.rest
termination_by data.length

/-- The type of a unit, in the first byte of its header. -/
def nalUnitType (b : UInt8) : Nat := ((b >>> 1) &&& 0x3f).toNat

def findNalHevc (nalType : Nat) (data : List UInt8) : Except NalStop (Option (List UInt8)) :=
  match h : getNextNalUnitHevc data true with
  | .error .eagain => .ok none
  | .error e => .error e
  | .ok n =>
    have := length_rest_lt h
    match byteAt data n.nalStart with
    | .error e => .error e
    | .ok b => if nalUnitType b = nalType then .ok (some (n.bytes data)) else findNalHevc nalType n.rest
termination_by data.length

end BcmPlatform.Hevc
