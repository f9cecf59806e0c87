import BcmPlatform.Lib.Runs
import BcmPlatform.Theorems.CodecSpecificData
import BcmPlatform.Ts.Queues

/-! `ElementaryStreamQueue` as a queue of bytes that each have the time of their packet: in every mode the access units are cut
    from the front of it, in order, each with the time of its first byte. -/

namespace BcmPlatform.Ts
open Lib Hevc

variable {σ φ : Type} {fw : Framework σ φ} {q q' : ElementaryStreamQueue φ}

/-! ### Bytes and times -/

/-- The times of the bytes in the buffer. -/
def ElementaryStreamQueue.stamps (q : ElementaryStreamQueue φ) : List Int := spread q.mRangeInfos

/-- The ranges are those of the buffer, with times that are not negative. -/
structure Accounts (q : ElementaryStreamQueue φ) : Prop where
  length : q.stamps.length = q.mBuffer.size
  timed : ∀ info ∈ q.mRangeInfos, 0 ≤ info.value
  nonempty : ∀ info ∈ q.mRangeInfos, 0 < info.length

/-- The first `n` bytes were taken from the front, with their times. -/
structure CutTo (q q' : ElementaryStreamQueue φ) (n : Nat) : Prop where
  le : n ≤ q.mBuffer.size
  bytes : q'.mBuffer.data = q.mBuffer.data.drop n
  ranges : q'.mRangeInfos = dropRuns n q.mRangeInfos
  kept : (q'.mMode, q'.alignedData, q'.mEOSReached) = (q.mMode, q.alignedData, q.mEOSReached)

namespace CutTo
variable {n : Nat}

theorem stamps (h : CutTo q q' n) : q'.stamps = q.stamps.drop n := by
  rw [ElementaryStreamQueue.stamps, h.ranges, spread_dropRuns]
  rfl

theorem accounts (h : CutTo q q' n) (hq : Accounts q) : Accounts q' where
  length := by
    have hsize : q'.mBuffer.size = q.mBuffer.size - n := by rw [ABuffer.size, h.bytes, List.length_drop, ABuffer.size]
    rw [h.stamps, List.length_drop, hq.length, hsize]
  timed info hinfo := by
    rw [h.ranges] at hinfo
    obtain ⟨info', hmem, heq⟩ := value_mem_of_mem_dropRuns hinfo
    rw [← heq]
    exact hq.timed info' hmem
  nonempty := by
    rw [h.ranges]
    exact pos_of_mem_dropRuns hq.nonempty

theorem of_eq (hbuffer : q'.mBuffer = q.mBuffer) (hranges : q'.mRangeInfos = q.mRangeInfos)
    (hkept : (q'.mMode, q'.alignedData, q'.mEOSReached) = (q.mMode, q.alignedData, q.mEOSReached)) : CutTo q q' 0 where
  le := Nat.zero_le _
  bytes := by rw [hbuffer, List.drop_zero]
  ranges := by rw [hranges, dropRuns_zero]
  kept := hkept

theorem refl (q : ElementaryStreamQueue φ) : CutTo q q 0 := of_eq rfl rfl rfl

theorem trans {q₁ q₂ q₃ : ElementaryStreamQueue φ} {m n : Nat} (h : CutTo q₁ q₂ m) (h' : CutTo q₂ q₃ n) :
    CutTo q₁ q₃ (m + n) where
  le := by
    have hle := h'.le
    rw [ABuffer.size, h.bytes, List.length_drop] at hle
    have hfirst := h.le
    rw [ABuffer.size] at hfirst ⊢
    omega
  bytes := by rw [h'.bytes, h.bytes, List.drop_drop]
  ranges := by rw [h'.ranges, h.ranges, dropRuns_dropRuns]
  kept := h'.kept.trans h.kept

theorem mode_eq (h : CutTo q q' n) : q'.mMode = q.mMode := (Prod.mk.inj h.kept).1

theorem alignedData_eq (h : CutTo q q' n) : q'.alignedData = q.alignedData :=
  (Prod.mk.inj (Prod.mk.inj h.kept).2).1

theorem fetch (h : n ≤ q.mBuffer.size) (hbuffer : q'.mBuffer = q.mBuffer.drop n)
    (hranges : q'.mRangeInfos = dropRuns n q.mRangeInfos)
    (hkept : (q'.mMode, q'.alignedData, q'.mEOSReached) = (q.mMode, q.alignedData, q.mEOSReached)) : CutTo q q' n where
  le := h
  bytes := by rw [hbuffer]; rfl
  ranges := hranges
  kept := hkept

theorem discard (h : n ≤ q.mBuffer.size) : CutTo q (q.discard n) n := .fetch h rfl rfl rfl

end CutTo

theorem Accounts.fetchTimestamp (h : Accounts q) {n : Nat} (hpos : 0 < n) (hle : n ≤ q.mBuffer.size) :
    q.stamps[0]? = some (q.fetchTimestamp n).1 ∧ 0 ≤ (q.fetchTimestamp n).1 := by
  have hlength : 0 < q.stamps.length := by rw [h.length]; omega
  have hhead := head?_spread h.nonempty
  obtain ⟨info, infos, hinfos⟩ : ∃ info infos, q.mRangeInfos = info :: infos := by
    cases hranges : q.mRangeInfos with
    | nil =>
      rw [ElementaryStreamQueue.stamps, hranges] at hlength
      exact absurd hlength (Nat.lt_irrefl 0)
    | cons info infos => exact ⟨info, infos, rfl⟩
  have htime : (q.fetchTimestamp n).1 = info.value := by
    rw [ElementaryStreamQueue.fetchTimestamp, if_neg (Nat.ne_of_gt hpos), hinfos]
    rfl
  refine ⟨?_, ?_⟩
  · rw [← List.head?_eq_getElem?, ElementaryStreamQueue.stamps, hhead, hinfos, htime]
    rfl
  · rw [htime]
    exact h.timed info (by rw [hinfos]; exact List.mem_cons_self)

/-! ### What a call delivers -/

/-- Units in front of each other, with gaps before them. -/
inductive Pieces : List UInt8 → List (List UInt8) → Prop where
  | nil : Pieces [] []
  | cons (gap : List UInt8) (u : List UInt8) {bytes : List UInt8} {units : List (List UInt8)} :
      Pieces bytes units → Pieces (gap ++ (u ++ bytes)) (u :: units)

/-- The type of an AVC unit. -/
def avcType (u : List UInt8) : Nat := byte u 0 &&& 0x1f

/-- What an access unit has of the bytes that it was cut from. -/
def UnitOf (mode : Mode) (alignedData : Bool) (bytes : List UInt8) (a : AccessUnit) : Prop :=
  match mode with
  | .h264 =>
    if alignedData then a.data = bytes
    else ∃ units, Pieces bytes units ∧ a.data = units.flatMap (startCode ++ ·) ∧
      a.sei.map (fun pos => (a.data.drop pos.nalOffset).take pos.nalSize) = units.filter fun u => avcType u = 6
  | .h265 => ∃ units, Pieces bytes units ∧ a.data = units.flatMap (startCode ++ ·)
  | .pcmAudio => a.data = swapSamples (bytes.drop 4)
  | _ => a.data = bytes

/-- A call takes bytes from the front, and of the last ones of them it makes the access unit that it returns. -/
inductive Delivers (q : ElementaryStreamQueue φ) : Option AccessUnit → ElementaryStreamQueue φ → Prop where
  | nothing {q' : ElementaryStreamQueue φ} {n : Nat} : CutTo q q' n → Delivers q none q'
  | unit {q' : ElementaryStreamQueue φ} {m n : Nat} {a : AccessUnit} : CutTo q q' n → m < n → q.stamps[m]? = some a.timeUs →
      UnitOf q.mMode q.alignedData ((q.mBuffer.data.drop m).take (n - m)) a → Delivers q (some a) q'

namespace Delivers
variable {au : Option AccessUnit}

theorem of_cut {q₁ : ElementaryStreamQueue φ} {k : Nat} (h : Delivers q₁ au q') (hcut : CutTo q q₁ k) :
    Delivers q au q' := by
  cases h with
  | nothing h => exact .nothing (hcut.trans h)
  | @unit q' m n a h hlt htime hunit =>
    refine .unit (m := k + m) (n := k + n) (hcut.trans h) (Nat.add_lt_add_left hlt k) ?_ ?_
    · rw [← htime, hcut.stamps, List.getElem?_drop]
    · rw [hcut.mode_eq, hcut.alignedData_eq, hcut.bytes, List.drop_drop] at hunit
      rwa [Nat.add_sub_add_left]

theorem front (hq : Accounts q) {n : Nat} {a : AccessUnit} (hcut : CutTo q q' n) (hpos : 0 < n)
    (htime : a.timeUs = (q.fetchTimestamp n).1) (hunit : UnitOf q.mMode q.alignedData (q.mBuffer.data.take n) a) :
    Delivers q (some a) q' := by
  refine .unit (m := 0) hcut hpos ?_ ?_
  · rw [htime]
    exact (hq.fetchTimestamp hpos hcut.le).1
  · rwa [List.drop_zero, Nat.sub_zero]

end Delivers

/-! ### Audio -/

section Audio
variable {au : Option AccessUnit}
open ElementaryStreamQueue

theorem takeUnit_delivers (hq : Accounts q) {n : Nat} {data : List UInt8} (hpos : 0 < n) (hle : n ≤ q.mBuffer.size)
    (hunit : UnitOf q.mMode q.alignedData (q.mBuffer.data.take n) { data, timeUs := (q.fetchTimestamp n).1, isSync := true })
    (h : q.takeUnit n data = some (au, q')) : Delivers q au q' := by
  have htime := (hq.fetchTimestamp hpos hle).2
  unfold takeUnit at h
  rw [if_neg (Int.not_lt.mpr htime)] at h
  cases h
  exact .front hq (.fetch hle rfl rfl rfl) hpos rfl hunit

theorem Accounts.withFormat (hq : Accounts q) (format : Option (Format φ)) : Accounts (q.withFormat format) :=
  ⟨hq.length, hq.timed, hq.nonempty⟩

theorem ac3SyncStart_pos {r : BitReader σ} {bytes : List UInt8} {syncStartPos start : Nat} {frame : Ac3SyncFrame}
    (h : ac3SyncStart r bytes syncStartPos = some (some (start, frame))) : 0 < frame.payloadSize := by
  fun_induction ac3SyncStart r bytes syncStartPos with
  | case1 => cases h
  | case2 => cases h
  | case3 _ _ _ ih => exact ih h
  | case4 _ _ _ _ hpos => cases h; exact hpos
  | case5 _ _ _ _ _ ih => exact ih h

theorem ac3_delivers (hq : Accounts q) (hmode : q.mMode = .ac3) (h : q.dequeueAccessUnitAc3 fw = some (au, q')) :
    Delivers q au q' := by
  unfold dequeueAccessUnitAc3 at h
  split at h
  · cases h
  · cases h
    exact .nothing (.refl q)
  · next start frame hstart =>
    split_ifs at h with hsize
    · cases h
      exact .nothing (.refl q)
    · have hpos := ac3SyncStart_pos hstart
      have hunit : Delivers (q.withFormat (some (.ac3 frame.channelCount frame.samplingRate))) au q' := by
        refine takeUnit_delivers (hq.withFormat _) (by omega) (Nat.le_of_not_lt hsize) ?_ h
        change UnitOf q.mMode _ _ _
        rw [hmode]
        rfl
      exact hunit.of_cut (.of_eq rfl rfl rfl)

theorem pcmAudio_delivers (hq : Accounts q) (hmode : q.mMode = .pcmAudio)
    (h : q.dequeueAccessUnitPcmAudio fw = some (au, q')) : Delivers q au q' := by
  unfold dequeueAccessUnitPcmAudio at h
  split_ifs at h with hfour
  · cases h
    exact .nothing (.refl q)
  · split at h
    · cases h
    · cases h
      exact .nothing (.refl q)
    · next numAUs hheader =>
      dsimp only at h
      split_ifs at h with hsize
      · cases h
        exact .nothing (.of_eq rfl rfl rfl)
      · have hle := Nat.le_of_not_lt hsize
        rw [Nat.add_comm] at hle
        have hunit : Delivers (q.withFormat (some (.raw 2 48000))) au q' := by
          refine takeUnit_delivers (hq.withFormat _) (Nat.add_pos_right _ (by decide)) hle ?_ h
          change UnitOf q.mMode _ _ _
          rw [hmode]
          change swapSamples _ = swapSamples _
          rw [List.drop_take, Nat.add_sub_cancel]
        exact hunit.of_cut (.of_eq rfl rfl rfl)

theorem aacFrames_le {data : List UInt8} {length offset offset' : Nat} {format format' : Option (Format φ)}
    (h : aacFrames fw data length format offset = some (some offset', format')) (hle : offset ≤ data.length) :
    length ≤ offset' ∧ offset' ≤ data.length := by
  fun_induction aacFrames fw data length format offset with
  | case1 => cases h
  | case2 => cases h
  | case3 => cases h
  | case4 => cases h
  | case5 => cases h
  | case6 => cases h
  | case7 => cases h
  | case8 => cases h
  | case9 format offset _ _ _ _ _ _ _ _ _ _ hframe _ ih => exact ih h (Nat.le_of_not_lt hframe)
  | case10 format offset hlt => cases h; exact ⟨Nat.le_of_not_lt hlt, hle⟩

theorem aac_delivers (hq : Accounts q) (hmode : q.mMode = .aac) (h : q.dequeueAccessUnitAac fw = some (au, q')) :
    Delivers q au q' := by
  unfold dequeueAccessUnitAac at h
  split_ifs at h with hempty
  · cases h
    exact .nothing (.refl q)
  · split at h
    · cases h
      exact .nothing (.refl q)
    · next info infos hinfos =>
      split_ifs at h with hshort hnegative
      · cases h
        exact .nothing (.refl q)
      · cases h
        exact .nothing (.refl q)
      · split at h
        · cases h
        · cases h
          exact .nothing (.of_eq rfl rfl rfl)
        · next offset format hframes =>
          cases h
          obtain ⟨hlength, hle⟩ := aacFrames_le hframes (Nat.zero_le _)
          have hpos := hq.nonempty info (by rw [hinfos]; exact List.mem_cons_self)
          refine .front hq (.fetch hle rfl rfl rfl) (by omega) rfl ?_
          rw [hmode]
          rfl

theorem mpegAudio_delivers (hq : Accounts q) (hmode : q.mMode = .mpegAudio)
    (h : q.dequeueAccessUnitMpegAudio fw = some (au, q')) : Delivers q au q' := by
  unfold dequeueAccessUnitMpegAudio at h
  split_ifs at h with hfour
  · cases h
    exact .nothing (.refl q)
  · dsimp only at h
    split at h
    · cases h
      exact .nothing (.refl q)
    · next frame hframe =>
      split_ifs at h with hsize htime hlayer
      · cases h
        exact .nothing (.refl q)
      · cases h
        exact .nothing (.fetch (Nat.le_of_not_lt hsize) rfl rfl rfl)
      · cases h
        exact .nothing (.fetch (Nat.le_of_not_lt hsize) rfl rfl rfl)
      · cases h
        have hpos : 0 < frame.frameSize := by
          refine Nat.pos_of_ne_zero fun hzero => htime ?_
          rw [fetchTimestamp, if_pos hzero]
          exact Int.negSucc_lt_zero 0
        refine .front hq (.fetch (Nat.le_of_not_lt hsize) rfl rfl rfl) hpos rfl ?_
        rw [hmode]
        rfl

theorem metadata_delivers (hq : Accounts q) (hmode : q.mMode = .metadata)
    (h : q.dequeueAccessUnitMetadata = some (au, q')) : Delivers q au q' := by
  unfold dequeueAccessUnitMetadata at h
  split_ifs at h with hempty
  · cases h
    exact .nothing (.refl q)
  · cases h
    have hcut : CutTo q (({ (q.fetchTimestamp q.mBuffer.size).2 with mBuffer := q.mBuffer.clear }).withFormat
        (some .timedId3)) q.mBuffer.size :=
      { le := Nat.le_refl _, bytes := List.drop_length.symm, ranges := rfl, kept := rfl }
    refine .front hq hcut (Nat.pos_of_ne_zero hempty) rfl ?_
    rw [hmode]
    exact List.take_length.symm

end Audio

/-! ### NAL units -/

/-- The bytes of a unit. -/
def NalPosition.bytes (pos : NalPosition) (data : List UInt8) : List UInt8 := (data.drop pos.nalOffset).take pos.nalSize

/-- Units behind each other, from one offset to the end of the last one. -/
inductive Placed : Nat → List NalPosition → Nat → Prop where
  | nil (i : Nat) : Placed i [] i
  | cons {i j : Nat} {pos : NalPosition} {nals : List NalPosition} : i ≤ pos.nalOffset → 0 < pos.nalSize →
      Placed (pos.nalOffset + pos.nalSize) nals j → Placed i (pos :: nals) j

namespace Placed
variable {i j : Nat} {pos : NalPosition} {nals : List NalPosition} {data : List UInt8}

theorem le (h : Placed i nals j) : i ≤ j := by
  induction h with
  | nil => exact Nat.le_refl _
  | cons hle _ _ ih => exact Nat.le_trans hle (Nat.le_trans (Nat.le_add_right _ _) ih)

theorem concat (h : Placed i nals j) (hle : j ≤ pos.nalOffset) (hpos : 0 < pos.nalSize) :
    Placed i (nals ++ [pos]) (pos.nalOffset + pos.nalSize) := by
  induction h with
  | nil => exact .cons hle hpos (.nil _)
  | cons hfirst hfirstPos _ ih => exact .cons hfirst hfirstPos (ih hle)

theorem getLast (h : Placed i nals j) (hlast : nals.getLast? = some pos) : j = pos.nalOffset + pos.nalSize := by
  induction h with
  | nil => cases hlast
  | cons _ _ hrest ih =>
    cases hrest with
    | nil => cases hlast; rfl
    | cons hle hpos hrest => exact ih hlast

theorem mem (h : Placed i nals j) (hpos : pos ∈ nals) : 0 < pos.nalSize ∧ pos.nalOffset + pos.nalSize ≤ j := by
  induction h with
  | nil => cases hpos
  | cons _ hsize hrest ih =>
    rcases List.mem_cons.mp hpos with rfl | hpos
    · exact ⟨hsize, hrest.le⟩
    · exact ih hpos

theorem pieces (h : Placed i nals j) (hle : j ≤ data.length) :
    Pieces ((data.drop i).take (j - i)) (nals.map fun pos => pos.bytes data) := by
  induction h with
  | nil => rw [Nat.sub_self, List.take_zero]; exact .nil
  | @cons i j pos nals hfirst _ hrest ih =>
    have hend := hrest.le
    have hsplit : (data.drop i).take (j - i) = (data.drop i).take (pos.nalOffset - i) ++
        (pos.bytes data ++ (data.drop (pos.nalOffset + pos.nalSize)).take (j - (pos.nalOffset + pos.nalSize))) := by
      rw [show j - i = pos.nalOffset - i + (pos.nalSize + (j - (pos.nalOffset + pos.nalSize))) by omega, List.take_add,
        List.drop_drop, show i + (pos.nalOffset - i) = pos.nalOffset by omega, List.take_add, List.drop_drop]
      rfl
    rw [hsplit]
    exact .cons _ _ (ih hle)

end Placed

theorem byte_bytes {pos : NalPosition} (hpos : 0 < pos.nalSize) (data : List UInt8) :
    byte (pos.bytes data) 0 = byte data pos.nalOffset := by
  rw [byte, byte, NalPosition.bytes, List.getD_eq_getElem?_getD, List.getD_eq_getElem?_getD, List.getElem?_take_of_lt hpos,
    List.getElem?_drop, Nat.add_zero]

section Nals
variable {splitter : NalSplitter} {role : NalPosition → Bool → Option NalRole} {isSei : NalPosition → Bool}
  {whole data : List UInt8} {scan scan' : NalScan} {e : Nat}

/-- What was found before the unit that flushes is in front of it, and the SEI units of it were counted. -/

theorem scanNals_found
    (hrole : ∀ pos foundSlice r, 0 < pos.nalSize → role pos foundSlice = some r → r.sei = (!r.flush && isSei pos))
    (h : scanNals splitter role whole data scan = some (some scan')) (hdata : data <:+ whole)
    (hplaced : Placed 0 scan.nals e) (he : e ≤ whole.length - data.length)
    (hcount : scan.seiCount = (scan.nals.filter isSei).length) :
    (∃ e', Placed 0 scan'.nals e' ∧ e' ≤ whole.length) ∧ scan'.seiCount = (scan'.nals.filter isSei).length := by
  fun_induction scanNals splitter role whole data scan generalizing e with
  | case1 => cases h
  | case2 => cases h
  | case3 data scan n hn hlt hzero ih =>
    have hsuffix := (splitter.suffix hn).trans hdata
    exact ih h hsuffix hplaced (by omega) hcount
  | case4 => cases h
  | case5 => cases h
  | case6 data scan n hn hlt hzero hsign pos r hr =>
    rename_i hflush
    cases h
    refine ⟨⟨e, hplaced, by omega⟩, ?_⟩
    have hsei := hrole _ _ _ (by simp only [pos]; omega) hr
    rw [hflush] at hsei
    simp only [NalScan.note, hsei, hcount]
    rfl
  | case7 data scan n hn hlt hzero hsign pos r hr hflush =>
    rename_i ih
    have hsuffix := (splitter.suffix hn).trans hdata
    have hdataLe := hdata.length_le
    have hplace := splitter.le_length hn
    have hsize : 0 < pos.nalSize := by simp only [pos]; omega
    have hsei := hrole _ _ _ hsize hr
    refine ih h hsuffix (hplaced.concat (by simp only [pos]; omega) hsize) (by simp only [pos]; omega) ?_
    rw [Bool.not_eq_true _ |>.mp hflush, Bool.not_false, Bool.true_and] at hsei
    simp only [NalScan.note, hsei, hcount, List.filter_append, List.length_append, List.filter_singleton]
    cases isSei pos <;> rfl

theorem copyNals_eq (isSei : NalPosition → Bool) (seiCount : Nat) {nals : List NalPosition}
    (hnals : ∀ pos ∈ nals, pos.nalOffset + pos.nalSize ≤ data.length)
    (pre : List UInt8) (seiIndex : Nat) (hcount : seiIndex + (nals.filter isSei).length ≤ seiCount) :
    ∃ sei, copyNals isSei data seiCount nals pre.length seiIndex =
        some (nals.flatMap fun pos => startCode ++ pos.bytes data, sei) ∧
      sei.map (fun pos => ((pre ++ nals.flatMap fun pos => startCode ++ pos.bytes data).drop pos.nalOffset).take pos.nalSize) =
        (nals.filter isSei).map fun pos => pos.bytes data := by
  induction nals generalizing pre seiIndex with
  | nil => exact ⟨[], rfl, rfl⟩
  | cons pos nals ih =>
    have hlength : (pos.bytes data).length = pos.nalSize := by
      have hle := hnals pos List.mem_cons_self
      rw [NalPosition.bytes, List.length_take, List.length_drop]
      omega
    have hpre : (pre ++ (startCode ++ pos.bytes data)).length = pre.length + pos.nalSize + 4 := by
      rw [List.length_append, List.length_append, hlength]
      change pre.length + (4 + pos.nalSize) = _
      omega
    have hroom : ¬ (isSei pos = true ∧ seiIndex ≥ seiCount) := by
      rintro ⟨hsei, hge⟩
      rw [List.filter_cons_of_pos hsei, List.length_cons] at hcount
      omega
    have hnext : seiIndex + (isSei pos).toNat + (nals.filter isSei).length ≤ seiCount := by
      cases hsei : isSei pos
      · rw [List.filter_cons_of_neg (by rw [hsei]; exact Bool.false_ne_true)] at hcount
        exact hcount
      · rw [List.filter_cons_of_pos hsei, List.length_cons] at hcount
        simp only [Bool.toNat_true]
        omega
    obtain ⟨sei, hcopy, hsei⟩ := ih (fun pos hpos => hnals pos (List.mem_cons_of_mem _ hpos))
      (pre ++ (startCode ++ pos.bytes data)) (seiIndex + (isSei pos).toNat) hnext
    rw [hpre] at hcopy
    refine ⟨if isSei pos then { nalOffset := pre.length + 4, nalSize := pos.nalSize } :: sei else sei, ?_, ?_⟩
    · rw [copyNals, if_neg hroom, hcopy]
      rfl
    · rw [List.flatMap_cons, ← List.append_assoc pre]
      cases hpos : isSei pos
      · rw [List.filter_cons_of_neg (by rw [hpos]; exact Bool.false_ne_true), ← hsei]
        rfl
      · have hfirst : (((pre ++ (startCode ++ pos.bytes data)) ++ nals.flatMap fun pos => startCode ++ pos.bytes data).drop
            (pre.length + 4)).take pos.nalSize = pos.bytes data := by
          rw [List.append_assoc, List.append_assoc, ← List.append_assoc pre startCode,
            List.drop_left' (by rw [List.length_append]; rfl), List.take_left' hlength]
        rw [List.filter_cons_of_pos hpos, List.map_cons, ← hsei, if_pos rfl, List.map_cons, hfirst]

theorem flatMap_bytes (nals : List NalPosition) (data : List UInt8) :
    (nals.flatMap fun pos => startCode ++ pos.bytes data) = (nals.map fun pos => pos.bytes data).flatMap (startCode ++ ·) := by
  rw [List.flatMap_map]

/-- A SEI unit before the unit that flushes. -/
def isAvcSei (data : List UInt8) (pos : NalPosition) : Bool := avcNalType data pos = 6 ∧ 0 < pos.nalSize

theorem avcRole_sei {r : BitReader σ} (pos : NalPosition) (foundSlice : Bool) (role : NalRole) (hpos : 0 < pos.nalSize)
    (h : avcRole r data pos foundSlice = some role) : role.sei = (!role.flush && isAvcSei data pos) := by
  unfold avcRole at h
  rw [isAvcSei]
  dsimp only at h
  split_ifs at h with hslice hfound hdelimiter hsei
  · obtain ⟨first, -, rfl⟩ := Option.map_eq_some_iff.mp h
    rcases hslice with htype | htype <;> simp [htype]
  · cases h
    rcases hslice with htype | htype <;> simp [htype]
  · cases h
    rfl
  · cases h
    simp [hsei]
  · cases h
    simp [hpos] at hsei ⊢
    exact hsei

theorem hevcRole_sei (pos : NalPosition) (foundSlice : Bool) (role : NalRole) (h : hevcRole data pos foundSlice = some role) :
    role.sei = (!role.flush && false) := by
  unfold hevcRole at h
  dsimp only at h
  rw [Bool.and_false]
  split_ifs at h <;> cases h <;> rfl

theorem scanNals_unit {sei : List NalPosition} {pos : NalPosition} {accessUnit : List UInt8}
    (hrole : ∀ pos foundSlice r, 0 < pos.nalSize → role pos foundSlice = some r → r.sei = (!r.flush && isSei pos))
    (hscan : scanNals splitter role data data {} = some (some scan))
    (hcopy : copyNals isSei data scan.seiCount scan.nals 0 0 = some (accessUnit, sei)) (hlast : scan.nals.getLast? = some pos) :
    0 < pos.nalOffset + pos.nalSize ∧ pos.nalOffset + pos.nalSize ≤ data.length ∧
      Pieces (data.take (pos.nalOffset + pos.nalSize)) (scan.nals.map fun pos => pos.bytes data) ∧
      accessUnit = (scan.nals.map fun pos => pos.bytes data).flatMap (startCode ++ ·) ∧
      sei.map (fun pos => (accessUnit.drop pos.nalOffset).take pos.nalSize) =
        (scan.nals.filter isSei).map fun pos => pos.bytes data := by
  obtain ⟨⟨e, hplaced, he⟩, hcount⟩ :=
    scanNals_found hrole hscan List.suffix_rfl (.nil 0) (Nat.zero_le _) rfl
  obtain rfl := hplaced.getLast hlast
  obtain ⟨sei', hcopy', hsei⟩ := copyNals_eq isSei scan.seiCount
    (fun pos hpos => Nat.le_trans (hplaced.mem hpos).2 he) [] 0 (by rw [hcount, Nat.zero_add])
  rw [List.length_nil, hcopy] at hcopy'
  obtain ⟨rfl, rfl⟩ := Prod.mk.inj (Option.some.inj hcopy')
  have hpieces := hplaced.pieces he
  rw [List.drop_zero, Nat.sub_zero] at hpieces
  have hpos := (hplaced.mem (List.mem_of_getLast? hlast)).1
  exact ⟨by omega, he, hpieces, flatMap_bytes _ _, hsei⟩

theorem copyNals_ne_none
    (hrole : ∀ pos foundSlice r, 0 < pos.nalSize → role pos foundSlice = some r → r.sei = (!r.flush && isSei pos))
    (hscan : scanNals splitter role data data {} = some (some scan)) :
    copyNals isSei data scan.seiCount scan.nals 0 0 ≠ none := by
  obtain ⟨⟨e, hplaced, he⟩, hcount⟩ :=
    scanNals_found hrole hscan List.suffix_rfl (.nil 0) (Nat.zero_le _) rfl
  obtain ⟨sei', hcopy', -⟩ := copyNals_eq isSei scan.seiCount
    (fun pos hpos => Nat.le_trans (hplaced.mem hpos).2 he) [] 0 (by rw [hcount, Nat.zero_add])
  rw [List.length_nil] at hcopy'
  rw [hcopy']
  exact Option.some_ne_none _

variable {au : Option AccessUnit}
open ElementaryStreamQueue

theorem h264_delivers (hq : Accounts q) (hmode : q.mMode = .h264) (haligned : q.alignedData = false)
    (h : q.dequeueAccessUnitH264 fw = some (au, q')) : Delivers q au q' := by
  unfold dequeueAccessUnitH264 at h
  dsimp only at h
  split at h
  · cases h
  · cases h
    exact .nothing (.refl q)
  · next scan hscan =>
    have hrole (pos foundSlice role) (hpos : 0 < pos.nalSize) (h : avcRole fw.reader q.mBuffer.data pos foundSlice = some role) :=
      avcRole_sei pos foundSlice role hpos h
    split at h
    · next hcopy => exact absurd hcopy (copyNals_ne_none hrole hscan)
    · next accessUnit sei hcopy =>
      split at h
      · cases h
      · next pos hlast =>
        obtain ⟨hpos, hle, hpieces, hunit, hsei⟩ := scanNals_unit hrole hscan hcopy hlast
        split_ifs at h with htime
        · cases h
          exact .nothing (.fetch hle rfl rfl rfl)
        · cases h
          refine .front hq (.fetch hle rfl rfl rfl) hpos rfl ?_
          rw [hmode, haligned]
          refine ⟨_, hpieces, hunit, ?_⟩
          rw [hsei, List.filter_map]
          refine congrArg _ (List.filter_congr fun pos hpos => ?_)
          have hsize := (scanNals_found hrole hscan List.suffix_rfl (.nil 0) (Nat.zero_le _) rfl).1.elim
            fun e he => (he.1.mem hpos).1
          simp only [isAvcSei, Function.comp, avcType, avcNalType, byte_bytes hsize, hsize, and_true]

theorem h265_delivers (hq : Accounts q) (hmode : q.mMode = .h265) (h : q.dequeueAccessUnitH265 fw = some (au, q')) :
    Delivers q au q' := by
  unfold dequeueAccessUnitH265 at h
  dsimp only at h
  split at h
  · cases h
  · cases h
    exact .nothing (.refl q)
  · next scan hscan =>
    have hrole (pos foundSlice role) (_ : 0 < pos.nalSize) (h : hevcRole q.mBuffer.data pos foundSlice = some role) :=
      hevcRole_sei pos foundSlice role h
    split at h
    · next accessUnit sei pos hcopy hlast =>
      obtain ⟨hpos, hle, hpieces, hunit, -⟩ := scanNals_unit hrole hscan hcopy hlast
      have hfront {q' : ElementaryStreamQueue φ} (hcut : CutTo q q' (pos.nalOffset + pos.nalSize)) :
          Delivers q (some { data := accessUnit, timeUs := (q.fetchTimestamp (pos.nalOffset + pos.nalSize)).1 }) q' := by
        refine .front hq hcut hpos rfl ?_
        rw [hmode]
        exact ⟨_, hpieces, hunit⟩
      split_ifs at h with htime hformat
      · cases h
        exact hfront (.fetch hle rfl rfl rfl)
      · split at h
        · cases h
        · cases h
          exact hfront (.fetch hle rfl rfl rfl)
    · cases h

theorem aligned_delivers (hq : Accounts q) (hmode : q.mMode = .h264) (haligned : q.alignedData = true)
    (h : q.dequeueAlignedAccessUnit fw = some (au, q')) : Delivers q au q' := by
  unfold dequeueAlignedAccessUnit at h
  split at h
  · cases h
    exact .nothing (.refl q)
  · next info infos hinfos =>
    cases h
    have hpos := hq.nonempty info (by rw [hinfos]; exact List.mem_cons_self)
    have hle : info.length ≤ q.mBuffer.size := by
      rw [← hq.length, stamps, hinfos, spread_cons, List.length_append, List.length_replicate]
      exact Nat.le_add_right _ _
    have hranges : dropRuns info.length q.mRangeInfos = infos := by
      obtain ⟨n, hn⟩ := Nat.exists_eq_add_of_lt hpos
      rw [Nat.zero_add] at hn
      rw [hinfos, hn, dropRuns, if_neg (by omega), hn, Nat.sub_self, dropRuns_zero]
    refine .front hq (.fetch hle rfl hranges.symm rfl) hpos ?_ ?_
    · rw [fetchTimestamp, if_neg (Nat.ne_of_gt hpos), hinfos]
      rfl
    · rw [hmode, haligned]
      rfl

end Nals

/-! ### MPEG video -/

section Video
variable {au : Option AccessUnit}
open ElementaryStreamQueue

theorem restart_cut (code : Nat) {offset : Nat} (hle : offset ≤ q.mBuffer.size) :
    ∃ k, CutTo q (q.restart code offset).1 k ∧
      (q.restart code offset).2 ≤ (q.restart code offset).1.mBuffer.size := by
  unfold restart
  split
  · exact ⟨offset, .discard hle, Nat.zero_le _⟩
  · exact ⟨0, .refl q, hle⟩

theorem unitOf_plain {mode : Mode} (hmode : mode = .mpegVideo ∨ mode = .mpeg4Video) (aligned : Bool) {bytes : List UInt8}
    {a : AccessUnit} (h : a.data = bytes) : UnitOf mode aligned bytes a := by
  rcases hmode with rfl | rfl <;> exact h

theorem moved_delivers (hq : Accounts q) (hmode : q.mMode = .mpegVideo ∨ q.mMode = .mpeg4Video) {n : Nat} {isSync : Bool}
    (hle : n ≤ q.mBuffer.size)
    (h : (if ((q.moveOut n).fetchTimestamp n).1 < 0 then some (none, ((q.moveOut n).fetchTimestamp n).2)
      else some (some { data := q.mBuffer.data.take n, timeUs := ((q.moveOut n).fetchTimestamp n).1, isSync },
        ((q.moveOut n).fetchTimestamp n).2)) = some (au, q')) : Delivers q au q' := by
  split_ifs at h with htime
  · cases h
    exact .nothing (.fetch hle rfl rfl rfl)
  · cases h
    have hpos : 0 < n := by
      refine Nat.pos_of_ne_zero fun hzero => htime ?_
      rw [fetchTimestamp, if_pos hzero]
      exact Int.negSucc_lt_zero 0
    exact .front hq (.fetch hle rfl rfl rfl) hpos rfl (unitOf_plain hmode _ rfl)

theorem scanMpegVideo_delivers {scan : PictureScan} {offset : Nat} (hq : Accounts q) (hmode : q.mMode = .mpegVideo)
    (hle : offset ≤ q.mBuffer.size)
    (h : scanMpegVideo q scan offset = some (au, q')) : Delivers q au q' := by
  induction hn : q.mBuffer.size - offset using Nat.strong_induction_on generalizing q scan offset with
  | _ n ih =>
    subst hn
    rw [scanMpegVideo] at h
    by_cases hmore : offset + 3 < q.mBuffer.size
    · rw [if_pos hmore] at h
      by_cases hcode : (q.mBuffer.data.drop offset).take 3 ≠ startCodePrefix
      · rw [if_pos hcode] at h
        exact ih _ (by omega) hq hmode (by omega) h rfl
      · rw [if_neg hcode] at h
        dsimp only at h
        generalize byte q.mBuffer.data (offset + 3) = code at h
        obtain ⟨k, hcut, hle'⟩ := restart_cut code hle
        have hsize := size_restart q code offset
        generalize (q.restart code offset).1 = q₁ at h hcut hle' hsize
        generalize (q.restart code offset).2 = offset₁ at h hle' hsize
        -- What the loop does from there on is delivered behind what was thrown away.
        refine Delivers.of_cut ?_ hcut
        have hq₁ := hcut.accounts hq
        have hmode' := hcut.mode_eq.trans hmode
        have hnext (scan : PictureScan) (h : scanMpegVideo q₁ scan (offset₁ + 1) = some (au, q')) : Delivers q₁ au q' :=
          ih _ (by omega) hq₁ hmode' (by omega) h rfl
        by_cases hheader : (scan.next code).afterSequenceHeader = true ∧ q₁.mFormat.isNone = true
        · rw [if_pos hheader] at h
          split_ifs at h
          · cases h
            exact .nothing (.refl _)
          · cases h
            exact .nothing (.fetch hle' rfl rfl rfl)
        rw [if_neg hheader] at h
        by_cases hgop : q₁.mFormat.isSome = true ∧ code = 0xb8
        · rw [if_pos hgop] at h
          split_ifs at h
          exact hnext _ h
        rw [if_neg hgop] at h
        by_cases hpicture : q₁.mFormat.isSome = true ∧ code = 0x00
        · rw [if_pos hpicture] at h
          by_cases hsaw : (scan.next code).sawPictureStart = true
          · rw [if_pos hsaw] at h
            exact moved_delivers hq₁ (.inl hmode') hle' h
          · rw [if_neg hsaw] at h
            exact hnext _ h
        rw [if_neg hpicture] at h
        exact hnext _ h
    · rw [if_neg hmore] at h
      cases h
      exact .nothing (.refl _)

theorem chunk_le {data : List UInt8} {offset chunkSize : Nat} (h : getNextChunkSize (data.drop offset) = some chunkSize) :
    offset + chunkSize ≤ data.length := by
  have hlt := (getNextChunkSize_pos h).2
  rw [List.length_drop] at hlt
  omega

theorem scanMpeg4Video_delivers {state : Mpeg4State} {width height : Int} {offset : Nat} (hq : Accounts q)
    (hmode : q.mMode = .mpeg4Video) (hle : offset ≤ q.mBuffer.size)
    (h : scanMpeg4Video fw q state width height offset = some (au, q')) : Delivers q au q' := by
  fun_induction scanMpeg4Video fw q state width height offset with
  | case1 | case5 | case7 | case9 | case10 =>
    cases h
    exact .nothing (.refl _)
  | case2 q _ _ offset chunkSize hchunk _ _ ih => exact ih hq hmode (chunk_le hchunk) h
  | case3 => cases h
  | case4 q _ _ offset chunkSize hchunk _ _ _ ih =>
    have hcut : CutTo q (q.discard offset) offset := .discard hle
    exact (ih (hcut.accounts hq) hmode (Nat.zero_le _) h).of_cut hcut
  | case6 q _ _ offset chunkSize hchunk _ _ ih => exact ih hq hmode (chunk_le hchunk) h
  | case8 q _ _ offset chunkSize hchunk _ _ ih => exact ih hq hmode (chunk_le hchunk) h
  | case11 q _ _ offset chunkSize hchunk _ _ _ _ _ ih => exact ih hq hmode (chunk_le hchunk) h
  | case12 q _ _ offset chunkSize hchunk _ _ _ ih =>
    have hcut (format : Option (Format φ)) : CutTo q { q.discard offset with mFormat := format } offset :=
      .fetch hle rfl rfl rfl
    exact (ih ((hcut _).accounts hq) hmode (Nat.zero_le _) h).of_cut (hcut _)
  | case13 q _ _ offset chunkSize hchunk _ _ ih => exact ih hq hmode (chunk_le hchunk) h
  | case14 _ _ _ _ _ hchunk =>
    cases h
    exact .nothing (.fetch (chunk_le hchunk) rfl rfl rfl)
  | case15 q _ _ offset chunkSize hchunk _ _ _ _ fetched htime =>
    exact moved_delivers hq (.inr hmode) (chunk_le hchunk) ((if_neg htime).trans h)
  | case16 q _ _ offset chunkSize hchunk _ _ _ ih =>
    have hcut : CutTo q (q.discard (offset + chunkSize)) (offset + chunkSize) := .discard (chunk_le hchunk)
    exact (ih (hcut.accounts hq) hmode (Nat.zero_le _) h).of_cut hcut
  | case17 q _ _ offset chunkSize hchunk _ _ _ ih => exact ih hq hmode (chunk_le hchunk) h

end Video

/-! ### Calls -/

section Calls
variable {au : Option AccessUnit}
open ElementaryStreamQueue

theorem dequeueAccessUnit_delivers (hq : Accounts q) (h : q.dequeueAccessUnit fw = some (au, q')) : Delivers q au q' := by
  unfold dequeueAccessUnit at h
  split_ifs at h with haligned
  · exact aligned_delivers hq haligned.2 haligned.1 h
  · split at h
    · next hmode => exact h265_delivers hq hmode h
    · next hmode =>
      rw [hmode, and_iff_left rfl, Bool.not_eq_true] at haligned
      exact h264_delivers hq hmode haligned h
    · next hmode => exact aac_delivers hq hmode h
    · next hmode => exact ac3_delivers hq hmode h
    · next hmode => exact scanMpegVideo_delivers hq hmode (Nat.zero_le _) h
    · next hmode => exact scanMpeg4Video_delivers hq hmode (Nat.zero_le _) h
    · next hmode => exact pcmAudio_delivers hq hmode h
    · next hmode => exact metadata_delivers hq hmode h
    · next hmode => exact mpegAudio_delivers hq hmode h

/-- Bytes with a time are put behind the others. -/
structure PutOn (q q' : ElementaryStreamQueue φ) (data : List UInt8) (timeUs : Int) : Prop where
  bytes : q'.mBuffer.data = q.mBuffer.data ++ data
  ranges : q'.mRangeInfos = q.mRangeInfos ++ [{ value := timeUs, length := data.length }]
  kept : (q'.mMode, q'.alignedData) = (q.mMode, q.alignedData)
  nonempty : data ≠ []

theorem PutOn.stamps {data : List UInt8} {timeUs : Int} (h : PutOn q q' data timeUs) :
    q'.stamps = q.stamps ++ List.replicate data.length timeUs := by
  rw [ElementaryStreamQueue.stamps, h.ranges, spread_append, spread_cons, spread_nil, List.append_nil]
  rfl

theorem PutOn.accounts {data : List UInt8} {timeUs : Int} (h : PutOn q q' data timeUs) (hq : Accounts q)
    (htime : 0 ≤ timeUs) : Accounts q' where
  length := by
    have hsize : q'.mBuffer.size = q.mBuffer.size + data.length := by
      rw [ABuffer.size, h.bytes, List.length_append, ABuffer.size]
    rw [h.stamps, List.length_append, hq.length, List.length_replicate, hsize]
  timed info hinfo := by
    rw [h.ranges] at hinfo
    rcases List.mem_append.mp hinfo with hinfo | hinfo
    · exact hq.timed info hinfo
    · rw [List.mem_singleton.mp hinfo]
      exact htime
  nonempty info hinfo := by
    rw [h.ranges] at hinfo
    rcases List.mem_append.mp hinfo with hinfo | hinfo
    · exact hq.nonempty info hinfo
    · rw [List.mem_singleton.mp hinfo]
      exact List.length_pos_iff.mpr h.nonempty

theorem fromSyncword_ne_nil {mode : Mode} {data data' : List UInt8} (h : fromSyncword fw mode data = some (some data')) :
    data' ≠ [] := by
  induction data with
  | nil => cases h
  | cons b data ih =>
    rw [fromSyncword] at h
    split at h
    · cases h
    · cases h
      exact List.cons_ne_nil b data
    · exact ih h

theorem appendData_putOn {data : List UInt8} {timeUs : Int} {status : Status} (hdata : data ≠ [])
    (h : q.appendData fw data timeUs = some (status, q')) : q' = q ∨ ∃ data', PutOn q q' data' timeUs := by
  unfold appendData at h
  split_ifs at h with heos
  · cases h
    exact .inl rfl
  · split at h
    · cases h
    · cases h
      exact .inl rfl
    · next data' htrimmed =>
      cases h
      refine .inr ⟨data', ABuffer.data_append _ _ _ (ABuffer.le_roundUp (by decide) _), rfl, rfl, ?_⟩
      unfold trimmed at htrimmed
      split_ifs at htrimmed
      · split at htrimmed
        · cases htrimmed
          exact hdata
        · cases htrimmed
          exact hdata
        · exact fromSyncword_ne_nil htrimmed
      · cases htrimmed
        exact hdata

end Calls

/-! ### Runs -/

inductive QueueCall where
  | appendData (data : List UInt8) (timeUs : Int)
  | dequeueAccessUnit
  | signalEOS
  | clear (clearFormat : Bool)
  deriving DecidableEq, Repr

/-- What happened since the queue was cleared: the bytes that were appended, with their times, and the access units that were
    returned. -/
structure QueueLog where
  appended : List (UInt8 × Int) := []
  units : List AccessUnit := []
  deriving DecidableEq, Repr

/-- The bytes behind the first `n` ones were appended at a time. -/
def QueueLog.note (log : QueueLog) (q q' : ElementaryStreamQueue φ) (timeUs : Int) : QueueLog :=
  { log with appended := log.appended ++ (q'.mBuffer.data.drop q.mBuffer.size).map (·, timeUs) }

def QueueCall.step (fw : Framework σ φ) (s : ElementaryStreamQueue φ × QueueLog) :
    QueueCall → Option (ElementaryStreamQueue φ × QueueLog)
  | .appendData data timeUs => (s.1.appendData fw data timeUs).map fun r => (r.2, s.2.note s.1 r.2 timeUs)
  | .dequeueAccessUnit =>
    (s.1.dequeueAccessUnit fw).map fun r => (r.2, { s.2 with units := s.2.units ++ r.1.toList })
  | .signalEOS => (s.1.signalEOS fw).map fun q => (q, s.2.note s.1 q 0)
  | .clear clearFormat => some (s.1.clear clearFormat, {})

/-- Payload is there, and has a time that is not negative. -/
def QueueCall.Ok : QueueCall → Prop
  | .appendData data timeUs => data ≠ [] ∧ 0 ≤ timeUs
  | _ => True

instance decidableOk : DecidablePred QueueCall.Ok := fun call => by
  cases call <;> unfold QueueCall.Ok <;> infer_instance

/-- Access units that were cut from stamped bytes between two offsets, one behind the other, each with the time of the first
    byte of its own. -/
inductive Cuts (mode : Mode) (alignedData : Bool) (bytes : List (UInt8 × Int)) : List AccessUnit → Nat → Prop where
  | nil (j : Nat) : Cuts mode alignedData bytes [] j
  | concat {i j m n : Nat} {units : List AccessUnit} {a : AccessUnit} : Cuts mode alignedData bytes units i → i ≤ m → m < n →
      n ≤ j → (bytes[m]?).map (·.2) = some a.timeUs →
      UnitOf mode alignedData (((bytes.drop m).take (n - m)).map (·.1)) a → Cuts mode alignedData bytes (units ++ [a]) j

/-- The queue holds the end of what was appended, each byte with its time; the access units are from the front of it. -/
structure InOrder (q : ElementaryStreamQueue φ) (log : QueueLog) : Prop where
  accounts : Accounts q
  cuts : ∃ taken ≤ log.appended.length, Cuts q.mMode q.alignedData log.appended log.units taken ∧
    q.mBuffer.data = (log.appended.drop taken).map (·.1) ∧ q.stamps = (log.appended.drop taken).map (·.2)

namespace Cuts
variable {mode : Mode} {alignedData : Bool} {bytes : List (UInt8 × Int)} {units : List AccessUnit} {i j : Nat}

theorem mono (h : Cuts mode alignedData bytes units i) (hle : i ≤ j) : Cuts mode alignedData bytes units j := by
  cases h with
  | nil => exact .nil j
  | concat hunits him hmn hnj htime hunit => exact .concat hunits him hmn (Nat.le_trans hnj hle) htime hunit

theorem append (h : Cuts mode alignedData bytes units j) (hle : j ≤ bytes.length) (more : List (UInt8 × Int)) :
    Cuts mode alignedData (bytes ++ more) units j := by
  induction h with
  | nil => exact .nil _
  | @concat i j m n units a _ him hmn hnj htime hunit ih =>
    refine .concat (ih (by omega)) him hmn hnj ?_ ?_
    · rwa [List.getElem?_append_left (by omega)]
    · rwa [List.drop_append_of_le_length (by omega), List.take_append_of_le_length (by rw [List.length_drop]; omega)]

end Cuts

section Steps
variable {log : QueueLog} {au : Option AccessUnit}
open ElementaryStreamQueue

theorem InOrder.append (h : InOrder q log) {data : List UInt8} {timeUs : Int} (hput : PutOn q q' data timeUs)
    (htime : 0 ≤ timeUs) : InOrder q' (log.note q q' timeUs) := by
  obtain ⟨taken, hle, hcuts, hbytes, hstamps⟩ := h.cuts
  have hnote : (log.note q q' timeUs).appended = log.appended ++ data.map (·, timeUs) := by
    rw [QueueLog.note, hput.bytes, ABuffer.size, List.drop_left]
  obtain ⟨hmode, haligned⟩ := Prod.mk.inj hput.kept
  refine ⟨hput.accounts h.accounts htime, taken, ?_, ?_, ?_, ?_⟩
  · rw [hnote, List.length_append]
    omega
  · rw [hnote, hmode, haligned]
    exact hcuts.append hle _
  · rw [hput.bytes, hbytes, hnote, List.drop_append_of_le_length hle, List.map_append, List.map_map]
    exact congrArg _ (List.map_id' data).symm
  · rw [hput.stamps, hstamps, hnote, List.drop_append_of_le_length hle, List.map_append, List.map_map]
    exact congrArg _ List.map_const'.symm

theorem InOrder.deliver (h : InOrder q log) (hdelivers : Delivers q au q') :
    InOrder q' { log with units := log.units ++ au.toList } := by
  obtain ⟨taken, hle, hcuts, hbytes, hstamps⟩ := h.cuts
  have hsize : q.mBuffer.size = log.appended.length - taken := by
    rw [ABuffer.size, hbytes, List.length_map, List.length_drop]
  have hcut {n : Nat} (hcut : CutTo q q' n) : taken + n ≤ log.appended.length ∧
      q'.mBuffer.data = (log.appended.drop (taken + n)).map (·.1) ∧ q'.stamps = (log.appended.drop (taken + n)).map (·.2) := by
    have hn := hcut.le
    refine ⟨by omega, ?_, ?_⟩
    · rw [hcut.bytes, hbytes, ← List.map_drop, List.drop_drop]
    · rw [hcut.stamps, hstamps, ← List.map_drop, List.drop_drop]
  cases hdelivers with
  | @nothing q' n hnothing =>
    obtain ⟨hle', hbytes', hstamps'⟩ := hcut hnothing
    refine ⟨hnothing.accounts h.accounts, taken + n, hle', ?_, hbytes', hstamps'⟩
    rw [Option.toList_none, List.append_nil, hnothing.mode_eq, hnothing.alignedData_eq]
    exact hcuts.mono (Nat.le_add_right _ _)
  | @unit q' m n a hunit hlt htime hof =>
    obtain ⟨hle', hbytes', hstamps'⟩ := hcut hunit
    refine ⟨hunit.accounts h.accounts, taken + n, hle', ?_, hbytes', hstamps'⟩
    rw [Option.toList_some, hunit.mode_eq, hunit.alignedData_eq]
    refine .concat hcuts (Nat.le_add_right taken m) (Nat.add_lt_add_left hlt taken) (Nat.le_refl _) ?_ ?_
    · rw [← htime, hstamps, List.getElem?_map, List.getElem?_drop]
    · rw [hbytes] at hof
      rwa [Nat.add_sub_add_left, List.map_take, ← List.drop_drop, List.map_drop]

theorem signalEOS_putOn (h : q.signalEOS fw = some q') :
    (q'.mBuffer = q.mBuffer ∧ q'.mRangeInfos = q.mRangeInfos ∧ (q'.mMode, q'.alignedData) = (q.mMode, q.alignedData)) ∨
      ∃ data, PutOn q q' data 0 := by
  unfold signalEOS at h
  split_ifs at h with heos hmode
  · cases h
    exact .inl ⟨rfl, rfl, rfl⟩
  · obtain ⟨⟨status, q₁⟩, happend, rfl⟩ := Option.map_eq_some_iff.mp h
    rcases appendData_putOn (List.cons_ne_nil _ _) happend with rfl | ⟨data, hput⟩
    · exact .inl ⟨rfl, rfl, rfl⟩
    · exact .inr ⟨data, hput.bytes, hput.ranges, hput.kept, hput.nonempty⟩
  · cases h
    exact .inl ⟨rfl, rfl, rfl⟩

theorem InOrder.same (h : InOrder q log) (hbuffer : q'.mBuffer = q.mBuffer) (hranges : q'.mRangeInfos = q.mRangeInfos)
    (hkept : (q'.mMode, q'.alignedData) = (q.mMode, q.alignedData)) (timeUs : Int) : InOrder q' (log.note q q' timeUs) := by
  have hnote : log.note q q' timeUs = log := by
    rw [QueueLog.note, hbuffer, ABuffer.size, List.drop_length, List.map_nil, List.append_nil]
  obtain ⟨hmode, haligned⟩ := Prod.mk.inj hkept
  obtain ⟨taken, hle, hcuts, hbytes, hstamps⟩ := h.cuts
  rw [hnote]
  refine ⟨⟨?_, ?_, ?_⟩, taken, hle, ?_, ?_, ?_⟩
  · rw [stamps, hranges, hbuffer]
    exact h.accounts.length
  · rw [hranges]
    exact h.accounts.timed
  · rw [hranges]
    exact h.accounts.nonempty
  · rw [hmode, haligned]
    exact hcuts
  · rw [hbuffer, hbytes]
  · rw [stamps, hranges]
    exact hstamps

theorem inOrder_empty (hbuffer : q.mBuffer.data = []) (hranges : q.mRangeInfos = []) : InOrder q {} where
  accounts := by
    refine ⟨?_, ?_, ?_⟩
    · rw [stamps, hranges, ABuffer.size, hbuffer]
      rfl
    · rw [hranges]
      simp
    · rw [hranges]
      simp
  cuts := by
    refine ⟨0, Nat.le_refl 0, .nil 0, hbuffer, ?_⟩
    rw [stamps, hranges]
    rfl

theorem InOrder.step {s s' : ElementaryStreamQueue φ × QueueLog} {call : QueueCall} (h : InOrder s.1 s.2) (hok : call.Ok)
    (hstep : call.step fw s = some s') : InOrder s'.1 s'.2 := by
  cases call with
  | appendData data timeUs =>
    obtain ⟨⟨status, q'⟩, happend, rfl⟩ := Option.map_eq_some_iff.mp hstep
    rcases appendData_putOn hok.1 happend with rfl | ⟨data', hput⟩
    · exact h.same rfl rfl rfl timeUs
    · exact h.append hput hok.2
  | dequeueAccessUnit =>
    obtain ⟨⟨au, q'⟩, hdequeue, rfl⟩ := Option.map_eq_some_iff.mp hstep
    exact h.deliver (dequeueAccessUnit_delivers h.accounts hdequeue)
  | signalEOS =>
    obtain ⟨q', hsignal, rfl⟩ := Option.map_eq_some_iff.mp hstep
    rcases signalEOS_putOn hsignal with ⟨hbuffer, hranges, hkept⟩ | ⟨data, hput⟩
    · exact h.same hbuffer hranges hkept 0
    · exact h.append hput (Int.le_refl 0)
  | clear clearFormat =>
    cases hstep
    exact inOrder_empty rfl rfl

end Steps

/-- A framework that makes a format of everything. -/
def plainFramework : Framework (List Bool) Unit where
  reader := listReader
  memory := zeroMemory
  getNextNalUnit := hevcSplitter
  makeAvcCodecSpecificData _ := some ()
  makeAacCodecSpecificData _ _ _ := some ()
  getMpegAudioFrameSize _ := none
  extractDimensionsFromVolHeader _ := none

end BcmPlatform.Ts
