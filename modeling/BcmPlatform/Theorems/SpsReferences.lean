import BcmPlatform.Theorems.SpsReads

/-! The reference pictures of an SPS. An inter-predicted set has one more entry than the loop over it, and the loop over the
    long-term pictures reads their number again; what comes behind is read in the wrong place. -/

namespace BcmPlatform.Hevc
open Lib Parse

variable {σ : Type} {r : BitReader σ} {rest : σ → List Bool} {sets : List ShortTermRefPicSet} {ref : List Int × List Int}
  {num i : Nat} {numDeltaPocs : Nat → Nat}

@[simp] theorem length_pocs (sign : Int) (s : Nat → Ue × Bool) (count : Nat) :
    (ShortTermRefPicSet.pocs sign s count).length = count := by
  rw [ShortTermRefPicSet.pocs, List.length_map, List.length_range]

/-- The array has the number of pictures of the set before, as far as an `unsigned` can. -/
def PocsOk (i : Nat) (ref : List Int × List Int) (numDeltaPocs : Nat → Nat) : Prop :=
  0 < i → numDeltaPocs (i - 1) = (ref.1.length + ref.2.length) % Bomx.u32

section Sets
variable (h : r.Laws rest)
include h

theorem reads_explicitSet (numNegativePics numPositivePics : Ue) (s0 s1 : Nat → Ue × Bool) (numDelta : Nat) :
    Reads rest (parseSpsRps r i num numDeltaPocs)
      ((ShortTermRefPicSet.explicit numNegativePics numPositivePics s0 s1).elements i numDelta)
      (0, Function.update numDeltaPocs i ((numNegativePics.val + numPositivePics.val) % Bomx.u32)) := by
  rw [ShortTermRefPicSet.elements, List.append_assoc, List.range_eq_range', List.range_eq_range']
  refine Reads.bind (a := 0) ?_ ?_
  · by_cases hi : i = 0
    · rw [if_pos hi, if_neg (not_not.mpr hi)]
      exact Reads.pure 0
    · rw [if_neg hi, if_pos hi]
      exact reads_flag h false
  refine (reads_ue h numNegativePics).bind ((reads_ue h numPositivePics).bind ?_)
  refine Reads.bind (a := ()) (reads_loop 0 fun j _ _ => ?_) (Reads.map (a := ()) (reads_loop 0 fun j _ _ => ?_) fun _ => _)
  · exact (reads_ues h [(.deltaPocS0Minus1, (s0 j).1)]).bind (Reads.map (reads_flag h (s0 j).2) fun _ => ())
  · exact (reads_ues h [(.deltaPocS1Minus1, (s1 j).1)]).bind (Reads.map (reads_flag h (s1 j).2) fun _ => ())

theorem reads_sets (hexplicit : ∀ set ∈ sets, set.isInter = false) :
    Reads rest (parseSets r num i sets.length numDeltaPocs) (ShortTermRefPicSet.setsElements i ref sets) 0 := by
  induction sets generalizing i ref numDeltaPocs with
  | nil => exact Reads.pure 0
  | cons set sets ih =>
    have hset := hexplicit set (List.mem_cons_self ..)
    have hsets := fun s hs => hexplicit s (List.mem_cons_of_mem _ hs)
    cases set with
    | inter deltaRpsSign absDeltaRpsMinus1 used use => cases hset
    | explicit numNegativePics numPositivePics s0 s1 =>
      refine (reads_explicitSet h numNegativePics numPositivePics s0 s1 _).bind ?_
      exact ih hsets

/-- The entries of an inter-predicted set. -/
def usedElements (used use : Nat → Bool) (j : Nat) : List HevcCoded :=
  .flag .usedByCurrPicFlag (used j) :: if used j then [] else [.flag .useDeltaFlag (use j)]

theorem reads_interSet (hi : i ≠ 0) (hnum : i < num) (deltaRpsSign : Bool) (absDeltaRpsMinus1 : Ue) (used use : Nat → Bool) :
    Reads rest (parseSpsRps r i num numDeltaPocs)
      (.flag .interRefPicSetPredictionFlag true :: .flag .deltaRpsSign deltaRpsSign ::
        .ue .absDeltaRpsMinus1 absDeltaRpsMinus1 :: (List.range (numDeltaPocs (i - 1))).flatMap (usedElements used use))
      (0, Function.update numDeltaPocs i (((List.range' 0 (numDeltaPocs (i - 1))).map fun j => used j || use j).count true)) := by
  have hinter : Reads rest (if i ≠ 0 then getBits r HevcElement.interRefPicSetPredictionFlag 1 else pure 0)
      [.flag .interRefPicSetPredictionFlag true] true.toNat := by
    rw [if_pos hi]
    exact reads_flag h true
  refine hinter.bind ?_
  rw [if_pos (by decide), if_neg (Nat.not_le.mpr hnum)]
  refine (reads_flag h deltaRpsSign).bind ((reads_ues h [(.absDeltaRpsMinus1, absDeltaRpsMinus1)]).bind ?_)
  refine Reads.map ?_ fun l : List Bool => (0, Function.update numDeltaPocs i (l.count true))
  rw [List.range_eq_range']
  refine reads_collect 0 fun j _ _ => (reads_flag h (used j)).bind ?_
  cases hused : used j with
  | true => exact (Reads.pure 0).bind (Reads.pure _)
  | false =>
    have hvalue : decide (false.toNat ≠ 0 ∨ (use j).toNat ≠ 0) = (false || use j) := by cases use j <;> rfl
    refine (reads_flag h (use j)).bind ?_
    rw [hvalue]
    exact Reads.pure _

end Sets

theorem exists_range_split {m n : Nat} (hle : m ≤ n) : ∃ l, List.range (n + 1) = List.range m ++ m :: l := by
  obtain ⟨k, rfl⟩ := Nat.le.dest hle
  refine ⟨(List.range' 1 k).map (m + ·), ?_⟩
  rw [Nat.add_assoc, List.range_add, List.range_eq_range', List.range_eq_range', List.range'_succ, List.map_cons]
  rfl

theorem first_parseSets {α : Type} {behind : Nat → HevcParse σ α}
    (hfirst : First (behind 0) .longTermRefPicsPresentFlag (.u 1)) (num i count : Nat) (numDeltaPocs : Nat → Nat) :
    ∃ element, element ≠ HevcElement.usedByCurrPicFlag ∧
      First (parseSets r num (i + 1) count numDeltaPocs >>= behind) element (.u 1) := by
  cases count with
  | zero => exact ⟨_, Ne.symm HevcElement.noConfusion, hfirst⟩
  | succ count =>
    refine ⟨.interRefPicSetPredictionFlag, Ne.symm HevcElement.noConfusion, First.bind (First.bind (First.bind ?_))⟩
    exact first_getBits r _ 1

theorem strays_sets (h : r.Laws rest) {α : Type} {behind : Nat → HevcParse σ α}
    (hfirst : First (behind 0) .longTermRefPicsPresentFlag (.u 1)) (hinter : ∃ set ∈ sets, set.isInter = true)
    (hnum : i + sets.length = num) (hhead : i = 0 → ∀ set, sets.head? = some set → set.isInter = false)
    (hpocs : PocsOk i ref numDeltaPocs) :
    Strays rest (parseSets r num i sets.length numDeltaPocs >>= behind) (ShortTermRefPicSet.setsElements i ref sets) := by
  induction sets generalizing i ref numDeltaPocs with
  | nil =>
    obtain ⟨set, hset, -⟩ := hinter
    cases hset
  | cons set sets ih =>
    rw [List.length_cons] at hnum
    rw [List.length_cons, parseSets, bind_assoc, ShortTermRefPicSet.setsElements]
    cases set with
    | explicit numNegativePics numPositivePics s0 s1 =>
      refine (reads_explicitSet h numNegativePics numPositivePics s0 s1 _).strays_bind ?_
      refine ih ?_ (by omega) (fun hzero => absurd hzero (Nat.succ_ne_zero i)) fun _ => ?_
      · obtain ⟨set, hset, hinter⟩ := hinter
        rcases List.mem_cons.mp hset with rfl | hset
        · cases hinter
        · exact ⟨set, hset, hinter⟩
      · rw [Nat.add_sub_cancel, Function.update_self, ShortTermRefPicSet.deltaPocs, length_pocs, length_pocs]
    | inter deltaRpsSign absDeltaRpsMinus1 used use =>
      have hi : i ≠ 0 := fun hzero => by cases hhead hzero _ rfl
      have hle : numDeltaPocs (i - 1) ≤ ref.1.length + ref.2.length := by
        rw [hpocs (Nat.pos_of_ne_zero hi)]
        exact Nat.mod_le _ _
      -- the entries that the code reads, and the next one
      obtain ⟨l, hsplit⟩ := exists_range_split hle
      have htable (more : List HevcCoded) : ∃ entries, (ShortTermRefPicSet.inter deltaRpsSign absDeltaRpsMinus1 used use).elements i
          (ref.1.length + ref.2.length) ++ more =
          (.flag .interRefPicSetPredictionFlag true :: .flag .deltaRpsSign deltaRpsSign ::
            .ue .absDeltaRpsMinus1 absDeltaRpsMinus1 :: (List.range (numDeltaPocs (i - 1))).flatMap (usedElements used use)) ++
          .flag .usedByCurrPicFlag (used (numDeltaPocs (i - 1))) :: entries := by
        rw [ShortTermRefPicSet.elements, if_neg hi, hsplit, List.flatMap_append, List.flatMap_cons]
        simp only [List.append_assoc, List.cons_append]
        exact ⟨_, rfl⟩
      obtain ⟨entries, hentries⟩ := htable (ShortTermRefPicSet.setsElements (i + 1)
        (ShortTermRefPicSet.deltaPocs ref (.inter deltaRpsSign absDeltaRpsMinus1 used use)) sets)
      rw [hentries]
      refine (reads_interSet h hi (by omega) deltaRpsSign absDeltaRpsMinus1 used use).strays_bind ?_
      obtain ⟨element, hne, hnext⟩ := first_parseSets (r := r) hfirst num i sets.length
        (Function.update numDeltaPocs i
          (((List.range' 0 (numDeltaPocs (i - 1))).map fun j => used j || use j).count true))
      exact hnext.strays (.inl hne.symm)

/-! ### Long-term pictures -/

/-- The elements of the long-term pictures, with the length of an entry. -/
def longTermTable (length : Nat) (l : Ue × (Nat → Nat × BitVec 1)) : List HevcCoded :=
  .ue .numLongTermRefPicsSps l.1 :: (List.range l.1.val).flatMap fun i =>
    [⟨.ltRefPicPocLsbSps, .u length, (l.2 i).1⟩, .u .usedByCurrPicLtSpsFlag (l.2 i).2]

section LongTerm
variable (h : r.Laws rest) (length : Nat) {l : Ue × (Nat → Nat × BitVec 1)}
include h

theorem reads_longTerm (hnone : l.1.val = 0) : Reads rest (longTermRefPics r) (longTermTable length l) () := by
  have hloop (fuel : Nat) : Reads rest (longTermLoop r (fuel + 1) 0) (longTermTable length l) () := by
    rw [longTermTable, hnone]
    refine (reads_ue h l.1).bind ?_
    rw [if_neg (by omega)]
    exact Reads.pure ()
  exact fun s => hloop (r.numBitsLeft s) s

theorem strays_longTerm (hsome : l.1.val ≠ 0) : Strays rest (longTermRefPics r) (longTermTable length l) := by
  have hloop (fuel : Nat) : Strays rest (longTermLoop r (fuel + 1) 0) (longTermTable length l) := by
    obtain ⟨k, hk⟩ := Nat.exists_eq_succ_of_ne_zero hsome
    rw [longTermTable, hk, List.range_eq_range', List.range'_succ, List.flatMap_cons]
    refine (reads_ue h l.1).strays_bind ?_
    rw [if_pos (by omega)]
    have hne : Descriptor.u length ≠ .ue := fun hdescriptor => by cases hdescriptor
    exact (first_expGolomb r .ue HevcElement.ltRefPicPocLsbSps).bind.bind.strays (.inr hne)
  exact fun s => hloop (r.numBitsLeft s) s

end LongTerm

/-! ### VUI -/

/-- The HRD parameters of a VUI. -/
def vuiHrd (v : Vui) : Option Hrd := v.timing.bind (·.hrd)

/-- No sub-layer has a picture rate that is fixed in general. -/
def VariableRates (max : Nat) (v : Vui) : Prop :=
  ∀ hrd, vuiHrd v = some hrd → ∀ i ≤ max, (hrd.subLayers i).fixedPicRateGeneralFlag = false

def HevcNalInfo.withSegmentation (info : HevcNalInfo) (b : Option BitstreamRestriction) : HevcNalInfo :=
  match b with
  | none => info
  | some b => { info with minSpatialSegmentationIdc := min info.minSpatialSegmentationIdc b.minSpatialSegmentationIdc.val }

section Vui
variable (h : r.Laws rest)
include h

theorem reads_vuiRestriction (info : HevcNalInfo) (v : Vui) :
    Reads rest (vuiRestriction r info) v.restrictionElements (info.withSegmentation v.bitstreamRestriction) := by
  refine (reads_flag h v.bitstreamRestriction.isSome).bind ?_
  cases v.bitstreamRestriction with
  | none => exact Reads.pure info
  | some b =>
    refine (reads_bits h [(.tilesFixedStructureFlag, ⟨1, b.tilesFixedStructureFlag⟩),
      (.motionVectorsOverPicBoundariesFlag, ⟨1, b.motionVectorsOverPicBoundariesFlag⟩),
      (.restrictedRefPicListsFlag, ⟨1, b.restrictedRefPicListsFlag⟩)]).bind ?_
    refine (reads_ue h b.minSpatialSegmentationIdc).bind ?_
    exact (reads_ues h [(.maxBytesPerPicDenom, b.maxBytesPerPicDenom), (.maxBitsPerMinCuDenom, b.maxBitsPerMinCuDenom),
      (.log2MaxMvLengthHorizontal, b.log2MaxMvLengthHorizontal),
      (.log2MaxMvLengthVertical, b.log2MaxMvLengthVertical)]).map fun _ => info.withSegmentation (some b)

theorem reads_aspectRatio (v : Vui) :
    Reads rest (ifFlag r .aspectRatioInfoPresentFlag (do
      let aspectRatioIdc ← getBits r .aspectRatioIdc 8
      ifSet (aspectRatioIdc = 255) (skipBits r [(.sarWidth, 16), (.sarHeight, 16)]))) v.aspectRatioElements () := by
  refine reads_ifFlag h fun a _ => (reads_u h a.1 (by decide)).bind ?_
  have hset : a.1 = 255 ↔ a.1.toNat = 255 := BitVec.toNat_inj.symm
  change Reads rest _ (if a.1 = 255 then [.u HevcElement.sarWidth a.2.1, .u HevcElement.sarHeight a.2.2] else []) ()
  have hsar := reads_bits h [(.sarWidth, ⟨16, a.2.1⟩), (.sarHeight, ⟨16, a.2.2⟩)]
  simp only [hset]
  simpa using reads_ifSet (decide (a.1.toNat = 255)) fun _ => hsar

theorem reads_videoSignal (v : Vui) :
    Reads rest (ifFlag r .videoSignalTypePresentFlag (do
      skipBits r [(.videoFormat, 3), (.videoFullRangeFlag, 1)]
      ifFlag r .colourDescriptionPresentFlag
        (skipBits r [(.colourPrimaries, 8), (.transferCharacteristics, 8), (.matrixCoeffs, 8)]))) v.videoSignalElements () := by
  refine reads_ifFlag h fun p _ => ?_
  refine (reads_bits h [(.videoFormat, ⟨3, p.videoFormat⟩), (.videoFullRangeFlag, ⟨1, p.videoFullRangeFlag⟩)]).bind ?_
  exact reads_ifFlag h fun c _ =>
    reads_bits h [(.colourPrimaries, ⟨8, c.1⟩), (.transferCharacteristics, ⟨8, c.2.1⟩), (.matrixCoeffs, ⟨8, c.2.2⟩)]

theorem reads_vuiTiming {max : Nat} {v : Vui} (hrates : VariableRates max v) :
    Reads rest (vuiTiming r max) (v.timingElements max) () := by
  refine reads_ifFlag h fun t ht => ?_
  rw [List.append_assoc]
  refine (reads_bits h [(.vuiNumUnitsInTick, ⟨32, t.numUnitsInTick⟩)]).bind ?_
  refine (reads_bits h [(.vuiTimeScale, ⟨32, t.timeScale⟩)]).bind ?_
  refine (reads_ifFlag h fun n _ => reads_ues h [(.vuiNumTicksPocDiffOneMinus1, n)]).bind ?_
  refine reads_ifFlag h fun p hp => reads_hrdParameters h (hrates p ?_)
  rw [vuiHrd, ht]
  exact hp

theorem strays_vuiTiming {max : Nat} {v : Vui} (hrates : ¬ VariableRates max v) :
    Strays rest (vuiTiming r max) (v.timingElements max) := by
  simp only [VariableRates, not_forall] at hrates
  obtain ⟨p, hp, i, hi, hgeneral⟩ := hrates
  obtain ⟨t, ht, hhrd⟩ := Option.bind_eq_some_iff.mp hp
  rw [Vui.timingElements, ht]
  refine strays_ifFlag h ?_
  rw [List.append_assoc, hhrd]
  refine (reads_bits h [(.vuiNumUnitsInTick, ⟨32, t.numUnitsInTick⟩)]).strays_bind ?_
  refine (reads_bits h [(.vuiTimeScale, ⟨32, t.timeScale⟩)]).strays_bind ?_
  refine (reads_ifFlag h fun n _ => reads_ues h [(.vuiNumTicksPocDiffOneMinus1, n)]).strays_bind ?_
  exact strays_ifFlag h (strays_hrdParameters h ⟨i, hi, eq_true_of_ne_false hgeneral⟩)

theorem reads_vui {max : Nat} {o : Option Vui} (hrates : ∀ v, o = some v → VariableRates max v) (info : HevcNalInfo) :
    Reads rest (vuiParameters r max info) (optional .vuiParametersPresentFlag o (Vui.elements max))
      (info.withSegmentation (o.bind (·.bitstreamRestriction))) := by
  refine (reads_flag h o.isSome).bind ?_
  cases o with
  | none => exact Reads.pure info
  | some v =>
    refine (reads_aspectRatio h v).bind ?_
    refine (reads_ifFlag h fun b _ => reads_bits h [(.overscanAppropriateFlag, ⟨1, b⟩)]).bind ?_
    refine (reads_videoSignal h v).bind ?_
    refine (reads_ifFlag h fun c _ =>
      reads_ues h [(.chromaSampleLocTypeTopField, c.1), (.chromaSampleLocTypeBottomField, c.2)]).bind ?_
    refine (reads_bits h [(.neutralChromaIndicationFlag, ⟨1, v.neutralChromaIndicationFlag⟩),
      (.fieldSeqFlag, ⟨1, v.fieldSeqFlag⟩), (.frameFieldInfoPresentFlag, ⟨1, v.frameFieldInfoPresentFlag⟩)]).bind ?_
    refine (reads_window h v.defaultDisplayWindow).bind ?_
    exact (reads_vuiTiming h (hrates v rfl)).bind (reads_vuiRestriction h info v)

theorem strays_vui {max : Nat} {v : Vui} (hrates : ¬ VariableRates max v) (info : HevcNalInfo) :
    Strays rest (vuiParameters r max info) (optional .vuiParametersPresentFlag (some v) (Vui.elements max)) := by
  refine (reads_flag h true).strays_bind ?_
  refine (reads_aspectRatio h v).strays_bind ?_
  refine (reads_ifFlag h fun b _ => reads_bits h [(.overscanAppropriateFlag, ⟨1, b⟩)]).strays_bind ?_
  refine (reads_videoSignal h v).strays_bind ?_
  refine (reads_ifFlag h fun c _ =>
    reads_ues h [(.chromaSampleLocTypeTopField, c.1), (.chromaSampleLocTypeBottomField, c.2)]).strays_bind ?_
  refine (reads_bits h [(.neutralChromaIndicationFlag, ⟨1, v.neutralChromaIndicationFlag⟩),
    (.fieldSeqFlag, ⟨1, v.fieldSeqFlag⟩), (.frameFieldInfoPresentFlag, ⟨1, v.frameFieldInfoPresentFlag⟩)]).strays_bind ?_
  refine (reads_window h v.defaultDisplayWindow).strays_bind ?_
  exact (strays_vuiTiming h hrates).bind.append

end Vui
end BcmPlatform.Hevc
