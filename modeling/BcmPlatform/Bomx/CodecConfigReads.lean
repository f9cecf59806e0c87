import BcmPlatform.Bomx.EncoderOutput

/-! `BOMX_VideoEncoder::GetCodecConfig` with the pointers by which it reads the descriptors of
    `NEXUS_SimpleEncoder_GetVideoBuffer`. -/

namespace BcmPlatform.Bomx

/-- A pointer to a descriptor. -/
inductive DescPtr where
  | null
  | seg0 (index : Nat)
  | seg1 (index : Nat)
  deriving DecidableEq, Repr

def DescPtr.next : DescPtr → DescPtr
  | .null => .null
  | .seg0 i => .seg0 (i + 1)
  | .seg1 i => .seg1 (i + 1)

/-- The descriptors in memory: two segments, what lies behind them, and whether the encoder gave a pointer for the second
    one, as it does unless that one is empty. -/
structure DescMemory where
  seg0 : List EncoderDescriptor
  seg1 : List EncoderDescriptor
  hasDesc1 : Bool
  hasDesc1_of_seg1 : seg1 ≠ [] → hasDesc1 = true
  behind : DescPtr → EncoderDescriptor

namespace DescMemory

/-- A read through a pointer; there is nothing to read through null. -/
def read (m : DescMemory) : DescPtr → Option EncoderDescriptor
  | .null => none
  | .seg0 i => some (m.seg0[i]?.getD (m.behind (.seg0 i)))
  | .seg1 i => some (m.seg1[i]?.getD (m.behind (.seg1 i)))

/-- A pointer to a descriptor of the two segments. -/
def Inside (m : DescMemory) : DescPtr → Prop
  | .null => False
  | .seg0 i => i < m.seg0.length
  | .seg1 i => i < m.seg1.length

/-- `pConstDesc1` -/
def desc1 (m : DescMemory) : DescPtr := if m.hasDesc1 then .seg1 0 else .null

end DescMemory

/-- The variables that `ADVANCE_DESC` moves. -/
structure DescCursor where
  pDesc0 : DescPtr
  size0 : Nat
  pDesc1 : DescPtr
  size1 : Nat
  deriving DecidableEq, Repr

/-- `ADVANCE_DESC` -/
def DescCursor.advanceDesc (c : DescCursor) : DescCursor :=
  if c.size0 > 1 then { c with pDesc0 := c.pDesc0.next, size0 := c.size0 - 1 }
  else { pDesc0 := c.pDesc1, size0 := c.size1, pDesc1 := .null, size1 := 0 }

/-- What a call does: the encoder behind it, the result unless a read through null ended it, and the pointers that it read
    through. -/
structure ConfigRun where
  state : EncoderOutput
  returned : Option Bool
  reads : List DescPtr

namespace DescMemory
variable (m : DescMemory)

/-- The loop that looks for a `FRAME_START`, with the descriptors that are left: the count, where it stopped, and its
    reads. -/
def findFrameStart : Nat → Nat → DescPtr → Nat × DescPtr × List DescPtr
  | 0, count, p => (count, p, [])
  | left + 1, count, p =>
    if (m.read p).any (·.frameStart) then (count, p, [p])
    else
      let r := findFrameStart left (count + 1) p.next
      (r.1, r.2.1, p :: r.2.2)

/-- The part of `GetCodecConfig` behind the first `FRAME_START`. -/
def queueCodecConfig (c : DescCursor) (s : EncoderOutput) : ConfigRun :=
  if s.codec = .vp8 then { state := s, returned := some true, reads := [] }
  else
    let c := c.advanceDesc
    let pDescSps := c.pDesc0
    match m.read pDescSps with
    | none => { state := s, returned := none, reads := [pDescSps] }
    | some sps =>
      if sps.nalUnitType ≠ nalUnitTypeSps then
        { state := s.videoReadComplete 1, returned := some false, reads := [pDescSps] }
      else
        let c := c.advanceDesc
        let pDescPps := c.pDesc0
        match m.read pDescPps with
        -- `pDesc0` is compared with null in front of this read
        | none => { state := s, returned := some false, reads := [pDescSps] }
        | some pps =>
          if pps.nalUnitType ≠ nalUnitTypePps then { state := s, returned := some false, reads := [pDescSps, pDescPps] }
          else
            let f : EncodedFrame :=
              { frameData := [sps, pps]
                combinedSz := sps.length + pps.length
                clientFlags := { codecConfig := true } }
            { state := { s with emptyFrListLen := s.emptyFrListLen - 1, encodedFrList := s.encodedFrList ++ [f] }
              returned := some true
              reads := [pDescSps, pDescPps, pDescSps, pDescPps] }

/-- `GetCodecConfig` -/
def getCodecConfig (s : EncoderOutput) : ConfigRun :=
  let size0 := m.seg0.length
  let r := m.findFrameStart size0 0 (.seg0 0)
  let count := r.1
  if count = size0 then { state := s.videoReadComplete count, returned := some false, reads := r.2.2 }
  else
    let s := if count ≠ 0 then s.videoReadComplete count else s
    let run := m.queueCodecConfig { pDesc0 := r.2.1, size0 := size0 - count, pDesc1 := m.desc1, size1 := m.seg1.length } s
    { run with reads := r.2.2 ++ run.reads }

end DescMemory
end BcmPlatform.Bomx
