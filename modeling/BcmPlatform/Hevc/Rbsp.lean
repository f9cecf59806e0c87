import Mathlib.Data.List.Basic

/-! `ExtractHEVCRbsp`: the payload of a NAL unit, copied without its emulation prevention bytes. -/

namespace BcmPlatform.Hevc

/-- The variables of the copy, and its accesses: the indices that it reads of `src`, and the bytes that it writes with
    their indices in `dst`. -/
structure RbspCopy where
  i : Nat := 0
  j : Nat := 0
  reads : List Nat := []
  writes : List (UInt8 × Nat) := []
  deriving DecidableEq, Repr

namespace RbspCopy

def read (index : Nat) (c : RbspCopy) : RbspCopy := { c with reads := c.reads ++ [index] }

/-- `dst[j++] = b` -/
def write (b : UInt8) (c : RbspCopy) : RbspCopy := { c with j := c.j + 1, writes := c.writes ++ [(b, c.j)] }

def skip (count : Nat) (c : RbspCopy) : RbspCopy := { c with i := c.i + count }

/-- `dst[j++] = src[i++]` -/
def copyByte (src : List UInt8) (c : RbspCopy) : RbspCopy := ((c.read c.i).write (src.getD c.i 0)).skip 1

/-- One iteration of the first loop. -/
def scan (src : List UInt8) (c : RbspCopy) : RbspCopy :=
  let c₁ := c.read c.i
  if src.getD c.i 0 ≠ 0 then c₁.copyByte src
  else
    let c₂ := c₁.read (c.i + 1)
    if src.getD (c.i + 1) 0 ≠ 0 then c₂.copyByte src
    else
      let c₃ := c₂.read (c.i + 2)
      if src.getD (c.i + 2) 0 = 3 then ((c₃.write 0).write 0).skip 3 else c₃.copyByte src

theorem i_lt_scan (src : List UInt8) (c : RbspCopy) : c.i < (c.scan src).i := by
  unfold scan
  split_ifs <;> simp only [copyByte, skip, write, read] <;> omega

/-- The first loop. -/
def scanLoop (src : List UInt8) (c : RbspCopy) : RbspCopy :=
  if c.i + 2 < src.length then scanLoop src (c.scan src) else c
termination_by src.length - c.i
decreasing_by
  have := i_lt_scan src c
  omega

/-- The second loop. -/
def copyLoop (src : List UInt8) (c : RbspCopy) : RbspCopy :=
  if c.i < src.length then copyLoop src (c.copyByte src) else c
termination_by src.length - c.i
decreasing_by
  simp only [copyByte, skip, write, read]
  omega

end RbspCopy

def extractHevcRbsp (src : List UInt8) : RbspCopy := RbspCopy.copyLoop src (RbspCopy.scanLoop src {})

end BcmPlatform.Hevc
