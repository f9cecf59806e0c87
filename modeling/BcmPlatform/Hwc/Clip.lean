import BcmPlatform.Lib.Spans

/-! How `hwc_compose_gralloc_buffer` clips a layer to its output surface. The two axes are clipped alike, the low edge before
    the high edge. A layer of YV12 is converted whole and scaled from there. -/

namespace BcmPlatform.Hwc
open Lib

/-- One axis of a `NEXUS_Rect`: a signed and an unsigned number of 16 bits. -/
structure NexusSpan extends Span where
  start_ge : -2 ^ 15 ≤ start
  start_lt : start < 2 ^ 15
  size_lt : size < 2 ^ 16
  deriving DecidableEq, Repr

/-- What the two fields hold after the numbers are assigned to them. -/
def NexusSpan.store (start : Int) (size : Nat) : NexusSpan where
  start := start.bmod (2 ^ 16)
  size := size % 2 ^ 16
  start_ge := by
    have h := Int.le_bmod (x := start) (m := 2 ^ 16) (by decide)
    omega
  start_lt := Int.bmod_lt (x := start) (m := 2 ^ 16) (by decide)
  size_lt := Nat.mod_lt _ (by decide)

structure NexusRect where
  /-- `x` and `width` -/
  horizontal : NexusSpan
  /-- `y` and `height` -/
  vertical : NexusSpan
  deriving DecidableEq, Repr

/-- `(adj <= size) ? size - adj : 0` -/
def cut (adj : Int) (size : Nat) : Nat := if adj ≤ size then (size - adj).toNat else 0

/-- The part outside of the low edge of the surface. -/
def clipLow (srcAdj outAdj : NexusSpan) : NexusSpan × NexusSpan :=
  if outAdj.start < 0 then
    let adj := -outAdj.start
    (.store (srcAdj.start + adj) (cut adj srcAdj.size), .store 0 (cut adj outAdj.size))
  else (srcAdj, outAdj)

/-- The part outside of the high edge of the surface. -/
def clipHigh (surface : Nat) (srcAdj outAdj : NexusSpan) : NexusSpan × NexusSpan :=
  if outAdj.start + outAdj.size > surface then
    let adj := outAdj.start + outAdj.size - surface
    (.store srcAdj.start (cut adj srcAdj.size), .store outAdj.start (cut adj outAdj.size))
  else (srcAdj, outAdj)

/-- One axis of `srcAdj` and `outAdj`. -/
def clipAxis (surface : Nat) (clipRect position : NexusSpan) : NexusSpan × NexusSpan :=
  let p := clipLow clipRect position
  clipHigh surface p.1 p.2

/-- The rectangles of a layer that is composed. -/
structure ClippedLayer where
  srcAdj : NexusRect
  outAdj : NexusRect
  deriving DecidableEq, Repr

/-- `srcAdj` and `outAdj` for a surface of this width and height; nothing when the layer is skipped. -/
def clipLayer (width height : Nat) (clipRect position : NexusRect) : Option ClippedLayer :=
  let x := clipAxis width clipRect.horizontal position.horizontal
  let y := clipAxis height clipRect.vertical position.vertical
  if x.2.size > 0 && y.2.size > 0 && x.1.size > 0 && y.1.size > 0 then
    some { srcAdj := { horizontal := x.1, vertical := y.1 }, outAdj := { horizontal := x.2, vertical := y.2 } }
  else none

/-- The source of a layer of YV12 is the whole plane of the converted picture. -/
def yv12Source (container : Nat) : Span := { start := 0, size := container }

end BcmPlatform.Hwc
