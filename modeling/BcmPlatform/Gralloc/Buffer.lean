import BcmPlatform.Bomx.Yv12
import BcmPlatform.Lib.IntCalc

/-! The size of a gralloc buffer: what `gralloc_alloc_buffer` computes for a width, a height, a format and a usage, on a build
    without the V3D driver, and where the lock and the destripe blits put the planes. -/

namespace BcmPlatform.Gralloc
open Lib Bomx

/-- The formats that are told apart. -/
inductive PixelFormat where
  | rgba8888
  | rgbx8888
  | rgb888
  | implementationDefined
  | rgb565
  | yv12
  | ycbcr420_888
  | other
  deriving DecidableEq, Repr

/-- `HAL_PIXEL_FORMAT_YV12` and `HAL_PIXEL_FORMAT_YCbCr_420_888`. -/
def PixelFormat.isYuv : PixelFormat → Bool
  | yv12 | ycbcr420_888 => true
  | _ => false

/-- The `GRALLOC_USAGE_` bits that are asked for; a mask is whether one of its bits is set. -/
structure Usage where
  isProtected : Bool := false
  private0 : Bool := false
  hwTexture : Bool := false
  swReadOften : Bool := false
  swReadMask : Bool := false
  swWriteMask : Bool := false
  deriving DecidableEq, Repr

/-- `bpp` of `getNexusPixelFormat`; `none` is `NEXUS_PixelFormat_eUnknown`. -/
def getNexusPixelFormat : PixelFormat → Option Nat
  | .rgba8888 | .rgbx8888 | .rgb888 | .implementationDefined => some 4
  | .rgb565 => some 2
  | .yv12 | .ycbcr420_888 => some 2
  | .other => none

/-! ### Sizes -/

/-- `*alignment`, `*pStride` and `*size`. -/
structure BufferData where
  alignment : Int
  stride : IntCalc
  size : IntCalc
  deriving DecidableEq, Repr

/-- `(x + (alignment-1)) & ~(alignment-1)` -/
def alignUp (x : IntCalc) (alignment : Int) : IntCalc := (x + ((alignment - 1 : Int) : IntCalc)).alignDown alignment

def getBufferDataFromFormat (alignment w h bpp : Int) (format : PixelFormat) : BufferData :=
  let w : IntCalc := w
  let h : IntCalc := h
  match format with
  | .rgba8888 | .rgbx8888 | .rgb888 | .implementationDefined | .rgb565 =>
    let pitch := alignUp (w * (bpp : IntCalc)) alignment
    { alignment, stride := pitch / (bpp : IntCalc), size := pitch * h }
  | .yv12 | .ycbcr420_888 =>
    let stride := alignUp w 16
    { alignment := 16
      stride
      size := stride * h + ((2 : Int) : IntCalc) * (h / ((2 : Int) : IntCalc) * alignUp (stride / ((2 : Int) : IntCalc)) 16) }
  | .other => { alignment, stride := (0 : Int), size := (0 : Int) }

/-- An `int` as `unsigned`. -/
def unsigned (x : Int) : Nat := (x % u32).toNat

/-- `fmt_set`; `GR_NONE` is set in all of them. -/
inductive FmtSet where
  | none
  | standard
  | yv12 (hwTexture : Bool)
  deriving DecidableEq, Repr

/-- The planes that a format and a usage ask for. -/
def fmtSet (format : PixelFormat) (usage : Usage) (w h : Int) : FmtSet :=
  if !format.isYuv then .standard
  else if usage.isProtected then .none
  else if !usage.private0 || usage.swReadOften || usage.hwTexture then
    .yv12 (usage.hwTexture && w ≤ 1920 && h ≤ 1200)
  else .none

/-- `SHARED_DATA`'s `container`; `physAddr` is whether there is a plane. -/
structure Container where
  format : PixelFormat
  bpp : Nat
  width : Nat
  height : Nat
  physAddr : Bool
  size : Nat
  allocSize : Nat
  stride : Nat
  deriving DecidableEq, Repr

/-- `oglStride` and `oglSize`, from `setupGLSuitableBuffer`; `none` is an error. -/
def setupGLSuitableBuffer (container : Container) : Option (Nat × Nat) :=
  match container.format with
  | .rgba8888 | .rgbx8888 | .rgb888 | .implementationDefined | .rgb565 =>
    let oglStride := container.width * container.bpp % u32
    some (oglStride, container.height * oglStride % u32)
  | .yv12 | .ycbcr420_888 => some (container.stride, container.size)
  | .other => none

/-! ### Planes -/

/-- `(stride/2 + (alignment-1)) & ~(alignment-1)` -/
def cstride (container : Container) (alignment : Nat) : Nat := maskUp (container.stride / 2) alignment

/-- The planes of `gralloc_lock_ycbcr`, relative to Y. Their strides and starts are all that it gives; the samples are those of
    the picture. -/
def lockYcbcrPlanes (container : Container) (alignment : Nat) : Yv12Planes :=
  let cr := container.stride * container.height % u32
  let cb := (cr + container.height / 2 * cstride container alignment) % u32
  let plane (offset : Nat) : YuvPlane :=
    { offset, rowInc := cstride container alignment, width := (container.width + 1) / 2, rows := (container.height + 1) / 2 }
  { y := { offset := 0, rowInc := container.stride, width := container.width, rows := container.height }
    cr := plane cr
    cb := plane cb }

/-- The surfaces of `gralloc_destripe_yv12`. -/
def destripeSurfaces (container : Container) (alignment : Nat) : Yv12Planes :=
  let cr := container.stride * container.height % u32
  let plane (offset : Nat) : YuvPlane :=
    { offset, rowInc := cstride container alignment, width := container.width / 2, rows := container.height / 2 }
  { y := { offset := 0, rowInc := container.stride, width := container.width, rows := container.height }
    cr := plane cr
    cb := plane ((cr + container.height / 2 * cstride container alignment) % u32) }

end BcmPlatform.Gralloc
