import BcmPlatform.Bomx.Omx

/-! The places that compute where the planes of a YV12 buffer are: gralloc, which allocates it, the two conversions of the
    encoder, the decoder's copy of a decoded picture, and the decoder's description of the format. All of it is arithmetic
    of 32 bits, in which the encoder's strides are signed. -/

namespace BcmPlatform.Bomx

/-- `(x + (alignment-1)) & ~(alignment-1)` -/
def maskUp (x alignment : Nat) : Nat := (x + (alignment - 1)) % u32 &&& (u32 - alignment)

/-- Half of a signed `stride`, cut towards 0. -/
def signedHalf (stride : Nat) : Nat :=
  if stride < 2147483648 then stride / 2 else (u32 - (u32 - stride) / 2) % u32

/-- A plane: where it starts in the buffer, and its rows of `rowInc` bytes, of which `width` are used. -/
structure YuvPlane where
  offset : Nat
  rowInc : Nat
  width : Nat
  rows : Nat
  deriving DecidableEq, Repr

structure Yv12Planes where
  y : YuvPlane
  cr : YuvPlane
  cb : YuvPlane
  deriving DecidableEq, Repr

/-- The fields of `SHARED_DATA`'s container that tell the size of a buffer, with the alignment of its handle. -/
structure GrallocBuffer where
  width : Nat
  height : Nat
  stride : Nat
  alignment : Nat
  deriving DecidableEq, Repr

/-- `getBufferDataFromFormat` for YV12: the alignment is forced to 16. -/
def grallocYv12 (w h : Nat) : GrallocBuffer := { width := w, height := h, stride := maskUp w 16, alignment := 16 }

/-- `BOMX_VideoEncoder::ExtractGrallocBuffer`: the stride is computed again, and all planes are relative to the buffer. -/
def extractGrallocBuffer (handle : GrallocBuffer) : Yv12Planes :=
  let width := handle.width
  let height := handle.height
  let alignment := handle.alignment
  let stride := maskUp width alignment
  let cstride := maskUp (signedHalf stride) alignment
  let crOffset := stride * height % u32
  let cbOffset := height / 2 * cstride % u32
  { y := { offset := 0, rowInc := stride, width, rows := height }
    cr := { offset := crOffset, rowInc := cstride, width := width / 2, rows := height / 2 }
    cb := { offset := cbOffset, rowInc := cstride, width := width / 2, rows := height / 2 } }

/-- `BOMX_VideoEncoder::ExtractNexusBuffer`: Cb comes first, and Cr is relative to it. -/
def extractNexusBuffer (width height : Nat) : Yv12Planes :=
  let stride := maskUp width 4
  let cstride := maskUp (signedHalf stride) 4
  let cbOffset := stride * height % u32
  let crOffset := height / 2 * cstride % u32
  { y := { offset := 0, rowInc := stride, width, rows := height }
    cr := { offset := cbOffset + crOffset, rowInc := cstride, width := width / 2, rows := height / 2 }
    cb := { offset := cbOffset, rowInc := cstride, width := width / 2, rows := height / 2 } }

/-- `BOMX_VideoDecoder::DestripeToYV12` -/
def destripeToYv12 (container : GrallocBuffer) : Yv12Planes :=
  let width := container.width
  let height := container.height
  let stride := container.stride
  let cstride := maskUp (stride / 2) 16
  let crOffset := stride * height % u32
  { y := { offset := 0, rowInc := stride, width, rows := height }
    cr := { offset := crOffset, rowInc := cstride, width := width / 2, rows := height / 2 }
    cb := { offset := (crOffset + height / 2 * cstride) % u32, rowInc := cstride, width := width / 2, rows := height / 2 } }

/-- What `MediaImage` tells of a plane. -/
structure PlaneInfo where
  mOffset : Nat
  mRowInc : Nat
  deriving DecidableEq, Repr

/-- `OMX_IndexParamDescribeColorFormat` for `HAL_PIXEL_FORMAT_YV12`: the planes Y, V and U. -/
def describeYv12 (nStride nSliceHeight : Nat) : PlaneInfo × PlaneInfo × PlaneInfo :=
  let yAlign := maskUp nStride 16
  let cAlign := maskUp (nStride / 2) 16
  let vOffset := yAlign * nSliceHeight % u32
  ({ mOffset := 0, mRowInc := yAlign }, { mOffset := vOffset, mRowInc := cAlign },
   { mOffset := (vOffset + cAlign * nSliceHeight % u32 / 2) % u32, mRowInc := cAlign })

def YuvPlane.info (p : YuvPlane) : PlaneInfo := { mOffset := p.offset, mRowInc := p.rowInc }

/-- The planes Y, V and U of a layout; V is Cr, and U is Cb. -/
def Yv12Planes.info (l : Yv12Planes) : PlaneInfo × PlaneInfo × PlaneInfo := (l.y.info, l.cr.info, l.cb.info)

end BcmPlatform.Bomx
