import MojoMedia.FrameworkMojo.StreamTypes
import MojoMedia.Shared.Alignment
import MojoMedia.Shared.Placement

set_option autoImplicit false

-- Sizes are `size_t`, and wrap.
namespace MojoMedia.VideoStreamType

open Alignment Placement

def kFrameSizeAlignment : UInt64 := 16

def kFrameSizePadding : UInt64 := 16

def kUPlaneIndex : Nat := 1

def roundUpToAlign (value alignment : UInt64) : UInt64 :=
  (value + (alignment - 1)) &&& ~~~(alignment - 1)

structure Extent where
  width : UInt64
  height : UInt64
  deriving Repr, DecidableEq

def asInt (value : UInt64) : UInt64 :=
  UInt64.ofBitVec ((value.toBitVec.setWidth 32).signExtend 64)

def Extent.ofSizes (width height : UInt64) : Extent where
  width := asInt width
  height := asInt height

structure Plane where
  bytesPerElement : UInt64
  sampleSize : Extent
  deriving Repr, DecidableEq

structure PixelFormatInfo where
  planes : List Plane
  deriving Repr, DecidableEq

def full : Extent := ⟨1, 1⟩

def infoForPixelFormat : PixelFormat → Option PixelFormatInfo
  | .unknown => none
  | .i420 | .yv12 => some ⟨[⟨1, full⟩, ⟨1, ⟨2, 2⟩⟩, ⟨1, ⟨2, 2⟩⟩]⟩
  | .yv16 => some ⟨[⟨1, full⟩, ⟨1, ⟨2, 1⟩⟩, ⟨1, ⟨2, 1⟩⟩]⟩
  | .yv12A => some ⟨[⟨1, full⟩, ⟨1, ⟨2, 2⟩⟩, ⟨1, ⟨2, 2⟩⟩, ⟨1, full⟩]⟩
  | .yv24 => some ⟨[⟨1, full⟩, ⟨1, full⟩, ⟨1, full⟩]⟩
  | .nv12 | .nv21 | .mt21 => some ⟨[⟨1, full⟩, ⟨2, ⟨2, 2⟩⟩]⟩
  | .uyvy | .yuy2 => some ⟨[⟨2, full⟩]⟩
  | .argb | .xrgb | .rgb32 => some ⟨[⟨4, full⟩]⟩
  | .rgb24 => some ⟨[⟨3, full⟩]⟩
  | .mjpeg => some ⟨[⟨0, full⟩]⟩

namespace Plane

def rowCount (plane : Plane) (height : UInt64) : UInt64 :=
  roundUpToAlign height plane.sampleSize.height / plane.sampleSize.height

def columnCount (plane : Plane) (width : UInt64) : UInt64 :=
  roundUpToAlign width plane.sampleSize.width / plane.sampleSize.width

def bytesPerRow (plane : Plane) (width : UInt64) : UInt64 :=
  plane.bytesPerElement * plane.columnCount width

end Plane

structure FrameLayout where
  planeCount : Nat
  lineStride : List UInt64
  planeOffset : List UInt64
  size : UInt64
  deriving Repr, DecidableEq

namespace PixelFormatInfo

def commonAlignment (info : PixelFormatInfo) : Extent :=
  let common := info.planes.foldl
    (fun common plane =>
      Extent.mk (max common.width plane.sampleSize.width)
        (max common.height plane.sampleSize.height))
    ⟨0, 0⟩
  .ofSizes common.width common.height

def alignedSize (info : PixelFormatInfo) (unalignedSize : Extent) : Extent :=
  .ofSizes (roundUpToAlign unalignedSize.width info.commonAlignment.width)
    (roundUpToAlign unalignedSize.height info.commonAlignment.height)

end PixelFormatInfo

def layPlane (alignedSize : Extent) (layout : FrameLayout) (plane : Plane) : FrameLayout :=
  let height := roundUpToAlign (plane.rowCount alignedSize.height) (kFrameSizeAlignment * 2)
  let lineStride := roundUpToAlign (plane.bytesPerRow alignedSize.width) kFrameSizeAlignment
  { layout with
    lineStride := layout.lineStride ++ [lineStride]
    planeOffset := layout.planeOffset ++ [layout.size]
    size := layout.size + height * lineStride }

-- The code asserts that there is a U plane. Without one, no stride has been written for it.
def PixelFormatInfo.buildFrameLayout (info : PixelFormatInfo) (codedSize : Extent) :
    Option FrameLayout :=
  let layout := info.planes.foldl (layPlane (info.alignedSize codedSize)) ⟨0, [], [], 0⟩
  layout.lineStride[kUPlaneIndex]?.map fun lineStride =>
    { layout with
      planeCount := info.planes.length
      size := layout.size + (lineStride + kFrameSizePadding) }

structure Plane.Listed (plane : Plane) : Prop where
  bytesPerElement : plane.bytesPerElement.toNat ≤ 4
  width : plane.sampleSize.width = 1 ∨ plane.sampleSize.width = 2
  height : plane.sampleSize.height = 1 ∨ plane.sampleSize.height = 2

theorem listed {format : PixelFormat} {info : PixelFormatInfo}
    (found : infoForPixelFormat format = some info) : ∀ plane ∈ info.planes, plane.Listed := by
  have entries : ∀ plane ∈ info.planes, plane.bytesPerElement.toNat ≤ 4 ∧
      (plane.sampleSize.width = 1 ∨ plane.sampleSize.width = 2) ∧
      (plane.sampleSize.height = 1 ∨ plane.sampleSize.height = 2) := by
    cases format <;> cases found <;> decide
  intro plane member
  exact ⟨(entries plane member).1, (entries plane member).2.1, (entries plane member).2.2⟩

theorem commonAlignment_listed {format : PixelFormat} {info : PixelFormatInfo}
    (found : infoForPixelFormat format = some info) :
    (info.commonAlignment.width = 1 ∨ info.commonAlignment.width = 2) ∧
      (info.commonAlignment.height = 1 ∨ info.commonAlignment.height = 2) := by
  cases format <;> cases found <;> decide

theorem asInt_of_lt {value : UInt64} (small : value.toNat < 2 ^ 31) : asInt value = value := by
  have cut : (value.toBitVec.setWidth 32).toNat = value.toNat := by
    rw [BitVec.toNat_setWidth, UInt64.toNat_toBitVec, Nat.mod_eq_of_lt (by omega)]
  have msb : (value.toBitVec.setWidth 32).msb = false := by
    rw [BitVec.msb_eq_false_iff_two_mul_lt, cut]
    omega
  rw [asInt, BitVec.signExtend_eq_setWidth_of_msb_false msb]
  apply UInt64.toNat_inj.mp
  rw [UInt64.toNat_ofBitVec, BitVec.toNat_setWidth, cut, Nat.mod_eq_of_lt (by omega)]

theorem toNat_roundUpToAlign {value alignment : UInt64} (bits : Nat)
    (power : alignment.toNat = 2 ^ bits)
    (small : value.toNat + (alignment.toNat - 1) < 2 ^ 64) :
    (roundUpToAlign value alignment).toNat = roundUp value.toNat alignment.toNat := by
  have some : 1 ≤ alignment.toNat := by
    rw [power]
    exact Nat.one_le_two_pow
  have mask : (alignment - 1).toNat = alignment.toNat - 1 :=
    UInt64.toNat_sub_of_le _ _ (UInt64.le_iff_toNat_le.mpr some)
  have sum : (value + (alignment - 1)).toNat = value.toNat + (alignment.toNat - 1) := by
    rw [UInt64.toNat_add, mask, Nat.mod_eq_of_lt small]
  change ((value + (alignment - 1)).toBitVec &&& ~~~(alignment - 1).toBitVec).toNat = _
  rw [toNat_and_not_mask _ _ bits]
  · change (value + (alignment - 1)).toNat / _ * _ = _
    rw [sum, roundUp, power]
  · change (alignment - 1).toNat = _
    rw [mask, power]

namespace Plane

-- What the functions compute as long as nothing is cut off.
def rows (plane : Plane) (height : Nat) : Nat :=
  roundUp height plane.sampleSize.height.toNat / plane.sampleSize.height.toNat

def columns (plane : Plane) (width : Nat) : Nat :=
  roundUp width plane.sampleSize.width.toNat / plane.sampleSize.width.toNat

def bytes (plane : Plane) (width : Nat) : Nat :=
  plane.bytesPerElement.toNat * plane.columns width

def stride (plane : Plane) (width : Nat) : Nat :=
  roundUp (plane.bytes width) kFrameSizeAlignment.toNat

def room (plane : Plane) (width height : Nat) : Nat :=
  roundUp (plane.rows height) (kFrameSizeAlignment * 2).toNat * plane.stride width

theorem rows_mono (plane : Plane) {height larger : Nat} (order : height ≤ larger) :
    plane.rows height ≤ plane.rows larger :=
  Nat.div_le_div_right (roundUp_mono _ order)

theorem bytes_mono (plane : Plane) {width larger : Nat} (order : width ≤ larger) :
    plane.bytes width ≤ plane.bytes larger :=
  Nat.mul_le_mul_left _ (Nat.div_le_div_right (roundUp_mono _ order))

end Plane

theorem toNat_count {value sampleSize : UInt64} (few : sampleSize = 1 ∨ sampleSize = 2)
    (small : value.toNat < 2 ^ 31) :
    (roundUpToAlign value sampleSize / sampleSize).toNat =
      roundUp value.toNat sampleSize.toNat / sampleSize.toNat := by
  rw [UInt64.toNat_div]
  rcases few with rfl | rfl
  · rw [toNat_roundUpToAlign 0 rfl]
    change _ + (1 - 1) < _
    omega
  · rw [toNat_roundUpToAlign 1 rfl]
    change _ + (2 - 1) < _
    omega

theorem count_le {value : Nat} {sampleSize : UInt64} (few : sampleSize = 1 ∨ sampleSize = 2)
    (small : value < 2 ^ 31) : roundUp value sampleSize.toNat / sampleSize.toNat ≤ 2 ^ 31 := by
  have bound := roundUp_le value sampleSize.toNat
  have quotient := Nat.div_le_self (roundUp value sampleSize.toNat) sampleSize.toNat
  have most : sampleSize.toNat ≤ 2 := by
    rcases few with rfl | rfl <;> decide
  omega

namespace Plane

variable {plane : Plane} (listed : plane.Listed)
include listed

theorem rows_le {height : Nat} (small : height < 2 ^ 31) : plane.rows height ≤ 2 ^ 31 :=
  count_le listed.height small

theorem bytes_le {width : Nat} (small : width < 2 ^ 31) : plane.bytes width ≤ 4 * 2 ^ 31 :=
  Nat.mul_le_mul listed.bytesPerElement (count_le listed.width small)

theorem toNat_rowCount {height : UInt64} (small : height.toNat < 2 ^ 31) :
    (plane.rowCount height).toNat = plane.rows height.toNat :=
  toNat_count listed.height small

theorem toNat_bytesPerRow {width : UInt64} (small : width.toNat < 2 ^ 31) :
    (plane.bytesPerRow width).toNat = plane.bytes width.toNat := by
  have bound := bytes_le listed small
  rw [bytes, columns] at bound
  rw [bytesPerRow, UInt64.toNat_mul, columnCount, toNat_count listed.width small, bytes, columns]
  exact Nat.mod_eq_of_lt (by omega)

theorem toNat_lineStride {width : UInt64} (small : width.toNat < 2 ^ 31) :
    (roundUpToAlign (plane.bytesPerRow width) kFrameSizeAlignment).toNat =
      plane.stride width.toNat := by
  have bound := bytes_le listed small
  have sixteen : kFrameSizeAlignment.toNat = 16 := rfl
  rw [toNat_roundUpToAlign 4 rfl, toNat_bytesPerRow listed small, stride]
  rw [toNat_bytesPerRow listed small]
  omega

theorem toNat_height {height : UInt64} (small : height.toNat < 2 ^ 31) :
    (roundUpToAlign (plane.rowCount height) (kFrameSizeAlignment * 2)).toNat =
      roundUp (plane.rows height.toNat) (kFrameSizeAlignment * 2).toNat := by
  have bound := rows_le listed small
  have double : (kFrameSizeAlignment * 2).toNat = 32 := rfl
  rw [toNat_roundUpToAlign 5 rfl, toNat_rowCount listed small]
  rw [toNat_rowCount listed small]
  omega

end Plane

theorem foldl_layPlane {alignedSize : Extent} (narrow : alignedSize.width.toNat < 2 ^ 31)
    (low : alignedSize.height.toNat < 2 ^ 31) (planes : List Plane)
    (listed : ∀ plane ∈ planes, plane.Listed) (layout : FrameLayout)
    (fits : layout.size.toNat +
      (planes.map (Plane.room · alignedSize.width.toNat alignedSize.height.toNat)).sum < 2 ^ 64) :
    (planes.foldl (layPlane alignedSize) layout).lineStride.map UInt64.toNat =
        layout.lineStride.map UInt64.toNat ++
          planes.map (Plane.stride · alignedSize.width.toNat) ∧
      (planes.foldl (layPlane alignedSize) layout).planeOffset.map UInt64.toNat =
        layout.planeOffset.map UInt64.toNat ++
          starts layout.size.toNat
            (planes.map (Plane.room · alignedSize.width.toNat alignedSize.height.toNat)) ∧
      (planes.foldl (layPlane alignedSize) layout).size.toNat =
        layout.size.toNat +
          (planes.map (Plane.room · alignedSize.width.toNat alignedSize.height.toNat)).sum := by
  induction planes generalizing layout with
  | nil => simp [starts]
  | cons plane planes ih =>
    have first := listed plane List.mem_cons_self
    rw [List.map_cons, List.sum_cons] at fits
    have size : (layPlane alignedSize layout plane).size.toNat =
        layout.size.toNat + plane.room alignedSize.width.toNat alignedSize.height.toNat := by
      simp only [layPlane, UInt64.toNat_add, UInt64.toNat_mul, Plane.toNat_height first low,
        Plane.toNat_lineStride first narrow, Nat.add_mod_mod]
      apply Nat.mod_eq_of_lt
      change layout.size.toNat + plane.room _ _ < _
      omega
    have stride : (layPlane alignedSize layout plane).lineStride.map UInt64.toNat =
        layout.lineStride.map UInt64.toNat ++ [plane.stride alignedSize.width.toNat] := by
      rw [← Plane.toNat_lineStride first narrow]
      exact List.map_append
    have offset : (layPlane alignedSize layout plane).planeOffset.map UInt64.toNat =
        layout.planeOffset.map UInt64.toNat ++ [layout.size.toNat] := List.map_append
    obtain ⟨strides, offsets, total⟩ := ih
      (fun other member => listed other (List.mem_cons_of_mem _ member))
      (layPlane alignedSize layout plane) (by rw [size]; omega)
    rw [stride, List.append_assoc] at strides
    rw [offset, List.append_assoc, size] at offsets
    rw [size, Nat.add_assoc] at total
    exact ⟨strides, offsets, total⟩

def FrameLayout.lineStrideForPlane (layout : FrameLayout) (plane : Nat) : UInt64 :=
  layout.lineStride.getD plane 0

def FrameLayout.planeOffsetForPlane (layout : FrameLayout) (plane : Nat) : UInt64 :=
  layout.planeOffset.getD plane 0

def FrameLayout.planeEnd (layout : FrameLayout) (index : Nat) (plane : Plane) (height : UInt64) :
    Nat :=
  (layout.planeOffsetForPlane index).toNat +
    (plane.rowCount height).toNat * (layout.lineStrideForPlane index).toNat

structure FrameLayout.Sound (layout : FrameLayout) (info : PixelFormatInfo)
    (codedSize : Extent) : Prop where
  written : layout.planeCount = info.planes.length ∧
    layout.lineStride.length = info.planes.length ∧
    layout.planeOffset.length = info.planes.length
  aligned : ∀ stride ∈ layout.lineStride, kFrameSizeAlignment.toNat ∣ stride.toNat
  rowFits : ∀ (index : Nat) (plane : Plane), info.planes[index]? = some plane →
    (plane.bytesPerRow codedSize.width).toNat ≤ (layout.lineStrideForPlane index).toNat
  disjoint : ∀ (index other : Nat) (plane : Plane), index < other → other < info.planes.length →
    info.planes[index]? = some plane →
    layout.planeEnd index plane codedSize.height ≤ (layout.planeOffsetForPlane other).toNat
  inside : ∀ (index : Nat) (plane : Plane), info.planes[index]? = some plane →
    layout.planeEnd index plane codedSize.height ≤ layout.size.toNat

def alignedWidth (info : PixelFormatInfo) (codedSize : Extent) : Nat :=
  roundUp codedSize.width.toNat info.commonAlignment.width.toNat

def alignedHeight (info : PixelFormatInfo) (codedSize : Extent) : Nat :=
  roundUp codedSize.height.toNat info.commonAlignment.height.toNat

def rooms (info : PixelFormatInfo) (codedSize : Extent) : List Nat :=
  info.planes.map (Plane.room · (alignedWidth info codedSize) (alignedHeight info codedSize))

def strides (info : PixelFormatInfo) (codedSize : Extent) : List Nat :=
  info.planes.map (Plane.stride · (alignedWidth info codedSize))

structure NoOverflow (info : PixelFormatInfo) (codedSize : Extent) : Prop where
  narrow : alignedWidth info codedSize < 2 ^ 31
  low : alignedHeight info codedSize < 2 ^ 31
  size : (rooms info codedSize).sum +
    ((strides info codedSize)[kUPlaneIndex]?.getD 0 + kFrameSizePadding.toNat) < 2 ^ 64

theorem toNat_aligned {value alignment : UInt64} (few : alignment = 1 ∨ alignment = 2)
    (small : roundUp value.toNat alignment.toNat < 2 ^ 31) :
    value.toNat ≤ roundUp value.toNat alignment.toNat ∧
      (asInt (roundUpToAlign value alignment)).toNat = roundUp value.toNat alignment.toNat := by
  have rounded : value.toNat ≤ roundUp value.toNat alignment.toNat ∧
      (roundUpToAlign value alignment).toNat = roundUp value.toNat alignment.toNat := by
    rcases few with rfl | rfl
    · have above := le_roundUp value.toNat (by decide : 0 < (1 : UInt64).toNat)
      refine ⟨above, toNat_roundUpToAlign 0 rfl ?_⟩
      change _ + (1 - 1) < _
      omega
    · have above := le_roundUp value.toNat (by decide : 0 < (2 : UInt64).toNat)
      refine ⟨above, toNat_roundUpToAlign 1 rfl ?_⟩
      change _ + (2 - 1) < _
      omega
  refine ⟨rounded.1, ?_⟩
  rw [asInt_of_lt (by rwa [rounded.2]), rounded.2]

section Listed

variable {format : PixelFormat} {info : PixelFormatInfo} {codedSize : Extent}
  (found : infoForPixelFormat format = some info) (fits : NoOverflow info codedSize)
include found fits

theorem toNat_alignedSize_width :
    codedSize.width.toNat ≤ alignedWidth info codedSize ∧
      (info.alignedSize codedSize).width.toNat = alignedWidth info codedSize :=
  toNat_aligned (commonAlignment_listed found).1 fits.narrow

theorem toNat_alignedSize_height :
    codedSize.height.toNat ≤ alignedHeight info codedSize ∧
      (info.alignedSize codedSize).height.toNat = alignedHeight info codedSize :=
  toNat_aligned (commonAlignment_listed found).2 fits.low

end Listed

structure FrameLayout.Laid (layout : FrameLayout) (info : PixelFormatInfo) (codedSize : Extent)
    (size : Nat) : Prop where
  strided : layout.lineStride.map UInt64.toNat = strides info codedSize
  placed : layout.planeOffset.map UInt64.toNat = starts 0 (rooms info codedSize)
  sized : layout.size.toNat = size

namespace FrameLayout.Laid

variable {layout : FrameLayout} {info : PixelFormatInfo} {codedSize : Extent} {size : Nat}
  (laid : layout.Laid info codedSize size)
include laid

theorem length_lineStride : layout.lineStride.length = info.planes.length := by
  simpa [strides] using congrArg List.length laid.strided

theorem length_planeOffset : layout.planeOffset.length = info.planes.length := by
  simpa [rooms] using congrArg List.length laid.placed

theorem lineStride_eq {index : Nat} {plane : Plane} (there : info.planes[index]? = some plane) :
    (layout.lineStrideForPlane index).toNat = plane.stride (alignedWidth info codedSize) := by
  have strided := congrArg (fun strides => strides[index]?) laid.strided
  simp only [strides, List.getElem?_map, there, Option.map_some] at strided
  obtain ⟨stride, written, same⟩ := Option.map_eq_some_iff.mp strided
  rw [lineStrideForPlane, List.getD_eq_getElem?_getD, written]
  exact same

theorem start_eq {index : Nat} (inside : index < info.planes.length) :
    (starts 0 (rooms info codedSize))[index]? = some (layout.planeOffsetForPlane index).toNat := by
  rw [← laid.placed, List.getElem?_map, planeOffsetForPlane, List.getD_eq_getElem?_getD,
    List.getElem?_eq_getElem (by rw [laid.length_planeOffset]; exact inside)]
  rfl

theorem padded (fits : NoOverflow info codedSize) {lineStride : UInt64}
    (there : layout.lineStride[kUPlaneIndex]? = some lineStride)
    (whole : size = (rooms info codedSize).sum) :
    FrameLayout.Laid
      { layout with
        planeCount := info.planes.length
        size := layout.size + (lineStride + kFrameSizePadding) }
      info codedSize (size + (lineStride.toNat + kFrameSizePadding.toNat)) := by
  have total := fits.size
  rw [← laid.strided, List.getElem?_map, there, Option.map_some, Option.getD_some, ← whole]
    at total
  refine ⟨laid.strided, laid.placed, ?_⟩
  change (layout.size + (lineStride + kFrameSizePadding)).toNat = _
  rw [UInt64.toNat_add, UInt64.toNat_add, laid.sized, Nat.add_mod_mod, Nat.mod_eq_of_lt total]

end FrameLayout.Laid

section Listed

variable {format : PixelFormat} {info : PixelFormatInfo} {codedSize : Extent}
  (found : infoForPixelFormat format = some info) (fits : NoOverflow info codedSize)
include found fits

theorem foldl_planes :
    (info.planes.foldl (layPlane (info.alignedSize codedSize)) ⟨0, [], [], 0⟩).Laid info codedSize
      (rooms info codedSize).sum := by
  have width := (toNat_alignedSize_width found fits).2
  have height := (toNat_alignedSize_height found fits).2
  have total := fits.size
  have loop := foldl_layPlane (by rw [width]; exact fits.narrow) (by rw [height]; exact fits.low)
    info.planes (listed found) ⟨0, [], [], 0⟩
  rw [width, height, ← strides, ← rooms, UInt64.toNat_zero, Nat.zero_add] at loop
  obtain ⟨strided, placed, size⟩ := loop (by omega)
  exact ⟨strided, placed, size⟩

theorem planeEnd_le {layout : FrameLayout} {size index : Nat} {plane : Plane}
    (laid : layout.Laid info codedSize size) (there : info.planes[index]? = some plane) :
    layout.planeEnd index plane codedSize.height ≤
      (layout.planeOffsetForPlane index).toNat +
        plane.room (alignedWidth info codedSize) (alignedHeight info codedSize) := by
  have first := listed found plane (List.mem_of_getElem? there)
  have order := (toNat_alignedSize_height found fits).1
  have low := Nat.lt_of_le_of_lt order fits.low
  have rows : plane.rows codedSize.height.toNat ≤
      roundUp (plane.rows (alignedHeight info codedSize)) (kFrameSizeAlignment * 2).toNat :=
    Nat.le_trans (plane.rows_mono order) (le_roundUp _ (by decide))
  rw [FrameLayout.planeEnd, laid.lineStride_eq there, Plane.toNat_rowCount first low]
  exact Nat.add_le_add_left (Nat.mul_le_mul_right _ rows) _

theorem sound_of_laid {layout : FrameLayout} {size : Nat} (laid : layout.Laid info codedSize size)
    (count : layout.planeCount = info.planes.length) (enough : (rooms info codedSize).sum ≤ size) :
    layout.Sound info codedSize := by
  have roomed : ∀ (index : Nat) (plane : Plane), info.planes[index]? = some plane →
      (rooms info codedSize)[index]? =
        some (plane.room (alignedWidth info codedSize) (alignedHeight info codedSize)) := by
    intro index plane there
    rw [rooms, List.getElem?_map, there]
    rfl
  constructor
  · exact ⟨count, laid.length_lineStride, laid.length_planeOffset⟩
  · intro stride member
    have rounded : stride.toNat ∈ strides info codedSize := by
      rw [← laid.strided]
      exact List.mem_map_of_mem member
    obtain ⟨plane, -, same⟩ := List.mem_map.mp rounded
    rw [← same]
    exact dvd_roundUp _ _
  · intro index plane there
    have first := listed found plane (List.mem_of_getElem? there)
    have order := (toNat_alignedSize_width found fits).1
    have narrow := Nat.lt_of_le_of_lt order fits.narrow
    rw [laid.lineStride_eq there, Plane.toNat_bytesPerRow first narrow]
    exact Nat.le_trans (plane.bytes_mono order) (le_roundUp _ (by decide))
  · intro index other plane order inside there
    exact Nat.le_trans (planeEnd_le found fits laid there)
      (end_le_start order (laid.start_eq (Nat.lt_trans order inside)) (roomed index plane there)
        (laid.start_eq inside))
  · intro index plane there
    have inside := (List.getElem?_eq_some_iff.mp there).1
    have bound := end_le (laid.start_eq inside) (roomed index plane there)
    have ends := planeEnd_le found fits laid there
    rw [laid.sized]
    omega

end Listed

theorem buildFrameLayout_sound (format : PixelFormat) (info : PixelFormatInfo)
    (found : infoForPixelFormat format = some info) (two : kUPlaneIndex < info.planes.length)
    (codedSize : Extent) (fits : NoOverflow info codedSize) :
    ∃ layout, info.buildFrameLayout codedSize = some layout ∧ layout.Sound info codedSize := by
  have laid := foldl_planes found fits
  rw [← laid.length_lineStride] at two
  have there := List.getElem?_eq_getElem two
  refine ⟨_, Option.map_eq_some_iff.mpr ⟨_, there, rfl⟩, ?_⟩
  exact sound_of_laid found fits (laid.padded fits there rfl) rfl (Nat.le_add_right _ _)

def threePlanes : PixelFormatInfo := ⟨[⟨1, full⟩, ⟨1, ⟨2, 2⟩⟩, ⟨1, ⟨2, 2⟩⟩]⟩

theorem i420_laid_out :
    ∃ layout, threePlanes.buildFrameLayout ⟨641, 479⟩ = some layout ∧
      layout.Sound threePlanes ⟨641, 479⟩ := by
  have fits : NoOverflow threePlanes ⟨641, 479⟩ := by
    constructor <;> decide
  exact buildFrameLayout_sound .i420 threePlanes rfl (by decide) ⟨641, 479⟩ fits

theorem argb_not_laid_out :
    infoForPixelFormat .argb = some ⟨[⟨4, full⟩]⟩ ∧ NoOverflow ⟨[⟨4, full⟩]⟩ ⟨640, 480⟩ ∧
      ¬ ∃ layout, PixelFormatInfo.buildFrameLayout ⟨[⟨4, full⟩]⟩ ⟨640, 480⟩ = some layout ∧
        layout.Sound ⟨[⟨4, full⟩]⟩ ⟨640, 480⟩ := by
  refine ⟨rfl, ?_, ?_⟩
  · constructor <;> decide
  · rintro ⟨layout, built, -⟩
    cases built

end MojoMedia.VideoStreamType
